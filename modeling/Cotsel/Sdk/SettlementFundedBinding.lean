import Cotsel.Library.Guard
import Cotsel.Library.Json
import Cotsel.Library.Text

/-!
# Funded settlement bindings

`sdk/src/settlementFundedBinding.ts`: the record that ties a progression instruction to the trade
it was funded for.  Every field is a string, so a binding is a function from the fields to
strings, and the loops of the source over lists of keys are loops over lists of fields.

`parseSettlementFundedBinding` takes an arbitrary JavaScript value.  Of such a value it looks at
the own keys and at which properties are strings (`JsValue`).  A string is a list of Unicode
characters; its `length` counts UTF-16 units (`utf16Length`).

The source calls `getAddress` of `ethers`, which is a parameter (`AddressCodec`).
-/

namespace Cotsel.Sdk

open Guard Text

/-! ### Phases and fields -/

/-- `FUNDED_SETTLEMENT_PHASES`. -/
inductive Phase
  | initialReleaseAfterCustodyAndDocuments
  | inspectionAvailableStandard
  | inspectionAvailablePackagedLocal
  | finalReleaseAfterInspectionAcceptance
  | finalReleaseAfterNoticeDeadline
  | disputeResolution
deriving DecidableEq

def Phase.name : Phase → String
  | .initialReleaseAfterCustodyAndDocuments => "initial_release_after_custody_and_documents"
  | .inspectionAvailableStandard => "inspection_available_standard"
  | .inspectionAvailablePackagedLocal => "inspection_available_packaged_local"
  | .finalReleaseAfterInspectionAcceptance => "final_release_after_inspection_acceptance"
  | .finalReleaseAfterNoticeDeadline => "final_release_after_notice_deadline"
  | .disputeResolution => "dispute_resolution"

def Phase.text (p : Phase) : List Char := lit p.name

def fundedSettlementPhases : List Phase :=
  [.initialReleaseAfterCustodyAndDocuments, .inspectionAvailableStandard,
    .inspectionAvailablePackagedLocal, .finalReleaseAfterInspectionAcceptance,
    .finalReleaseAfterNoticeDeadline, .disputeResolution]

/-- The keys of `SettlementFundedBinding`. -/
inductive Field
  | scopeVersion
  | ownerServiceId
  | sourceOperationId
  | phase
  | chainId
  | escrowAddress
  | tokenAddress
  | tradeId
  | buyerAddress
  | supplierAddress
  | ricardianHash
  | totalAmount
  | logisticsAmount
  | platformFeesAmount
  | supplierFirstTranche
  | supplierSecondTranche
  | supplierPayoutAmount
  | treasuryAccrualAmount
  | buyerRefundAmount
  | fundingTransactionHash
  | fundingBlockNumber
  | fundingBlockHash
  | originalFundingFingerprint
deriving DecidableEq

/-- `fields`, in the order of the source. -/
def fields : List Field :=
  [.scopeVersion, .ownerServiceId, .sourceOperationId, .phase, .chainId, .escrowAddress,
    .tokenAddress, .tradeId, .buyerAddress, .supplierAddress, .ricardianHash, .totalAmount,
    .logisticsAmount, .platformFeesAmount, .supplierFirstTranche, .supplierSecondTranche,
    .supplierPayoutAmount, .treasuryAccrualAmount, .buyerRefundAmount, .fundingTransactionHash,
    .fundingBlockNumber, .fundingBlockHash, .originalFundingFingerprint]

theorem mem_fields (f : Field) : f ∈ fields := by
  cases f <;> decide

def Field.name : Field → String
  | .scopeVersion => "scopeVersion"
  | .ownerServiceId => "ownerServiceId"
  | .sourceOperationId => "sourceOperationId"
  | .phase => "phase"
  | .chainId => "chainId"
  | .escrowAddress => "escrowAddress"
  | .tokenAddress => "tokenAddress"
  | .tradeId => "tradeId"
  | .buyerAddress => "buyerAddress"
  | .supplierAddress => "supplierAddress"
  | .ricardianHash => "ricardianHash"
  | .totalAmount => "totalAmount"
  | .logisticsAmount => "logisticsAmount"
  | .platformFeesAmount => "platformFeesAmount"
  | .supplierFirstTranche => "supplierFirstTranche"
  | .supplierSecondTranche => "supplierSecondTranche"
  | .supplierPayoutAmount => "supplierPayoutAmount"
  | .treasuryAccrualAmount => "treasuryAccrualAmount"
  | .buyerRefundAmount => "buyerRefundAmount"
  | .fundingTransactionHash => "fundingTransactionHash"
  | .fundingBlockNumber => "fundingBlockNumber"
  | .fundingBlockHash => "fundingBlockHash"
  | .originalFundingFingerprint => "originalFundingFingerprint"

theorem nodup_fields : fields.Nodup := by decide

/-- A binding: a string for each field. -/
abbrev SettlementFundedBinding := Field → List Char

instance : DecidableEq SettlementFundedBinding := fun b c =>
  decidable_of_iff (∀ f ∈ fields, b f = c f)
    ⟨fun h => funext fun f => h f (mem_fields f), fun h _ _ => congrFun h _⟩

/-- The fields that hold a `uint256` in decimal. -/
def decimalFields : List Field :=
  [.chainId, .tradeId, .totalAmount, .logisticsAmount, .platformFeesAmount,
    .supplierFirstTranche, .supplierSecondTranche, .supplierPayoutAmount,
    .treasuryAccrualAmount, .buyerRefundAmount, .fundingBlockNumber]

def addressFields : List Field :=
  [.escrowAddress, .tokenAddress, .buyerAddress, .supplierAddress]

def hashFields : List Field := [.ricardianHash, .fundingTransactionHash, .fundingBlockHash]

/-! ### Values -/

/-- A property key: the name of a field of a binding, or another one. -/
inductive PropertyKey
  | field (f : Field)
  | other (name : String)
deriving DecidableEq

/-- The own enumerable properties of an object, in order; the value is `none` where it is not a
string. -/
structure JsObject where
  properties : List (PropertyKey × Option (List Char))
  distinct : (properties.map Prod.fst).Nodup

inductive JsValue
  | object (row : JsObject)
  /-- `undefined`, `null`, a primitive or an array. -/
  | other

/-- `Object.keys`. -/
def JsObject.keys (row : JsObject) : List PropertyKey := row.properties.map Prod.fst

/-- `row[key]`, when it is a string. -/
def JsObject.get (row : JsObject) (f : Field) : Option (List Char) :=
  (row.properties.lookup (.field f)).join

/-- The object that holds a binding. -/
def SettlementFundedBinding.toJs (b : SettlementFundedBinding) : JsValue :=
  .object
    { properties := fields.map fun f => (.field f, some (b f))
      distinct := by
        rw [List.map_map]
        exact nodup_fields.map fun f g h => PropertyKey.field.inj h }

/-- The strings in the fields of a value. -/
def JsValue.strings : JsValue → SettlementFundedBinding
  | .object row => fun f => (row.get f).getD []
  | .other => fun _ => []

/-- `JSON.stringify` of a binding. -/
def SettlementFundedBinding.stringify (b : SettlementFundedBinding) : List Char :=
  Json.stringify (fields.map fun f => (lit f.name, b f))

/-! ### Addresses -/

/-- `getAddress` of `ethers`, `none` where it throws.  It takes 40 hexadecimal digits, with or
without `0x`, or an ICAP text, and writes the account in hexadecimal with a checksum in the case of
the letters.  An ICAP text can name a number of more than 20 bytes. -/
structure AddressCodec where
  getAddress : List Char → Option (List Char)
  digits : ∀ {s a}, getAddress s = some a →
    ∃ ds, toLowerCase a = '0' :: 'x' :: ds ∧ ∀ c ∈ ds, c ∈ lowerHexDigits
  lowerCase : ∀ {ds}, (∀ c ∈ ds, c ∈ lowerHexDigits) →
    (getAddress ('0' :: 'x' :: ds)).map toLowerCase =
      if ds.length = 40 then some ('0' :: 'x' :: ds) else none
  caseless : ∀ {s s' a a'}, getAddress s = some a → getAddress s' = some a' →
    toLowerCase s = toLowerCase s' → toLowerCase a = toLowerCase a'

/-- `getAddress(s).toLowerCase()`. -/
def AddressCodec.account (codec : AddressCodec) (s : List Char) : Option (List Char) :=
  (codec.getAddress s).map toLowerCase

/-- An address in lower case, without `0x`. -/
def plainDigits (s : List Char) : List Char :=
  if (toLowerCase s).take 2 = ['0', 'x'] then (toLowerCase s).drop 2 else toLowerCase s

/-- No address is written with a checksum or as ICAP. -/
def plainCodec : AddressCodec where
  getAddress s :=
    if (plainDigits s).length = 40 ∧ (plainDigits s).all lowerHexDigits.contains = true then
      some ('0' :: 'x' :: plainDigits s)
    else none
  digits {s a} h := by
    split_ifs at h with hform
    cases h
    have hdigits : ∀ c ∈ plainDigits s, c ∈ lowerHexDigits := by simpa using hform.2
    exact ⟨_, congrArg (fun l => '0' :: 'x' :: l) (toLowerCase_eq hdigits), hdigits⟩
  lowerCase {ds} hds := by
    have hplain : plainDigits ('0' :: 'x' :: ds) = ds := toLowerCase_eq hds
    simp only [hplain]
    split_ifs with hform hlen hlen
    · exact congrArg (fun l => some ('0' :: 'x' :: l)) (toLowerCase_eq hds)
    · exact absurd hform.1 hlen
    · exact absurd ⟨hlen, by simpa using hds⟩ hform
    · rfl
  caseless {s s' a a'} h h' hcase := by
    have hsame : plainDigits s = plainDigits s' := by rw [plainDigits, plainDigits, hcase]
    rw [hsame, h'] at h
    rw [Option.some.inj h]

/-- `/^0x0{40}$/`. -/
def zeroAddress : List Char := '0' :: 'x' :: List.replicate 40 '0'

/-- The body of the loop over the addresses: the lower-case form of an address other than zero. -/
def canonicalAddress (codec : AddressCodec) (s : List Char) : Option (List Char) :=
  match codec.getAddress s with
  | some address =>
    if toLowerCase address = zeroAddress then none else some (toLowerCase address)
  | none => none

/-- The body of the loop over the hashes: `/^0x[0-9a-f]{64}$/i`, in lower case. -/
def canonicalHash (s : List Char) : Option (List Char) :=
  if (s.take 2 = ['0', 'x'] ∨ s.take 2 = ['0', 'X']) ∧ s.length = 66 ∧
      (s.drop 2).all hexDigits.contains = true then
    some (toLowerCase s)
  else none

/-! ### Parsing -/

inductive BindingError
  | bindingRequired
  | tradeDiffers
deriving DecidableEq

def BindingError.message : BindingError → String
  | .bindingRequired => "A complete immutable funded settlement binding is required"
  | .tradeDiffers => "The on-chain trade differs from its immutable original funding binding"

def scopeVersionText : List Char := lit "agroasys.funded-settlement-binding.v1"

/-- The first condition: an object with exactly the expected keys, all of them strings, of the
right version and with a known phase. -/
def readRow (value : JsValue) : Except BindingError SettlementFundedBinding :=
  match value with
  | .other => .error .bindingRequired
  | .object row => do
    require (row.keys.length = fields.length ∧ (∀ key ∈ row.keys, key ∈ fields.map .field) ∧
      ∀ f ∈ fields, (row.get f).isSome = true) .bindingRequired
    let result := value.strings
    require (result .scopeVersion = scopeVersionText) .bindingRequired
    require (∃ p ∈ fundedSettlementPhases, p.text = result .phase) .bindingRequired
    pure result

/-- A non-empty text of at most 128 units without white space around it. -/
def IsIdentifier (s : List Char) : Prop := s ≠ [] ∧ trim s = s ∧ utf16Length s ≤ 128

instance (s : List Char) : Decidable (IsIdentifier s) := inferInstanceAs (Decidable (_ ∧ _))

def IsUint256 (s : List Char) : Prop := IsDecimal 78 s ∧ toNat s ≤ 2 ^ 256 - 1

instance (s : List Char) : Decidable (IsUint256 s) := inferInstanceAs (Decidable (_ ∧ _))

/-- `Number.MAX_SAFE_INTEGER`. -/
def maxSafeInteger : ℕ := 2 ^ 53 - 1

/-- The loop that replaces the fields `keys` by their canonical form. -/
def canonicalize (canonical : List Char → Option (List Char)) :
    List Field → SettlementFundedBinding → Except BindingError SettlementFundedBinding
  | [], b => pure b
  | key :: keys, b =>
    match canonical (b key) with
    | none => .error .bindingRequired
    | some s => canonicalize canonical keys (Function.update b key s)

/-- The number in a field. -/
def SettlementFundedBinding.amount (b : SettlementFundedBinding) (f : Field) : ℕ := toNat (b f)

/-- The equations between the amounts of a binding of each phase. -/
def AmountsMatchPhase (b : SettlementFundedBinding) : Prop :=
  (b .phase = Phase.initialReleaseAfterCustodyAndDocuments.text →
    b.amount .supplierPayoutAmount = b.amount .supplierFirstTranche ∧
    b.amount .treasuryAccrualAmount = b.amount .logisticsAmount + b.amount .platformFeesAmount ∧
    b.amount .buyerRefundAmount = 0) ∧
  (b .phase = Phase.finalReleaseAfterInspectionAcceptance.text ∨
      b .phase = Phase.finalReleaseAfterNoticeDeadline.text →
    b.amount .supplierPayoutAmount = b.amount .supplierSecondTranche ∧
    b.amount .treasuryAccrualAmount = 0 ∧ b.amount .buyerRefundAmount = 0) ∧
  (lit "inspection_available_" <+: b .phase →
    b.amount .supplierPayoutAmount = 0 ∧ b.amount .treasuryAccrualAmount = 0 ∧
    b.amount .buyerRefundAmount = 0) ∧
  (b .phase = Phase.disputeResolution.text →
    b.amount .treasuryAccrualAmount = 0 ∧
    b.amount .supplierPayoutAmount + b.amount .buyerRefundAmount =
      b.amount .supplierSecondTranche)

instance (b : SettlementFundedBinding) : Decidable (AmountsMatchPhase b) :=
  inferInstanceAs (Decidable (_ ∧ _))

def parseSettlementFundedBinding (codec : AddressCodec) (value : JsValue) :
    Except BindingError SettlementFundedBinding := do
  let result ← readRow value
  require (∀ key ∈ [Field.ownerServiceId, .sourceOperationId], IsIdentifier (result key))
    .bindingRequired
  require (∀ key ∈ decimalFields, IsUint256 (result key)) .bindingRequired
  require (0 < result.amount .chainId ∧ result.amount .chainId ≤ maxSafeInteger ∧
    0 < result.amount .totalAmount) .bindingRequired
  let result ← canonicalize (canonicalAddress codec) addressFields result
  let result ← canonicalize canonicalHash hashFields result
  require (IsLowerDigest 64 (result .originalFundingFingerprint) ∧
    result.amount .totalAmount = result.amount .logisticsAmount +
      result.amount .platformFeesAmount + result.amount .supplierFirstTranche +
      result.amount .supplierSecondTranche) .bindingRequired
  require (AmountsMatchPhase result) .bindingRequired
  pure result

end Cotsel.Sdk
