import Cotsel.Library.Guard
import Cotsel.Library.SingleUse
import Cotsel.Library.Text

/-!
# Signed service requests

`shared-auth/src/serviceAuth.js` and `nonceStore.js`, as the auth service sets them up: a client
signs the method, path, query, body hash, timestamp and nonce of a request with the secret of its
API key.  The middleware checks the timestamp against its clock and the signature against the key,
and then consumes the nonce in Postgres.  All up to `consumeNonce` runs without interruption, at one
time (`authenticate`); between it and the statement on the nonce table, and between the statements
of different requests, anything may happen.  Times are in microseconds.

The middleware is a `SingleUse.Service`: an accepted request needs the key `(principal.id, nonce)`,
which lives for `nonceTtlSeconds`.

* `authenticate_eq_ok`: what an accepted request has passed, its signature among it;
* `parts_injective`: the canonical string determines the parts that are signed;
* `signed_once`: accepted requests are signed, and none is accepted twice, when nonces outlive the
  clock window on both sides.
-/

namespace Cotsel.Auth.ServiceAuth

open Runs SingleUse Text Guard

/-! ### Requests -/

inductive Header
  | xApiKey
  | xAgroasysTimestamp
  | xTimestamp
  | xAgroasysNonce
  | xNonce
  | xAgroasysSignature
  | xSignature
deriving DecidableEq

/-- A request as Node hands it on: its request line and its headers are lines, and its method is one
of those that HTTP knows. -/
structure Request where
  method : List Char
  originalUrl : List Char
  headers : List (Header × List Char)
  /-- The bytes of the body. -/
  body : List UInt8
  /-- The bytes that `express.json` has read; none if it skipped the body. -/
  rawBody : Option (List UInt8)
  method_upper : toUpperCase method = method
  method_line : IsLine method
  url_line : IsLine originalUrl
  header_line : ∀ h ∈ headers, IsLine h.2
deriving DecidableEq

/-- The bytes that were read are the bytes of the body. -/
def Request.Captured (req : Request) : Prop := req.rawBody.getD [] = req.body

instance (req : Request) : Decidable req.Captured := inferInstanceAs (Decidable (_ = _))

def Request.header (req : Request) (name : Header) : Option (List Char) := req.headers.lookup name

def firstHeader (req : Request) : List Header → Option (List Char)
  | [] => none
  | name :: names =>
    match req.header name with
    | some value => if trim value ≠ [] then some (trim value) else firstHeader req names
    | none => firstHeader req names

def requestPathAndQuery (url : List Char) : List Char × List Char :=
  (url.takeWhile (· ≠ '?'), (url.dropWhile (· ≠ '?')).drop 1)

/-! ### Keys and settings -/

structure ServiceApiKey where
  id : List Char
  secret : List Char
  active : Bool
  humanPrincipalId : Option (List Char)
deriving DecidableEq

/-- `createServiceApiKeyLookup`: a later key replaces an earlier one of the same id. -/
def createServiceApiKeyLookup (keys : List ServiceApiKey) (apiKey : List Char) :
    Option ServiceApiKey :=
  keys.reverse.find? fun key => decide (key.id = apiKey)

/-- What `loadConfig` requires of a clock skew and a nonce lifetime. -/
structure Lifetimes where
  maxSkewSeconds : ℤ
  nonceTtlSeconds : ℤ
deriving DecidableEq

def loadLifetimes (skewName ttlName : String) (maxSkewSeconds nonceTtlSeconds : ℤ) :
    Except String Lifetimes := do
  require (nonceTtlSeconds ≥ maxSkewSeconds)
    (ttlName ++ " must be greater than or equal to " ++ skewName)
  return ⟨maxSkewSeconds, nonceTtlSeconds⟩

def loadTrustedSessionExchange : ℤ → ℤ → Except String Lifetimes :=
  loadLifetimes "TRUSTED_SESSION_EXCHANGE_MAX_SKEW_SECONDS"
    "TRUSTED_SESSION_EXCHANGE_NONCE_TTL_SECONDS"

def loadAdminControl : ℤ → ℤ → Except String Lifetimes :=
  loadLifetimes "AUTH_ADMIN_CONTROL_MAX_SKEW_SECONDS" "AUTH_ADMIN_CONTROL_NONCE_TTL_SECONDS"

/-- The options that the auth service gives to `createServiceAuthMiddleware`: its keys are looked up
by `createServiceApiKeyLookup`, and there is no `sharedSecret`. -/
structure Options where
  lifetimes : Lifetimes
  keys : List ServiceApiKey

def Options.lookupApiKey (options : Options) : List Char → Option ServiceApiKey :=
  createServiceApiKeyLookup options.keys

theorem Options.lookup_eq_some {options : Options} {apiKey : List Char} {key : ServiceApiKey}
    (h : options.lookupApiKey apiKey = some key) : key ∈ options.keys ∧ key.id = apiKey :=
  ⟨List.mem_reverse.mp (List.mem_of_find?_eq_some h), by simpa using List.find?_some h⟩

/-- What is used of the cryptography.  No two bodies have one hash, and a hash is hexadecimal, so a
line. -/
structure Crypto where
  sha256 : List UInt8 → List Char
  hmac : List Char → List Char → List Char
  sha256_injective : Function.Injective sha256
  sha256_line : ∀ bytes, IsLine (sha256 bytes)

/-! ### The canonical string -/

structure Parts where
  method : List Char
  path : List Char
  query : List Char
  bodySha256 : List Char
  timestamp : List Char
  nonce : List Char
deriving DecidableEq

def buildServiceAuthCanonicalString (parts : Parts) : List Char :=
  joinLines [parts.method, parts.path, parts.query, parts.bodySha256, parts.timestamp, parts.nonce]

def bodyHash (C : Crypto) (rawBody : Option (List UInt8)) : List Char := C.sha256 (rawBody.getD [])

def NONCE_MAX_LENGTH : ℕ := 255

def deriveNonce (C : Crypto) (method path query bodySha256 timestamp : List Char) : List Char :=
  (C.sha256 (utf8 (joinLines [method, path, query, bodySha256, timestamp]))).take NONCE_MAX_LENGTH

def timingSafeHexEquals (a b : List Char) : Bool :=
  let a := toLowerCase (trim a)
  let b := toLowerCase (trim b)
  decide (IsLowerDigest 64 a) && decide (IsLowerDigest 64 b) && decide (a = b)

/-! ### The middleware -/

inductive AuthCode
  | AUTH_MISSING_HEADERS
  | AUTH_INVALID_TIMESTAMP
  | AUTH_TIMESTAMP_SKEW
  | AUTH_UNKNOWN_API_KEY
  | AUTH_FORBIDDEN
  | AUTH_INVALID_NONCE
  | AUTH_INVALID_SIGNATURE
  | AUTH_UNAVAILABLE
deriving DecidableEq

structure Refusal where
  status : ℕ
  code : AuthCode
  error : String
deriving DecidableEq

def unauthorized (code : AuthCode) (message : String) : Refusal := ⟨401, code, message⟩

def missingHeaders : Refusal := unauthorized .AUTH_MISSING_HEADERS "Missing authentication headers"

def invalidTimestamp : Refusal := unauthorized .AUTH_INVALID_TIMESTAMP "Invalid timestamp format"

def timestampSkew : Refusal :=
  unauthorized .AUTH_TIMESTAMP_SKEW "Timestamp outside allowed skew window"

def unknownApiKey : Refusal := unauthorized .AUTH_UNKNOWN_API_KEY "Unknown API key"

def forbidden : Refusal := ⟨403, .AUTH_FORBIDDEN, "API key is inactive"⟩

def invalidNonce : Refusal := unauthorized .AUTH_INVALID_NONCE "Invalid nonce format"

def invalidSignature : Refusal := unauthorized .AUTH_INVALID_SIGNATURE "Invalid signature"

def unavailable : Refusal := ⟨503, .AUTH_UNAVAILABLE, "Authentication service unavailable"⟩

def API_KEY_MAX_LENGTH : ℕ := 128

/-- `Number.MAX_SAFE_INTEGER`. -/
def maxSafeInteger : ℕ := 9007199254740991

/-- `Math.floor(Date.now() / 1000)`. -/
def nowSeconds (clock : ℕ) : ℕ := clock / 1000000

def resolvePrincipal (options : Options) (apiKey : Option (List Char)) : Option ServiceApiKey :=
  match apiKey with
  | some apiKey => if utf16Length apiKey > API_KEY_MAX_LENGTH then none
    else options.lookupApiKey apiKey
  | none => none

/-- What the signature of a request has to cover. -/
def Request.parts (C : Crypto) (req : Request) (timestamp nonce : List Char) : Parts where
  method := toUpperCase req.method
  path := (requestPathAndQuery req.originalUrl).1
  query := (requestPathAndQuery req.originalUrl).2
  bodySha256 := bodyHash C req.rawBody
  timestamp
  nonce

/-- A request that waits for its nonce. -/
structure Accepted where
  request : Request
  principal : ServiceApiKey
  timestamp : List Char
  nonce : List Char
deriving DecidableEq

def Accepted.parts (C : Crypto) (a : Accepted) : Parts := a.request.parts C a.timestamp a.nonce

def orRefuse {α : Type} (refusal : Refusal) : Option α → Except Refusal α
  | some a => .ok a
  | none => .error refusal

/-- The nonce of the header, or else one that is derived from the rest. -/
def requestNonce (C : Crypto) (req : Request) (timestamp : List Char) : List Char :=
  let url := requestPathAndQuery req.originalUrl
  (firstHeader req [.xAgroasysNonce, .xNonce]).getD
    (deriveNonce C (toUpperCase req.method) url.1 url.2 (bodyHash C req.rawBody) timestamp)

/-- The middleware of `createServiceAuthMiddleware`, up to the statement on the nonce table. -/
def authenticate (C : Crypto) (options : Options) (clock : ℕ) (req : Request) :
    Except Refusal Accepted := do
  let timestamp ← orRefuse missingHeaders (firstHeader req [.xAgroasysTimestamp, .xTimestamp])
  let signature ← orRefuse missingHeaders (firstHeader req [.xAgroasysSignature, .xSignature])
  require (IsDigits timestamp) invalidTimestamp
  require (toNat timestamp ≤ maxSafeInteger ∧ 0 < toNat timestamp) invalidTimestamp
  require (|(nowSeconds clock : ℤ) - toNat timestamp| ≤ options.lifetimes.maxSkewSeconds)
    timestampSkew
  let principal ← orRefuse unknownApiKey (resolvePrincipal options (firstHeader req [.xApiKey]))
  require (principal.active = true) forbidden
  let nonce := requestNonce C req timestamp
  require (trim nonce ≠ [] ∧ utf16Length nonce ≤ NONCE_MAX_LENGTH) invalidNonce
  let accepted : Accepted := ⟨req, principal, timestamp, nonce⟩
  let expected := C.hmac principal.secret (buildServiceAuthCanonicalString (accepted.parts C))
  require (timingSafeHexEquals signature expected = true) invalidSignature
  -- `consume` of the nonce store throws on these before its query
  require (trim principal.id ≠ []) unavailable
  require (0 < options.lifetimes.nonceTtlSeconds) unavailable
  return accepted

/-- The middleware and its nonce store. -/
def service (C : Crypto) (options : Options) :
    Service Request Accepted (List Char × List Char) Refusal where
  check := authenticate C options
  key a := (a.principal.id, a.nonce)
  lifetime := 1000000 * options.lifetimes.nonceTtlSeconds.toNat

/-! ### What is signed -/

/-- A request as its sender knows it. -/
structure ServiceCall where
  method : List Char
  path : List Char
  query : List Char
  body : List UInt8
  timestamp : List Char
  nonce : List Char
deriving DecidableEq

def ServiceCall.parts (C : Crypto) (call : ServiceCall) : Parts :=
  ⟨call.method, call.path, call.query, C.sha256 call.body, call.timestamp, call.nonce⟩

/-- The holder of a key signs a request that can be sent. -/
structure Signing where
  keyId : List Char
  call : ServiceCall
  lines : IsLine call.method ∧ IsLine call.path ∧ IsLine call.query ∧ IsLine call.timestamp ∧
    IsLine call.nonce
deriving DecidableEq

def Accepted.call (a : Accepted) : ServiceCall where
  method := a.request.method
  path := (requestPathAndQuery a.request.originalUrl).1
  query := (requestPathAndQuery a.request.originalUrl).2
  body := a.request.body
  timestamp := a.timestamp
  nonce := a.nonce

abbrev Step (C : Crypto) (options : Options) := SingleUse.Step (M := Signing) (service C options)

/-- A holder of this secret signed this text. -/
def SignedWith (C : Crypto) (options : Options) (secret text : List Char) (signed : List Signing) :
    Prop :=
  ∃ m ∈ signed, (∃ key ∈ options.lookupApiKey m.keyId, key.secret = secret) ∧
    buildServiceAuthCanonicalString (m.call.parts C) = text

instance decidableSignedWith (C : Crypto) (options : Options) (secret text : List Char)
    (signed : List Signing) : Decidable (SignedWith C options secret text signed) :=
  inferInstanceAs (Decidable (∃ m ∈ signed, _))

/-- The tag is this code, in either letter case. -/
def Tags (tag code : List Char) : Prop := toLowerCase (trim tag) = toLowerCase (trim code)

instance decidableTags (tag code : List Char) : Decidable (Tags tag code) :=
  inferInstanceAs (Decidable (_ = _))

/-- The text whose code a request with this timestamp has to bear. -/
def Request.canonicalString (C : Crypto) (req : Request) (timestamp : List Char) : List Char :=
  buildServiceAuthCanonicalString (req.parts C timestamp (requestNonce C req timestamp))

/-- HMAC is unforgeable: a request that arrives with the code of its text under the secret of a key
has it from a holder of this secret, who has signed the text. -/
def Unforgeable (C : Crypto) (options : Options) :
    Transition (State Accepted (List Char × List Char) Signing) (Event Request Signing) → Prop :=
  Arrives fun req s => ∀ timestamp ∈ firstHeader req [.xAgroasysTimestamp, .xTimestamp],
    ∀ tag ∈ firstHeader req [.xAgroasysSignature, .xSignature], ∀ key ∈ options.keys,
      Tags tag (C.hmac key.secret (req.canonicalString C timestamp)) →
        SignedWith C options key.secret (req.canonicalString C timestamp) s.signed

def DistinctSecrets (options : Options) : Prop :=
  ∀ key ∈ options.keys, ∀ key' ∈ options.keys, key.secret = key'.secret → key.id = key'.id

instance decidableDistinctSecrets (options : Options) : Decidable (DistinctSecrets options) :=
  inferInstanceAs (Decidable (∀ key ∈ options.keys, _))

/-! ### What an accepted request has passed -/

section

variable {C : Crypto} {options : Options} {clock : ℕ} {req : Request} {a : Accepted}

theorem orRefuse_eq_ok {α : Type} {refusal : Refusal} {x : Option α} {y : α} :
    orRefuse refusal x = .ok y ↔ x = some y := by
  cases x <;> simp [orRefuse]

theorem firstHeader_isLine {names : List Header} {value : List Char}
    (h : firstHeader req names = some value) : IsLine value := by
  induction names with
  | nil => cases h
  | cons name names ih =>
    rw [firstHeader] at h
    split at h
    · next v hv =>
      split_ifs at h with hne
      · cases h
        obtain ⟨_, _, hsplit, -⟩ := List.lookup_eq_some_iff.mp hv
        have hmem : (name, v) ∈ req.headers := by
          rw [hsplit]
          exact List.mem_append_right _ List.mem_cons_self
        have hline := isLine_iff.mp (req.header_line _ hmem)
        exact isLine_iff.mpr fun hc => hline (mem_trim hc)
      · exact ih h
    · exact ih h

theorem requestNonce_isLine {timestamp : List Char} : IsLine (requestNonce C req timestamp) := by
  unfold requestNonce
  cases h : firstHeader req [.xAgroasysNonce, .xNonce] with
  | some => exact firstHeader_isLine h
  | none =>
    have hline := isLine_iff.mp (C.sha256_line (utf8 (joinLines [toUpperCase req.method,
      (requestPathAndQuery req.originalUrl).1, (requestPathAndQuery req.originalUrl).2,
      bodyHash C req.rawBody, timestamp])))
    exact isLine_iff.mpr fun hc => hline (List.mem_of_mem_take hc)

theorem lookup_of_resolvePrincipal {apiKey : Option (List Char)} {key : ServiceApiKey}
    (h : resolvePrincipal options apiKey = some key) : options.lookupApiKey key.id = some key := by
  cases apiKey with
  | none => cases h
  | some =>
    unfold resolvePrincipal at h
    dsimp only at h
    split_ifs at h
    rw [(Options.lookup_eq_some h).2, h]

theorem tags_of_timingSafeHexEquals {tag code : List Char}
    (h : timingSafeHexEquals tag code = true) : Tags tag code := by
  simp only [timingSafeHexEquals, Bool.and_eq_true, decide_eq_true_eq] at h
  exact h.2

/-- What is known of an accepted request. -/
structure Passes (C : Crypto) (options : Options) (clock : ℕ) (a : Accepted) : Prop where
  principal : options.lookupApiKey a.principal.id = some a.principal
  fresh : |(nowSeconds clock : ℤ) - toNat a.timestamp| ≤ options.lifetimes.maxSkewSeconds
  timestamp : firstHeader a.request [.xAgroasysTimestamp, .xTimestamp] = some a.timestamp
  nonce : a.nonce = requestNonce C a.request a.timestamp
  /-- The signature is the code of what it has to cover. -/
  signature : ∃ tag ∈ firstHeader a.request [.xAgroasysSignature, .xSignature],
    Tags tag (C.hmac a.principal.secret (buildServiceAuthCanonicalString (a.parts C)))

theorem authenticate_eq_ok (h : authenticate C options clock req = .ok a) :
    a.request = req ∧ Passes C options clock a := by
  simp only [authenticate, bind_eq_ok, orRefuse_eq_ok, require_eq_ok, exists_const,
    pure_eq_ok] at h
  obtain ⟨_, htimestamp, tag, htag, -, -, hfresh, _, hprincipal, -, -, hequal, -, -, rfl⟩ := h
  exact ⟨rfl, lookup_of_resolvePrincipal hprincipal, hfresh, htimestamp, rfl, tag, htag,
    tags_of_timingSafeHexEquals hequal⟩

/-! ### The canonical string determines the request -/

theorem isLine_path : IsLine (requestPathAndQuery req.originalUrl).1 := by
  refine isLine_iff.mpr fun hc => isLine_iff.mp req.url_line ?_
  exact (List.takeWhile_sublist _).subset hc

theorem isLine_query : IsLine (requestPathAndQuery req.originalUrl).2 := by
  refine isLine_iff.mpr fun hc => isLine_iff.mp req.url_line ?_
  exact (List.dropWhile_sublist _).subset (List.mem_of_mem_drop hc)

def Parts.Lines (parts : Parts) : Prop :=
  ∀ line ∈ [parts.method, parts.path, parts.query, parts.bodySha256, parts.timestamp, parts.nonce],
    IsLine line

theorem Passes.lines (h : Passes C options clock a) : (a.parts C).Lines := by
  have hnonce : IsLine a.nonce := h.nonce ▸ requestNonce_isLine
  simp only [Parts.Lines, Accepted.parts, Request.parts, List.forall_mem_cons, List.not_mem_nil,
    false_imp_iff, implies_true, and_true, a.request.method_upper]
  exact ⟨a.request.method_line, isLine_path, isLine_query, C.sha256_line _,
    firstHeader_isLine h.timestamp, hnonce⟩

theorem Signing.parts_lines (m : Signing) : (m.call.parts C).Lines := by
  obtain ⟨hmethod, hpath, hquery, htime, hnonce⟩ := m.lines
  simp only [Parts.Lines, ServiceCall.parts, List.forall_mem_cons, List.not_mem_nil,
    false_imp_iff, implies_true, and_true]
  exact ⟨hmethod, hpath, hquery, C.sha256_line _, htime, hnonce⟩

theorem parts_injective {parts parts' : Parts} (hlines : parts.Lines) (hlines' : parts'.Lines)
    (h : buildServiceAuthCanonicalString parts = buildServiceAuthCanonicalString parts') :
    parts = parts' := by
  have hlist := joinLines_injective (by rfl) hlines hlines' h
  simp only [List.cons.injEq, and_true] at hlist
  obtain ⟨h1, h2, h3, h4, h5, h6⟩ := hlist
  cases parts
  cases parts'
  simp only [Parts.mk.injEq]
  exact ⟨h1, h2, h3, h4, h5, h6⟩

/-- A signed request with the parts of an accepted one, whose body was read, is this request. -/
theorem call_eq {call : ServiceCall} (h : call.parts C = a.parts C) (hbody : a.request.Captured) :
    call = a.call := by
  simp only [ServiceCall.parts, Accepted.parts, Request.parts, Parts.mk.injEq] at h
  obtain ⟨h1, h2, h3, h4, h5, h6⟩ := h
  have hbytes := C.sha256_injective h4
  rw [hbody] at hbytes
  rw [a.request.method_upper] at h1
  cases call
  simp only [Accepted.call, ServiceCall.mk.injEq]
  exact ⟨h1, h2, h3, hbytes, h5, h6⟩

end

/-! ### No request is accepted twice -/

section

variable {C : Crypto} {options : Options}
  {s s' : State Accepted (List Char × List Char) Signing}
  {tr : List (Transition (State Accepted (List Char × List Char) Signing)
    (Event Request Signing))}

/-- What the middleware established, at the time of its check, and what unforgeability adds. -/
def Genuine (C : Crypto) (options : Options) (clock : ℕ) (a : Accepted) (signed : List Signing) :
    Prop :=
  Passes C options clock a ∧
    SignedWith C options a.principal.secret (buildServiceAuthCanonicalString (a.parts C)) signed

instance decidableUnforgeable (t : Transition (State Accepted (List Char × List Char) Signing)
    (Event Request Signing)) : Decidable (Unforgeable C options t) :=
  inferInstanceAs (Decidable (Arrives _ t))

theorem genuine_lasting : Lasting (Genuine C options) := by
  rintro _ _ _ _ ⟨hpass, m', hm', hback⟩
  exact ⟨hpass, m', List.mem_append_left _ hm', hback⟩

/-- The signature of an accepted request is no forgery. -/
theorem Unforgeable.genuine
    {t : Transition (State Accepted (List Char × List Char) Signing) (Event Request Signing)}
    (h : Unforgeable C options t) : Checks (service C options) (Genuine C options) t := by
  intro req hl a ha
  obtain ⟨rfl, hpass⟩ := authenticate_eq_ok ha
  obtain ⟨tag, htag, htags⟩ := hpass.signature
  have hsigned := h _ hl _ hpass.timestamp tag htag a.principal
    (Options.lookup_eq_some hpass.principal).1
  rw [Request.canonicalString, ← hpass.nonce] at hsigned
  exact ⟨hpass, hsigned htags⟩

theorem fresh_window {t t' ts : ℕ} {skew : ℤ} (h : |(nowSeconds t : ℤ) - ts| ≤ skew)
    (h' : |(nowSeconds t' : ℤ) - ts| ≤ skew) : t' + 1 ≤ t + 1000000 * (2 * skew.toNat + 1) := by
  unfold nowSeconds at h h'
  rw [abs_le] at h h'
  omega

theorem window {skew : ℕ} (hskew : options.lifetimes.maxSkewSeconds.toNat = skew) :
    Window (service C options) (Genuine C options)
      (fun a => (a.principal.id, buildServiceAuthCanonicalString (a.parts C)))
      (1000000 * (2 * skew + 1) - 1) := by
  rintro _ _ a a' _ ⟨hpass, -⟩ ⟨hpass', -⟩ hident
  obtain ⟨hid, htext⟩ := Prod.mk.inj hident
  have hparts := parts_injective hpass.lines hpass'.lines htext
  have hnonce : a.nonce = a'.nonce := congrArg Parts.nonce hparts
  have hts : a.timestamp = a'.timestamp := congrArg Parts.timestamp hparts
  refine ⟨Prod.ext hid hnonce, ?_⟩
  have hfresh := hpass.fresh
  rw [hts] at hfresh
  have := fresh_window hfresh hpass'.fresh
  omega

/-- In every run, with any requests at any times, what each request that the middleware hands on is
checked against was signed by the holder of its API key (its body too, if it was read), and no key
id and canonical string are handed on twice: if a nonce outlives the clock window on both sides and
the time a request may wait for the nonce table, and no secret belongs to two keys. -/
theorem signed_once (delay : ℕ)
    (hlife : 1000000 * (2 * options.lifetimes.maxSkewSeconds.toNat + 1) + delay ≤
      1000000 * options.lifetimes.nonceTtlSeconds.toNat)
    (hsecrets : DistinctSecrets options) (h0 : Start s) (hrun : Run (Step C options) s tr s')
    (hforge : ∀ t ∈ tr, Unforgeable C options t) (hprompt : ∀ t ∈ tr, Prompt delay t) :
    (∀ x ∈ s'.passed, ∃ m ∈ s'.signed, m.keyId = x.2.principal.id ∧
      m.call.parts C = x.2.parts C ∧ (x.2.request.Captured → m.call = x.2.call)) ∧
    (s'.passed.map fun x =>
      (x.2.principal.id, buildServiceAuthCanonicalString (x.2.parts C))).Nodup := by
  have hcheck : ∀ t ∈ tr, Checks (service C options) (Genuine C options) t :=
    fun t ht => (hforge t ht).genuine
  constructor
  · intro x hx
    obtain ⟨hpass, m, hm, ⟨_, hkey, hsecret⟩, hcanonical⟩ :=
      Run.admitted genuine_lasting h0 hrun hcheck x (List.mem_append_right _ hx)
    have hparts := parts_injective m.parts_lines hpass.lines hcanonical
    obtain ⟨hmem, hid⟩ := Options.lookup_eq_some hkey
    refine ⟨m, hm, ?_, hparts, call_eq hparts⟩
    rw [← hid]
    exact hsecrets _ hmem _ (Options.lookup_eq_some hpass.principal).1 hsecret
  · have hshort : 1000000 * (2 * options.lifetimes.maxSkewSeconds.toNat + 1) - 1 + delay <
        (service C options).lifetime := by
      unfold service
      dsimp only
      omega
    exact Run.passed_nodup genuine_lasting (window rfl) hshort h0 hrun hcheck hprompt

end

/-! ### Samples -/

/-- A hash that keeps every byte, and a signature that sums up the text. -/
def sampleCrypto : Crypto where
  sha256 bytes := bytes.map fun b => Char.ofNat (256 + b.toNat)
  hmac secret text := paddedHex 64
    ((secret ++ text).foldl (fun h c => (257 * h + c.toNat) % 2 ^ 256) 1)
  sha256_injective := by
    refine List.map_injective_iff.mpr fun b b' h => ?_
    have hval : ∀ b : UInt8, (Char.ofNat (256 + b.toNat)).toNat = 256 + b.toNat := by
      intro b
      rw [Char.toNat_ofNat, if_pos (Or.inl (by have := b.toNat_lt; omega))]
    have hnat := congrArg Char.toNat h
    rw [hval, hval] at hnat
    exact UInt8.toNat_inj.mp (by omega)
  sha256_line bytes := by
    refine isLine_iff.mpr fun hc => ?_
    obtain ⟨b, -, hb⟩ := List.mem_map.mp hc
    have hnat := congrArg Char.toNat hb
    rw [Char.toNat_ofNat, if_pos (Or.inl (by have := b.toNat_lt; omega))] at hnat
    have : ('\n' : Char).toNat = 10 := rfl
    omega

def sampleKey : ServiceApiKey := ⟨lit "dashboard", lit "first secret", true, none⟩

def sampleOptions (lifetimes : Lifetimes) : Options := ⟨lifetimes, [sampleKey]⟩

def sampleSigning : Signing where
  keyId := lit "dashboard"
  call := {
    method := lit "POST"
    path := lit "/api/auth/v1/session/exchange/agroasys"
    query := []
    body := utf8 (lit "\x7b\"accountId\":\"a-1\",\"role\":\"buyer\"\x7d")
    timestamp := lit "1700000000"
    nonce := lit "7f3a" }
  lines := by decide +kernel

def sampleRequest : Request where
  method := lit "POST"
  originalUrl := lit "/api/auth/v1/session/exchange/agroasys"
  headers := [(.xApiKey, lit "dashboard"), (.xTimestamp, lit "1700000000"),
    (.xNonce, lit "7f3a"), (.xSignature, sampleCrypto.hmac (lit "first secret")
      (buildServiceAuthCanonicalString (sampleSigning.call.parts sampleCrypto)))]
  body := sampleSigning.call.body
  rawBody := some sampleSigning.call.body
  method_upper := by decide +kernel
  method_line := by decide +kernel
  url_line := by decide +kernel
  header_line := by decide +kernel

def sampleState : State Accepted (List Char × List Char) Signing :=
  ⟨1700000000000000, [], [], [], []⟩

/-- The request is signed, sent and accepted; then it is sent twice more, 300.2 and 300.5 seconds
after. -/
def sampleReplay : List (Event Request Signing) :=
  [.sign sampleSigning, .arrive sampleRequest, .consume 0 1700000000000000 true true,
    .wait 300200000, .arrive sampleRequest, .consume 0 1700000300200000 true true,
    .wait 300000, .arrive sampleRequest, .consume 0 1700000300500000 true true]

/-- A nonce that lives for ten minutes and a second is remembered as long as a skew of five minutes
allows. -/
theorem signed_once_sample :
    ∃ tr s', Run (Step sampleCrypto (sampleOptions ⟨300, 601⟩)) sampleState tr s' ∧
      s'.passed.length = 1 ∧
      (∀ x ∈ s'.passed, ∃ m ∈ s'.signed, m.keyId = x.2.principal.id ∧
        m.call.parts sampleCrypto = x.2.parts sampleCrypto ∧
        (x.2.request.Captured → m.call = x.2.call)) ∧
      (s'.passed.map fun x => (x.2.principal.id,
        buildServiceAuthCanonicalString (x.2.parts sampleCrypto))).Nodup := by
  obtain ⟨tr, s', hrun, hforge, hprompt, hlen⟩ : ∃ tr s',
      Run (Step sampleCrypto (sampleOptions ⟨300, 601⟩)) sampleState tr s' ∧
        (∀ t ∈ tr, Unforgeable sampleCrypto (sampleOptions ⟨300, 601⟩) t) ∧
        (∀ t ∈ tr, Prompt 0 t) ∧ s'.passed.length = 1 :=
    exists_run_of_replay sampleReplay (by decide +kernel)
  exact ⟨tr, s', hrun, hlen, signed_once 0 (by decide) (by decide +kernel) (by decide) hrun hforge
    hprompt⟩

/-- With a skew and a nonce lifetime of five minutes, which `loadConfig` accepts, a request is
accepted again when its nonce has expired and its timestamp is still in the window. -/
theorem request_accepted_twice :
    loadTrustedSessionExchange 300 300 = .ok ⟨300, 300⟩ ∧
    DistinctSecrets (sampleOptions ⟨300, 300⟩) ∧ Start sampleState ∧
    ∃ tr s', Run (Step sampleCrypto (sampleOptions ⟨300, 300⟩)) sampleState tr s' ∧
      (∀ t ∈ tr, Unforgeable sampleCrypto (sampleOptions ⟨300, 300⟩) t) ∧
      (∀ t ∈ tr, Prompt 0 t) ∧
      s'.passed.map (fun x => x.2.request) = [sampleRequest, sampleRequest] ∧
      ¬ (s'.passed.map fun x => (x.2.principal.id,
        buildServiceAuthCanonicalString (x.2.parts sampleCrypto))).Nodup := by
  exact ⟨by decide, by decide +kernel, by decide,
    exists_run_of_replay sampleReplay (by decide +kernel)⟩

end Cotsel.Auth.ServiceAuth
