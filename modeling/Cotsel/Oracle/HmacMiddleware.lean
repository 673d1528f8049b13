import Cotsel.Library.Guard
import Cotsel.Library.SingleUse
import Cotsel.Library.Text

/-!
# Signed oracle commands

`middleware/middleware.ts` and `utils/crypto.ts`: a command of the oracle carries a bearer key, a
timestamp in milliseconds and an HMAC of the timestamp followed by the body.  `hmacMiddleware`
compares the timestamp with the clock and the signature with the received bytes, and then consumes a
nonce in Postgres: the one of the header `X-Nonce`, which the signature does not cover, or else a
hash of timestamp, body and signature.  All up to `consumeHmacNonce` runs without interruption, at
one time (`authenticate`).  Times are in microseconds.

* `authenticate_eq_ok`: what an accepted command has passed, its signature among it;
* `signature_once`: accepted commands are signed and fresh, and no signature is accepted twice, as
  long as they take the form that the gateway gives them.
-/

namespace Cotsel.Oracle.Hmac

open Runs SingleUse Text Guard

/-! ### Requests -/

/-- A request as `createRawBodyJsonParser` hands it on.  What the parser captured is what was sent,
since it inflates nothing; a request without framing has no body. -/
structure Request where
  timestamp : Option (List Char)
  signature : Option (List Char)
  nonce : Option (List Char)
  authorization : Option (List Char)
  transferEncoding : Option (List Char)
  contentLength : Option (List Char)
  body : List UInt8
  rawBody : Option (List UInt8)
  captured : ∀ bytes ∈ rawBody, bytes = body
  framed : transferEncoding = none → contentLength = none ∨ contentLength.map trim = some ['0'] →
    body = []
deriving DecidableEq

def declaresNoBody (req : Request) : Bool :=
  req.transferEncoding.isNone &&
    (req.contentLength.isNone || decide (req.contentLength.map trim = some ['0']))

/-- The settings that are read here. -/
structure Config where
  apiKey : List Char
  hmacSecret : List Char
  hmacNonceTtlSeconds : ℕ
  ttl_bounds : 60 ≤ hmacNonceTtlSeconds ∧ hmacNonceTtlSeconds ≤ 3600

/-- What is used of the cryptography, as hexadecimal texts. -/
structure Crypto where
  sha256 : List UInt8 → List Char
  hmac : List Char → List UInt8 → List Char
  hmac_hex : ∀ secret message, IsLowerDigest 64 (hmac secret message)

/-! ### Timestamps -/

def hexValue (c : Char) : ℕ :=
  if c.isDigit then c.toNat - 48 else if 'a' ≤ c ∧ c ≤ 'f' then c.toNat - 87 else c.toNat - 55

/-- The digits that `parseInt` reads. -/
def isDigitIn (radix : ℕ) (c : Char) : Bool :=
  if radix = 16 then hexDigits.contains c else c.isDigit

def digitsValue (radix : ℕ) (digits : List Char) : ℕ :=
  digits.foldl (fun n c => radix * n + hexValue c) 0

def parseSign : List Char → Bool × List Char
  | '-' :: s => (true, s)
  | '+' :: s => (false, s)
  | s => (false, s)

def parseRadix : List Char → ℕ × List Char
  | '0' :: 'x' :: s => (16, s)
  | '0' :: 'X' :: s => (16, s)
  | s => (10, s)

/-- `parseInt`: leading white space, a sign and what follows the digits are ignored; none is
`NaN`. -/
def parseInt (s : List Char) : Option ℤ :=
  let (negative, s) := parseSign (s.dropWhile isWhiteSpace)
  let (radix, s) := parseRadix s
  let digits := s.takeWhile (isDigitIn radix)
  if digits = [] then none
  else some (if negative then -(digitsValue radix digits : ℤ) else digitsValue radix digits)

/-- `new Date(parseInt(timestamp)).getTime()`: none is `NaN`, as outside of the range of dates. -/
def requestTime (timestamp : List Char) : Option ℤ :=
  (parseInt timestamp).filter fun t => decide (|t| ≤ 8640000000000000)

/-- `Date.now()`. -/
def nowMs (clock : ℕ) : ℤ := (clock / 1000 : ℕ)

/-! ### Signatures -/

def generateRequestHash (C : Crypto) (timestamp : List Char) (body : List UInt8)
    (secret : List Char) : List Char :=
  C.hmac secret (utf8 timestamp ++ body)

def deriveRequestNonce (C : Crypto) (timestamp : List Char) (body : List UInt8)
    (signature : List Char) : List Char :=
  C.sha256 (utf8 timestamp ++ utf8 [':'] ++ body ++ utf8 [':'] ++ utf8 signature)

/-- `Buffer.from(s, 'hex')`: the bytes up to what is not hexadecimal. -/
def fromHex : List Char → List ℕ
  | c :: d :: s => if hexDigits.contains c && hexDigits.contains d then
      (16 * hexValue c + hexValue d) :: fromHex s else []
  | _ => []

inductive VerifyError
  /-- `Request timestamp too old`, with the age in milliseconds. -/
  | tooOld (age : ℤ)
  /-- `Request timestamp is in the future`. -/
  | future
  /-- `Invalid HMAC signature`. -/
  | invalidSignature
  /-- What `timingSafeEqual` throws on buffers of different lengths. -/
  | bufferLengths
deriving DecidableEq

/-- The checks of the age.  A comparison with `NaN` is false. -/
def checkAge (clock : ℕ) (timestamp : List Char) : Except VerifyError Unit :=
  match requestTime timestamp with
  | some t => do
    require (¬ nowMs clock - t > 5 * 60000) (.tooOld (nowMs clock - t))
    require (¬ nowMs clock - t < -60000) .future
  | none => .ok ()

def verifyRequestSignature (C : Crypto) (clock : ℕ) (timestamp : List Char) (body : List UInt8)
    (signature secret : List Char) : Except VerifyError Unit := do
  checkAge clock timestamp
  let expectedHash := generateRequestHash C timestamp body secret
  require (utf16Length signature = expectedHash.length) .invalidSignature
  require ((fromHex signature).length = (fromHex expectedHash).length) .bufferLengths
  require (fromHex signature = fromHex expectedHash) .invalidSignature

/-- `LEGACY_EMPTY_BODY_SIGNING_FORM`. -/
def legacyEmptyBody : List UInt8 := utf8 (lit "\x7b\x7d")

/-- `verifyReceivedBody`: the form of the body that was signed. -/
def verifyReceivedBody (C : Crypto) (config : Config) (clock : ℕ) (req : Request)
    (timestamp signature : List Char) : Except VerifyError (List UInt8) :=
  let received := req.rawBody.getD []
  let verify := verifyRequestSignature C clock timestamp received signature config.hmacSecret
  if received ≠ [] ∨ declaresNoBody req = false then verify.map fun _ => received
  else
    match verify with
    | .ok _ => .ok received
    | .error .invalidSignature =>
      (verifyRequestSignature C clock timestamp legacyEmptyBody signature config.hmacSecret).map
        fun _ => legacyEmptyBody
    | .error e => .error e

/-! ### The middleware -/

/-- A refusal: status, code and, unless it is that of the verification, its message. -/
inductive Refusal
  | unauthorized (message : String)
  | verification (error : VerifyError)
  /-- Status 503, `Authentication nonce store unavailable`. -/
  | unavailable
deriving DecidableEq

/-- Errors of the timestamp and of the signature are answered with 401, all others with 503. -/
def refuse : VerifyError → Refusal
  | .bufferLengths => .unavailable
  | e => .verification e

def extractBearerToken : Option (List Char) → Option (List Char)
  | some header => if header.take 7 = lit "Bearer " then some (header.drop 7) else none
  | none => none

/-- The token of a request, unless it is empty. -/
def authMiddleware (config : Config) (req : Request) : Except Refusal (List Char) := do
  let token := (extractBearerToken req.authorization).getD []
  require (token ≠ []) (.unauthorized "Missing authorization header")
  require (token = config.apiKey) (.unauthorized "Invalid API key")
  return token

/-- A command that waits for its nonce. -/
structure Accepted where
  request : Request
  apiKeyToken : List Char
  timestamp : List Char
  signature : List Char
  /-- The form of the body that was signed. -/
  signedBody : List UInt8
  nonce : List Char
deriving DecidableEq

/-- `providedNonce`: the header, unless it is blank. -/
def providedNonce (req : Request) : Option (List Char) :=
  (req.nonce.map trim).filter fun nonce => decide (nonce ≠ [])

/-- `hmacMiddleware` after `authMiddleware`, up to the statement on the nonce table. -/
def authenticate (C : Crypto) (config : Config) (clock : ℕ) (req : Request) :
    Except Refusal Accepted := do
  let apiKeyToken ← authMiddleware config req
  let timestamp := req.timestamp.getD []
  let signature := req.signature.getD []
  require (timestamp ≠ [] ∧ signature ≠ [])
    (.unauthorized "Missing X-Timestamp or X-Signature headers")
  require (¬ (req.rawBody = none ∧ declaresNoBody req = false))
    (.unauthorized "Request body could not be verified")
  let body ← (verifyReceivedBody C config clock req timestamp signature).mapError refuse
  let nonce := (providedNonce req).getD (deriveRequestNonce C timestamp body signature)
  require (nonce ≠ [] ∧ utf16Length nonce ≤ 255) (.unauthorized "Invalid X-Nonce header")
  return ⟨req, apiKeyToken, timestamp, signature, body, nonce⟩

/-- The middleware and its nonce table. -/
def service (C : Crypto) (config : Config) :
    Service Request Accepted (List Char × List Char) Refusal where
  check := authenticate C config
  key a := (a.apiKeyToken, a.nonce)
  lifetime := 1000000 * config.hmacNonceTtlSeconds

/-! ### What is signed -/

/-- The holder of the secret signs a timestamp and a body. -/
structure Signing where
  timestamp : List Char
  body : List UInt8
deriving DecidableEq

def Signing.message (m : Signing) : List UInt8 := utf8 m.timestamp ++ m.body

abbrev Step (C : Crypto) (config : Config) := SingleUse.Step (M := Signing) (service C config)

abbrev Move := Transition (State Accepted (List Char × List Char) Signing) (Event Request Signing)

/-- HMAC is unforgeable: a request that arrives with the code of its timestamp and body has it from
the holder of the secret, who has signed this message. -/
def Unforgeable (C : Crypto) (config : Config) : Move → Prop :=
  Arrives fun req s => ∀ timestamp ∈ req.timestamp,
    req.signature = some (C.hmac config.hmacSecret (utf8 timestamp ++ req.body)) →
      ∃ m ∈ s.signed, m.message = utf8 timestamp ++ req.body

instance decidableUnforgeable (C : Crypto) (config : Config) (t : Move) :
    Decidable (Unforgeable C config t) :=
  inferInstanceAs (Decidable (Arrives _ t))

/-- Nor does one signature cover two messages. -/
def CollisionFree (C : Crypto) (config : Config) (signed : List Signing) : Prop :=
  ∀ m ∈ signed, ∀ m' ∈ signed, C.hmac config.hmacSecret m.message =
    C.hmac config.hmacSecret m'.message → m.message = m'.message

instance (C : Crypto) (config : Config) (signed : List Signing) :
    Decidable (CollisionFree C config signed) :=
  inferInstanceAs (Decidable (∀ m ∈ signed, _))

/-- The form that the gateway gives to a command: the signature is in lower case, the timestamp has
13 digits, `X-Nonce` is the nonce that the oracle derives itself when there is none, and a request
without a body is not signed in the legacy form. -/
structure Plain (C : Crypto) (config : Config) (req : Request) : Prop where
  signature : IsLowerDigest 64 (req.signature.getD [])
  timestamp : IsDigitsOf 13 (req.timestamp.getD [])
  nonce : ∀ nonce ∈ providedNonce req,
    nonce = deriveRequestNonce C (req.timestamp.getD []) req.body (req.signature.getD [])
  body : declaresNoBody req = true → req.signature ≠
    some (C.hmac config.hmacSecret (utf8 (req.timestamp.getD []) ++ legacyEmptyBody))

instance decidablePlain (C : Crypto) (config : Config) (req : Request) :
    Decidable (Plain C config req) :=
  decidable_of_iff (IsLowerDigest 64 (req.signature.getD []) ∧
      IsDigitsOf 13 (req.timestamp.getD []) ∧
      (∀ nonce ∈ providedNonce req, nonce =
        deriveRequestNonce C (req.timestamp.getD []) req.body (req.signature.getD [])) ∧
      (declaresNoBody req = true → req.signature ≠
        some (C.hmac config.hmacSecret (utf8 (req.timestamp.getD []) ++ legacyEmptyBody))))
    ⟨fun h => ⟨h.1, h.2.1, h.2.2.1, h.2.2.2⟩, fun h => ⟨h.1, h.2, h.3, h.4⟩⟩

/-- Only commands in this form are let through. -/
def PlainOnly (C : Crypto) (config : Config) : Move → Prop :=
  Checks (service C config) fun _ a _ => Plain C config a.request

instance decidablePlainOnly (C : Crypto) (config : Config) (t : Move) :
    Decidable (PlainOnly C config t) :=
  inferInstanceAs (Decidable (Checks _ _ t))

/-- The holder of the secret signs timestamps of 13 digits. -/
def SignsTimes (t : Move) : Prop := ∀ m, t.label = .sign m → IsDigitsOf 13 m.timestamp

instance (t : Move) : Decidable (SignsTimes t) :=
  match hl : t.label with
  | .sign m => decidable_of_iff (IsDigitsOf 13 m.timestamp) <| by
      unfold SignsTimes
      rw [hl]
      refine ⟨fun h m' hm => ?_, fun h => h m rfl⟩
      cases hm
      exact h
  | .wait _ | .arrive _ | .consume .. | .drop _ => isTrue fun m hm => by
      rw [hl] at hm
      cases hm

/-! ### Hexadecimal texts -/

theorem hexValue_lower {c d : Char} (hc : c ∈ lowerHexDigits) (hd : d ∈ lowerHexDigits) :
    hexValue c < 16 ∧ (hexValue c = hexValue d → c = d) := by
  have hall : lowerHexDigits.all (fun c => lowerHexDigits.all fun d => decide (hexValue c < 16) &&
      (!decide (hexValue c = hexValue d) || decide (c = d))) = true := by
    decide +kernel
  have h := List.all_eq_true.mp (List.all_eq_true.mp hall c hc) d hd
  simp only [Bool.and_eq_true, Bool.or_eq_true, Bool.not_eq_true', decide_eq_true_eq,
    decide_eq_false_iff_not] at h
  exact ⟨h.1, fun heq => h.2.resolve_left fun hne => hne heq⟩

/-- Lower-case texts of one even length that stand for the same bytes are the same. -/
theorem fromHex_injective {n : ℕ} {s s' : List Char} (h : IsLowerDigest (2 * n) s)
    (h' : IsLowerDigest (2 * n) s') (heq : fromHex s = fromHex s') : s = s' := by
  induction n generalizing s s' with
  | zero => rw [List.length_eq_zero_iff.mp h.1, List.length_eq_zero_iff.mp h'.1]
  | succ n ih =>
    obtain ⟨hlen, hall⟩ := h
    obtain ⟨hlen', hall'⟩ := h'
    match s, s', hlen, hlen' with
    | c :: d :: s, c' :: d' :: s', hlen, hlen' =>
      simp only [List.all_cons, Bool.and_eq_true] at hall hall'
      have hc := List.contains_iff_mem.mp hall.1
      have hd := List.contains_iff_mem.mp hall.2.1
      have hc' := List.contains_iff_mem.mp hall'.1
      have hd' := List.contains_iff_mem.mp hall'.2.1
      rw [fromHex, fromHex, if_pos (by rw [(isLower_of_mem hc).hex, (isLower_of_mem hd).hex]; rfl),
        if_pos (by rw [(isLower_of_mem hc').hex, (isLower_of_mem hd').hex]; rfl),
        List.cons.injEq] at heq
      have hlt := (hexValue_lower hd hd).1
      have hlt' := (hexValue_lower hd' hd').1
      have hfirst := (hexValue_lower hc hc').2 (by omega)
      have hsecond := (hexValue_lower hd hd').2 (by omega)
      have hrest := ih ⟨by simp at hlen; omega, hall.2.2⟩ ⟨by simp at hlen'; omega, hall'.2.2⟩ heq.2
      rw [hfirst, hsecond, hrest]

/-! ### Timestamps of digits -/

theorem digitsValue_lt {digits : List Char} (h : digits.all Char.isDigit = true) :
    digitsValue 10 digits < 10 ^ digits.length := by
  have hfold : ∀ (l : List Char) (n : ℕ), l.all Char.isDigit = true →
      l.foldl (fun n c => 10 * n + hexValue c) n < (n + 1) * 10 ^ l.length := by
    intro l
    induction l with
    | nil => intro n _; simp
    | cons c l ih =>
      intro _ hl
      rw [List.all_cons, Bool.and_eq_true] at hl
      have hc : hexValue c ≤ 9 := by
        have hdigit := hl.1
        unfold hexValue
        rw [if_pos hl.1]
        have : c.toNat ≤ 57 := (utf8EncodeChar_digit hdigit).1
        omega
      refine Nat.lt_of_lt_of_le (ih _ hl.2) ?_
      rw [List.length_cons, pow_succ, ← mul_assoc, mul_right_comm]
      refine Nat.mul_le_mul_right _ ?_
      dsimp only
      omega
  have := hfold digits 0 h
  rwa [Nat.zero_add, Nat.one_mul] at this

theorem not_special_of_isDigit {c : Char} (h : c.isDigit = true) :
    isWhiteSpace c = false ∧ c ≠ '-' ∧ c ≠ '+' ∧ c ≠ 'x' ∧ c ≠ 'X' := by
  have hc : c ∈ ['0', '1', '2', '3', '4', '5', '6', '7', '8', '9'] := by
    have hrange : 48 ≤ c.toNat ∧ c.toNat ≤ 57 := by
      simp only [Char.isDigit, Bool.and_eq_true, decide_eq_true_eq] at h
      exact h
    have hof : Char.ofNat c.toNat = c := Char.ofNat_toNat c
    generalize c.toNat = n at hrange hof
    obtain ⟨hlo, hhi⟩ := hrange
    interval_cases n <;> subst hof <;> decide
  fin_cases hc <;> decide +kernel

/-- A timestamp of 13 digits is a date. -/
theorem requestTime_digits {timestamp : List Char} (h : IsDigitsOf 13 timestamp) :
    ∃ t, requestTime timestamp = some t := by
  obtain ⟨hlen, hall⟩ := h
  have hvalue := digitsValue_lt hall
  rw [hlen] at hvalue
  match timestamp, hlen with
  | c :: d :: rest, hlen =>
    have hboth := hall
    simp only [List.all_cons, Bool.and_eq_true] at hboth
    obtain ⟨hspace, hminus, hplus, -, -⟩ := not_special_of_isDigit hboth.1
    obtain ⟨-, -, -, hx, hX⟩ := not_special_of_isDigit hboth.2.1
    have hdrop : (c :: d :: rest).dropWhile isWhiteSpace = c :: d :: rest := by
      rw [List.dropWhile_cons, hspace]
      rfl
    have hsign : parseSign (c :: d :: rest) = (false, c :: d :: rest) := by
      unfold parseSign
      split
      · next heq => exact absurd (List.cons.inj heq).1 hminus
      · next heq => exact absurd (List.cons.inj heq).1 hplus
      · rfl
    have hradix : parseRadix (c :: d :: rest) = (10, c :: d :: rest) := by
      unfold parseRadix
      split
      · next heq => exact absurd (List.cons.inj (List.cons.inj heq).2).1 hx
      · next heq => exact absurd (List.cons.inj (List.cons.inj heq).2).1 hX
      · rfl
    have htake : (c :: d :: rest).takeWhile (isDigitIn 10) = c :: d :: rest := by
      refine List.takeWhile_eq_self_iff.mpr fun x hx => ?_
      exact List.all_eq_true.mp hall x hx
    refine ⟨digitsValue 10 (c :: d :: rest), ?_⟩
    unfold requestTime parseInt
    simp only [hdrop, hsign, hradix, htake, reduceCtorEq, if_false, Bool.false_eq_true,
      Option.filter_some, ite_eq_left_iff, decide_eq_true_eq, imp_false, not_not]
    rw [abs_le]
    omega

/-! ### What an accepted command has passed -/

section

variable {C : Crypto} {config : Config} {clock : ℕ} {req : Request} {a : Accepted}
  {timestamp signature secret : List Char} {body : List UInt8}

theorem verifyRequestSignature_eq_ok
    (h : verifyRequestSignature C clock timestamp body signature secret = .ok ()) :
    (∀ t, requestTime timestamp = some t → nowMs clock - t ≤ 300000 ∧ t - nowMs clock ≤ 60000) ∧
      fromHex signature = fromHex (C.hmac secret (utf8 timestamp ++ body)) := by
  obtain ⟨_, hage, h⟩ := bind_eq_ok.mp h
  simp only [require_bind_eq_ok, require_eq_ok] at h
  obtain ⟨-, -, hbytes⟩ := h
  refine ⟨fun t ht => ?_, hbytes⟩
  unfold checkAge at hage
  rw [ht] at hage
  simp only [require_bind_eq_ok, require_eq_ok] at hage
  omega

/-- The returned form of the body is one that the signature covers: what was received, or the legacy
form of a request without a body. -/
theorem verifyReceivedBody_eq_ok
    (h : verifyReceivedBody C config clock req timestamp signature = .ok body) :
    verifyRequestSignature C clock timestamp body signature config.hmacSecret = .ok () ∧
      (body = req.rawBody.getD [] ∨ declaresNoBody req = true ∧ body = legacyEmptyBody) := by
  unfold verifyReceivedBody at h
  dsimp only at h
  have hmap : ∀ (x : Except VerifyError Unit) (form : List UInt8),
      x.map (fun _ => form) = .ok body → x = .ok () ∧ form = body := by
    intro x _ hx
    cases x with
    | ok =>
      cases hx
      exact ⟨rfl, rfl⟩
    | error => cases hx
  split_ifs at h with hreceived
  · obtain ⟨hverify, rfl⟩ := hmap _ _ h
    exact ⟨hverify, Or.inl rfl⟩
  · split at h
    · next hverify =>
      cases h
      exact ⟨hverify, Or.inl rfl⟩
    · obtain ⟨hverify, rfl⟩ := hmap _ _ h
      refine ⟨hverify, Or.inr ⟨?_, rfl⟩⟩
      simpa using (not_or.mp hreceived).2
    · cases h

/-- What is known of an accepted command. -/
structure Passes (C : Crypto) (config : Config) (clock : ℕ) (a : Accepted) : Prop where
  token : a.apiKeyToken = config.apiKey
  timestamp : a.request.timestamp = some a.timestamp
  present : a.request.signature = some a.signature
  nonce : a.nonce = (providedNonce a.request).getD
    (deriveRequestNonce C a.timestamp a.signedBody a.signature)
  fresh : ∀ t, requestTime a.timestamp = some t →
    nowMs clock - t ≤ 300000 ∧ t - nowMs clock ≤ 60000
  signature : fromHex a.signature =
    fromHex (C.hmac config.hmacSecret (utf8 a.timestamp ++ a.signedBody))
  body : a.signedBody = a.request.body ∨
    declaresNoBody a.request = true ∧ a.signedBody = legacyEmptyBody

theorem eq_some_getD {header : Option (List Char)} (h : header.getD [] ≠ []) :
    header = some (header.getD []) := by
  cases header with
  | none => exact absurd rfl h
  | some => rfl

/-- What the parser captured is the body; where it captured nothing, there is none. -/
theorem rawBody_eq (h : ¬ (req.rawBody = none ∧ declaresNoBody req = false)) :
    req.rawBody.getD [] = req.body := by
  cases hraw : req.rawBody with
  | some bytes => exact req.captured bytes hraw
  | none =>
    have hdeclares : declaresNoBody req = true := by simpa [hraw] using h
    simp only [declaresNoBody, Bool.and_eq_true, Bool.or_eq_true, Option.isNone_iff_eq_none,
      decide_eq_true_eq] at hdeclares
    exact (req.framed hdeclares.1 hdeclares.2).symm

theorem authenticate_eq_ok (h : authenticate C config clock req = .ok a) :
    a.request = req ∧ Passes C config clock a := by
  simp only [authenticate, authMiddleware, bind_eq_ok, require_eq_ok, exists_const,
    pure_eq_ok] at h
  obtain ⟨_, ⟨-, htoken, rfl⟩, ⟨htimestamp, hpresent⟩, hcaptured, body, hbody, -, rfl⟩ := h
  have hverify : verifyReceivedBody C config clock req (req.timestamp.getD [])
      (req.signature.getD []) = .ok body := by
    cases hx : verifyReceivedBody C config clock req (req.timestamp.getD [])
        (req.signature.getD []) with
    | ok b =>
      rw [hx] at hbody
      cases hbody
      rfl
    | error e =>
      rw [hx] at hbody
      cases hbody
  obtain ⟨hsigned, hform⟩ := verifyReceivedBody_eq_ok hverify
  obtain ⟨hfresh, hsignature⟩ := verifyRequestSignature_eq_ok hsigned
  rw [rawBody_eq hcaptured] at hform
  exact ⟨rfl, htoken, eq_some_getD htimestamp, eq_some_getD hpresent, rfl, hfresh, hsignature,
    hform⟩

/-- The signature of a plain command is the HMAC of its timestamp and its body. -/
theorem Plain.signature_eq (hplain : Plain C config a.request) (h : Passes C config clock a) :
    a.signedBody = a.request.body ∧
      a.signature = C.hmac config.hmacSecret (utf8 a.timestamp ++ a.request.body) := by
  have hlower := hplain.signature
  rw [h.present] at hlower
  have hcode := fromHex_injective (n := 32) hlower (C.hmac_hex _ _) h.signature
  rcases h.body with hbody | ⟨hnone, hlegacy⟩
  · rw [hbody] at hcode
    exact ⟨hbody, hcode⟩
  · refine absurd ?_ (hplain.body hnone)
    rw [h.present, h.timestamp, Option.getD_some, ← hlegacy]
    exact congrArg some hcode

/-- The nonce of a plain command is the derived one, whether it came with one or not. -/
theorem Plain.nonce_eq (hplain : Plain C config a.request) (h : Passes C config clock a) :
    a.nonce = deriveRequestNonce C a.timestamp a.request.body a.signature := by
  rw [h.nonce, (hplain.signature_eq h).1]
  cases hprovided : providedNonce a.request with
  | none => rfl
  | some =>
    have hnonce := hplain.nonce _ hprovided
    rw [h.timestamp, h.present] at hnonce
    exact hnonce

end

/-! ### No signature is accepted twice -/

section

variable {C : Crypto} {config : Config} {s s' : State Accepted (List Char × List Char) Signing}
  {tr : List Move}

/-- What the middleware established, at the time of its check, and what unforgeability adds. -/
structure Genuine (C : Crypto) (config : Config) (clock : ℕ) (a : Accepted)
    (signed : List Signing) : Prop where
  passes : Passes C config clock a
  plain : Plain C config a.request
  digits : IsDigitsOf 13 a.timestamp
  signed : ⟨a.timestamp, a.request.body⟩ ∈ signed

theorem genuine_lasting : Lasting (Genuine C config) :=
  fun _ _ _ _ h => ⟨h.passes, h.plain, h.digits, List.mem_append_left _ h.signed⟩

theorem signed_digits (h0 : Start s) (hrun : Run (Step C config) s tr s')
    (hsigns : ∀ t ∈ tr, SignsTimes t) : ∀ m ∈ s'.signed, IsDigitsOf 13 m.timestamp := by
  refine hrun.invariant_of (I := fun s => ∀ m ∈ s.signed, IsDigitsOf 13 m.timestamp) ?_ hsigns ?_
  · intro _ l _ hC hI hstep m hm
    cases l with
    | sign m' =>
      cases hstep
      rcases List.mem_append.mp hm with hm | hm
      · exact hI m hm
      · rw [List.mem_singleton.mp hm]
        exact hC m' rfl
    | wait =>
      cases hstep
      exact hI m hm
    | arrive =>
      unfold Step SingleUse.Step next at hstep
      dsimp only at hstep
      split at hstep <;>
      · cases hstep
        exact hI m hm
    | consume =>
      obtain ⟨_, -, -, -, -, hsigned, -⟩ := consume_cases hstep
      rw [hsigned] at hm
      exact hI m hm
    | drop =>
      unfold Step SingleUse.Step next at hstep
      dsimp only at hstep
      split_ifs at hstep
      cases hstep
      exact hI m hm
  · rw [h0.1]
    exact fun m hm => absurd hm List.not_mem_nil

/-- A plain command that is let through was signed, timestamp and body. -/
theorem checks_genuine (h0 : Start s) (hrun : Run (Step C config) s tr s')
    (hforge : ∀ t ∈ tr, Unforgeable C config t) (hplain : ∀ t ∈ tr, PlainOnly C config t)
    (hsigns : ∀ t ∈ tr, SignsTimes t) :
    ∀ t ∈ tr, Checks (service C config) (Genuine C config) t := by
  intro t ht r hl a ha
  obtain ⟨_, _, htr, hpre, -⟩ := hrun.split ht
  have hdigits := signed_digits h0 hpre fun t ht => hsigns t (htr ▸ List.mem_append_left _ ht)
  have hform := hplain t ht r hl a ha
  obtain ⟨rfl, hpass⟩ := authenticate_eq_ok ha
  have htimestamp := hform.timestamp
  rw [hpass.timestamp, Option.getD_some] at htimestamp
  obtain ⟨m, hm, hmessage⟩ := hforge t ht _ hl _ hpass.timestamp <| by
    rw [hpass.present, (hform.signature_eq hpass).2]
  obtain ⟨htime, hbody⟩ := utf8_append_inj (hdigits m hm) htimestamp hmessage
  refine ⟨hpass, hform, htimestamp, ?_⟩
  rw [← htime, ← hbody]
  exact hm

theorem window : Window (service C config) (Genuine C config)
    (fun a => (a.timestamp, a.request.body)) 360000999 := by
  intro _ _ a a' _ h h' hident
  obtain ⟨htime, hbody⟩ := Prod.mk.inj hident
  have hsignature : a.signature = a'.signature := by
    rw [(h.plain.signature_eq h.passes).2, (h'.plain.signature_eq h'.passes).2, htime, hbody]
  constructor
  · refine Prod.ext (h.passes.token.trans h'.passes.token.symm) ?_
    show a.nonce = a'.nonce
    rw [h.plain.nonce_eq h.passes, h'.plain.nonce_eq h'.passes, htime, hbody, hsignature]
  · obtain ⟨ts, hts⟩ := requestTime_digits h.digits
    have hfirst := (h.passes.fresh ts hts).2
    rw [htime] at hts
    have hsecond := (h'.passes.fresh ts hts).1
    unfold nowMs at hfirst hsecond
    omega

/-- In every run, with any requests at any times, each command that is handed on carries a timestamp
and a body that the holder of the secret signed, with a timestamp that was at most one minute ahead
and five minutes behind at its check, and no signature is handed on twice: if only plain commands
get through, and a nonce outlives the six minutes and the time a command may wait for the nonce
table. -/
theorem signature_once (delay : ℕ)
    (hlife : 360001000 + delay ≤ 1000000 * config.hmacNonceTtlSeconds) (h0 : Start s)
    (hrun : Run (Step C config) s tr s') (hforge : ∀ t ∈ tr, Unforgeable C config t)
    (hcollision : CollisionFree C config s'.signed) (hprompt : ∀ t ∈ tr, Prompt delay t)
    (hplain : ∀ t ∈ tr, PlainOnly C config t) (hsigns : ∀ t ∈ tr, SignsTimes t) :
    (∀ x ∈ s'.passed, ⟨x.2.timestamp, x.2.request.body⟩ ∈ s'.signed ∧
      ∃ ts, requestTime x.2.timestamp = some ts ∧ ts - nowMs x.1 ≤ 60000 ∧
        nowMs x.1 - ts ≤ 300000) ∧
    (s'.passed.map fun x => toLowerCase x.2.signature).Nodup := by
  have hcheck := checks_genuine h0 hrun hforge hplain hsigns
  have hgenuine : ∀ x ∈ s'.passed, Genuine C config x.1 x.2 s'.signed := fun x hx =>
    Run.admitted genuine_lasting h0 hrun hcheck x (List.mem_append_right _ hx)
  constructor
  · intro x hx
    have h := hgenuine x hx
    obtain ⟨ts, hts⟩ := requestTime_digits h.digits
    exact ⟨h.signed, ts, hts, (h.passes.fresh ts hts).2, (h.passes.fresh ts hts).1⟩
  · have hshort : 360000999 + delay < (service C config).lifetime := by
      unfold service
      dsimp only
      omega
    have hnodup := Run.passed_nodup genuine_lasting window hshort h0 hrun hcheck hprompt
    refine List.Nodup.map_on (fun x hx y hy hsame => ?_) (List.Nodup.of_map _ hnodup)
    have hcode : ∀ z ∈ s'.passed, toLowerCase z.2.signature =
        C.hmac config.hmacSecret (utf8 z.2.timestamp ++ z.2.request.body) := by
      intro z hz
      rw [((hgenuine z hz).plain.signature_eq (hgenuine z hz).passes).2]
      exact toLowerCase_eq fun c hc =>
        List.contains_iff_mem.mp (List.all_eq_true.mp (C.hmac_hex _ _).2 c hc)
    rw [hcode x hx, hcode y hy] at hsame
    -- one signature covers one message, and the message gives back timestamp and body
    have hmessage := hcollision _ (hgenuine x hx).signed _ (hgenuine y hy).signed hsame
    obtain ⟨htime, hbody⟩ :=
      utf8_append_inj (hgenuine x hx).digits (hgenuine y hy).digits hmessage
    exact List.inj_on_of_nodup_map hnodup hx hy (Prod.ext htime hbody)

end

/-! ### Samples -/

/-- 64 digits that sum up some bytes. -/
def sampleDigest (bytes : List UInt8) : List Char :=
  let sum := bytes.foldl (fun h b => (257 * h + b.toNat) % 2 ^ 256) 1
  (List.range 64).map fun i => lowerHexDigits.getD (sum / 16 ^ i % 16) '0'

def sampleCrypto : Crypto where
  sha256 := sampleDigest
  hmac secret message := sampleDigest (utf8 secret ++ message)
  hmac_hex secret message := by
    refine ⟨by simp [sampleDigest], List.all_eq_true.mpr fun c hc => ?_⟩
    obtain ⟨i, -, rfl⟩ := List.mem_map.mp hc
    have hall : ∀ d < 16, lowerHexDigits.contains (lowerHexDigits.getD d '0') = true := by
      decide +kernel
    exact hall _ (Nat.mod_lt _ (by decide))

def sampleConfig : Config := ⟨lit "bearer key", lit "shared secret", 600, by decide⟩

def sampleSigning : Signing :=
  ⟨lit "1700000000000", utf8 (lit "\x7b\"tradeId\":\"7\",\"requestId\":\"r-1\"\x7d")⟩

/-- The command that was signed, with this header `X-Nonce`. -/
def sampleRequest (nonce : Option (List Char)) : Request where
  timestamp := some sampleSigning.timestamp
  signature := some (sampleCrypto.hmac sampleConfig.hmacSecret sampleSigning.message)
  nonce
  authorization := some (lit "Bearer bearer key")
  transferEncoding := none
  contentLength := some (lit "33")
  body := sampleSigning.body
  rawBody := some sampleSigning.body
  captured := by simp
  framed := fun _ h => by
    rcases h with h | h
    · cases h
    · exact absurd h (by decide +kernel)

def sampleState : State Accepted (List Char × List Char) Signing :=
  ⟨1700000000100000, [], [], [], []⟩

/-- The nonce that the gateway sends with the command. -/
def sampleNonce : List Char :=
  deriveRequestNonce sampleCrypto sampleSigning.timestamp sampleSigning.body
    (sampleCrypto.hmac sampleConfig.hmacSecret sampleSigning.message)

/-- The command is signed, sent and accepted; a second later it is sent again, with this header. -/
def sampleReplay (nonce : Option (List Char)) : List (Event Request Signing) :=
  [.sign sampleSigning, .arrive (sampleRequest (some sampleNonce)),
    .consume 0 1700000000100000 true true, .wait 1000000, .arrive (sampleRequest nonce),
    .consume 0 1700000001100000 true true]

/-- Sent again without its nonce, the command is refused. -/
theorem signature_once_sample :
    ∃ tr s', Run (Step sampleCrypto sampleConfig) sampleState tr s' ∧ s'.passed.length = 1 ∧
      (∀ x ∈ s'.passed, ⟨x.2.timestamp, x.2.request.body⟩ ∈ s'.signed ∧
        ∃ ts, requestTime x.2.timestamp = some ts ∧ ts - nowMs x.1 ≤ 60000 ∧
          nowMs x.1 - ts ≤ 300000) ∧
      (s'.passed.map fun x => toLowerCase x.2.signature).Nodup := by
  obtain ⟨tr, s', hrun, hforge, hcollision, hprompt, hplain, hsigns, hlen⟩ : ∃ tr s',
      Run (Step sampleCrypto sampleConfig) sampleState tr s' ∧
        (∀ t ∈ tr, Unforgeable sampleCrypto sampleConfig t) ∧
        CollisionFree sampleCrypto sampleConfig s'.signed ∧ (∀ t ∈ tr, Prompt 0 t) ∧
        (∀ t ∈ tr, PlainOnly sampleCrypto sampleConfig t) ∧ (∀ t ∈ tr, SignsTimes t) ∧
        s'.passed.length = 1 :=
    exists_run_of_replay (sampleReplay none) (by decide +kernel)
  exact ⟨tr, s', hrun, hlen, signature_once 0 (by decide) (by decide) hrun hforge hcollision
    hprompt hplain hsigns⟩

/-- Sent again with a nonce of the sender's choice, it is accepted again. -/
theorem signature_accepted_twice :
    Start sampleState ∧ ∃ tr s', Run (Step sampleCrypto sampleConfig) sampleState tr s' ∧
      (∀ t ∈ tr, Unforgeable sampleCrypto sampleConfig t) ∧
      CollisionFree sampleCrypto sampleConfig s'.signed ∧ (∀ t ∈ tr, Prompt 0 t) ∧
      s'.passed.map (fun x => x.2.request) =
        [sampleRequest (some sampleNonce), sampleRequest (some (lit "again"))] ∧
      ¬ (s'.passed.map fun x => toLowerCase x.2.signature).Nodup := by
  exact ⟨by decide, exists_run_of_replay (sampleReplay (some (lit "again"))) (by decide +kernel)⟩

end Cotsel.Oracle.Hmac
