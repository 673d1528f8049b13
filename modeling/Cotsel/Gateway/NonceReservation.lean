import Cotsel.Library.Run
import Cotsel.Library.Table
import Cotsel.Sdk.SettlementFundedBinding

/-!
# Nonce reservations of the managed signer

`core/gaslessNonceReservationStore.ts`: before the managed signer signs a transaction, the executor
reserves the nonce, and the reservation then moves `reserved → signing → signed`.  A reservation
whose lease ran out before signing began may be recovered, but only by the same transaction intent
and only `maximumRecoveries` times; every recovery draws a new lease token.

Each of the three calls is one transaction: it either commits as a whole, under the row lock of its
update, or does nothing.  `NOW()` is the time at which the transaction began and is arbitrary here,
so leases run out at any time, and a process that dies makes no further call.  `randomUUID` draws a
value that was not drawn before.

* `perform`: the three calls on the tables `gasless_nonce_reservations` and
  `gasless_nonce_reservation_events`;
* `write_of_perform`: what a call that succeeds did;
* `nonce_exclusive`: what the reservations guarantee over any interleaving of calls.
-/

namespace Cotsel.Gateway.NonceReservation

open Runs

/-! ### The tables -/

inductive ResourceType
  | settlementHandoff
  | platformTransfer
deriving DecidableEq

/-- `GaslessNonceReservationInput`. -/
structure Input where
  chainId : ℤ
  signerAddress : List Char
  transactionNonce : ℤ
  requestId : List Char
  applicationRequestId : List Char
  resourceType : ResourceType
  resourceId : List Char
  operation : List Char
  intentHash : List Char
deriving DecidableEq

/-- What is reserved. -/
structure Slot where
  chainId : ℤ
  signerAddress : List Char
  transactionNonce : ℤ
deriving DecidableEq

/-- What it is reserved for. -/
structure Intent where
  requestId : List Char
  applicationRequestId : List Char
  resourceType : ResourceType
  resourceId : List Char
  operation : List Char
  intentHash : List Char
deriving DecidableEq

inductive Status
  | reserved
  | signing
  | signed
deriving DecidableEq

/-- `reservation_status` with the columns that the checks of the table tie to it: a lease exactly
while the row is reserved, a transaction hash exactly once it is signed. -/
inductive Stage
  | reserved (leaseExpiresAt : ℕ)
  | signing
  | signed (transactionHash : List Char)
deriving DecidableEq

def Stage.status : Stage → Status
  | reserved _ => .reserved
  | signing => .signing
  | signed _ => .signed

def Stage.transactionHash : Stage → Option (List Char)
  | signed hash => some hash
  | _ => none

/-- A row of `gasless_nonce_reservations`. -/
structure Row where
  reservationId : ℕ
  slot : Slot
  intent : Intent
  leaseToken : ℕ
  stage : Stage
  recoveryCount : ℕ
deriving DecidableEq

/-- A row of `gasless_nonce_reservation_events`. -/
structure Entry where
  reservationId : ℕ
  status : Status
  recoveryCount : ℕ
  transactionHash : Option (List Char)
deriving DecidableEq

/-- What the row is now, as an entry of the event log. -/
def Row.entry (r : Row) : Entry :=
  ⟨r.reservationId, r.stage.status, r.recoveryCount, r.stage.transactionHash⟩

inductive Constraint
  | primaryKey
  | slot
  | signedTransactionHash
  | check
deriving DecidableEq

def clash (r r' : Row) : Option Constraint :=
  if r.reservationId = r'.reservationId then some .primaryKey
  else if r.slot = r'.slot then some .slot
  else if r.stage.transactionHash = r'.stage.transactionHash ∧ r.stage.transactionHash ≠ none then
    some .signedTransactionHash
  else none

theorem clash_eq_none {r r' : Row} : clash r r' = none ↔
    r.reservationId ≠ r'.reservationId ∧ r.slot ≠ r'.slot ∧
      (r.stage.transactionHash = r'.stage.transactionHash → r.stage.transactionHash = none) := by
  unfold clash
  split_ifs with hid hslot hhash
  · simp [hid]
  · simp [hslot]
  · simp [hhash.1, hhash.1 ▸ hhash.2]
  · simp only [true_iff]
    refine ⟨hid, hslot, fun heq => ?_⟩
    by_contra hne
    exact hhash ⟨heq, hne⟩

def Row.check (r : Row) : Option Constraint :=
  if 0 < r.slot.chainId ∧ Text.IsLowerHex 40 r.slot.signerAddress ∧ 0 ≤ r.slot.transactionNonce ∧
      Text.IsLowerHex 64 r.intent.intentHash ∧
      (∀ hash ∈ r.stage.transactionHash, Text.IsLowerHex 64 hash) then none
  else some .check

def reservations : Table.Schema Row ℕ Constraint where
  key := Row.reservationId
  clash := clash
  insertGuard := Row.check
  updateGuard := fun _ new => new.check
  clash_symm := by
    intro r r' h
    rw [clash_eq_none] at *
    exact ⟨h.1.symm, h.2.1.symm, fun heq => heq.trans (h.2.2 heq.symm)⟩
  key_ne := fun _ _ h => (clash_eq_none.mp h).1

structure State where
  rows : List Row
  events : List Entry
  /-- How many values `randomUUID` has drawn. -/
  drawn : ℕ

def State.empty : State := ⟨[], [], 0⟩

/-! ### The calls -/

inductive Failure
  /-- The input is not canonical: the message. -/
  | input (message : List Char)
  /-- `getAddress` throws. -/
  | address
  /-- `409`, with the slot. -/
  | conflict (message : List Char) (slot : Slot)
  | inactive (message : List Char)
  | alreadySigned (message : List Char)
  /-- The database refuses the statement. -/
  | database (violation : Table.Violation Constraint)
deriving DecidableEq

/-- `Number.MAX_SAFE_INTEGER`. -/
def maxSafeInteger : ℤ := 2 ^ 53 - 1

def canonicalInput (codec : Sdk.AddressCodec) (input : Input) : Except Failure (Slot × Intent) :=
  if input.chainId < 1 ∨ maxSafeInteger < input.chainId then
    .error (.input (Text.lit "Gasless nonce reservation chainId must be a positive integer"))
  else if input.transactionNonce < 0 ∨ maxSafeInteger < input.transactionNonce then
    .error (.input
      (Text.lit "Gasless nonce reservation transactionNonce must be a non-negative integer"))
  else
    match codec.getAddress input.signerAddress with
    | none => .error .address
    | some address => .ok
        (⟨input.chainId, Text.toLowerCase address, input.transactionNonce⟩,
          { requestId := Text.trim input.requestId
            applicationRequestId := Text.trim input.applicationRequestId
            resourceType := input.resourceType
            resourceId := Text.trim input.resourceId
            operation := Text.trim input.operation
            intentHash := Text.toLowerCase input.intentHash })

/-- `GaslessNonceReservation`: what a caller holds. -/
structure Reservation where
  reservationId : ℕ
  leaseToken : ℕ
  slot : Slot
  requestId : List Char
  intentHash : List Char
deriving DecidableEq

def Row.reservation (r : Row) : Reservation :=
  ⟨r.reservationId, r.leaseToken, r.slot, r.intent.requestId, r.intent.intentHash⟩

/-- The row is the one that the caller holds. -/
def Reservation.holds (value : Reservation) (r : Row) : Bool :=
  r.reservationId = value.reservationId && r.leaseToken = value.leaseToken

/-- `addEvent`: copies the recovery count of the row that the caller holds. -/
def addEvent (value : Reservation) (status : Status) (transactionHash : Option (List Char))
    (s : State) : State :=
  { s with
    events := s.events ++ (s.rows.filter value.holds).map fun r =>
      ⟨r.reservationId, status, r.recoveryCount, transactionHash⟩ }

structure Settings where
  leaseSeconds : ℕ
  maximumRecoveries : ℕ

variable (codec : Sdk.AddressCodec) (settings : Settings)

/-- The condition of the update that recovers a reservation. -/
def recoverable (intent : Intent) (now : ℕ) (r : Row) : Bool :=
  r.intent = intent && r.recoveryCount < settings.maximumRecoveries &&
    match r.stage with
    | .reserved leaseExpiresAt => leaseExpiresAt ≤ now
    | _ => false

/-- The insertion of `reserve`, or the update that recovers the reservation of the slot. -/
def reserveRow (slot : Slot) (intent : Intent) (now : ℕ) (s : State) :
    Except Failure (Option Row × List Row) :=
  match s.rows.find? fun r => r.slot = slot with
  | none =>
    let row : Row :=
      { reservationId := s.drawn
        slot := slot
        intent := intent
        leaseToken := s.drawn + 1
        stage := .reserved (now + settings.leaseSeconds)
        recoveryCount := 0 }
    match Table.insert reservations row s.rows with
    | .ok rows => .ok (some row, rows)
    | .error violation => .error (.database violation)
  | some found =>
    let updated := Table.updateWhere reservations found.reservationId
      (recoverable settings intent now)
      (fun r => { r with
        leaseToken := s.drawn + 1
        stage := .reserved (now + settings.leaseSeconds)
        recoveryCount := r.recoveryCount + 1 })
      s.rows
    match updated with
    | .ok result => .ok result
    | .error violation => .error (.database violation)

def reserve (input : Input) (now : ℕ) (s : State) : Except Failure (Reservation × State) := do
  let (slot, intent) ← canonicalInput codec input
  match ← reserveRow settings slot intent now s with
  | (some row, rows) =>
    .ok (row.reservation,
      addEvent row.reservation .reserved none { s with rows := rows, drawn := s.drawn + 2 })
  | (none, _) =>
    .error (.conflict
      (Text.lit "Gasless signer nonce is already reserved by another transaction intent") slot)

/-- The update of the row that the caller holds, if `cond` holds of it. -/
def updateHeld (value : Reservation) (cond : Stage → Bool) (stage : Stage) (failure : Failure)
    (s : State) : Except Failure State :=
  let updated := Table.updateWhere reservations value.reservationId
    (fun r => r.leaseToken = value.leaseToken && cond r.stage)
    (fun r => { r with stage := stage }) s.rows
  match updated with
  | .ok (some _, rows) =>
    .ok (addEvent value stage.status stage.transactionHash { s with rows := rows })
  | .ok (none, _) => .error failure
  | .error violation => .error (.database violation)

def beginSigning (value : Reservation) (now : ℕ) (s : State) : Except Failure State :=
  updateHeld value
    (fun stage =>
      match stage with
      | .reserved leaseExpiresAt => now < leaseExpiresAt
      | _ => false)
    .signing (.inactive (Text.lit "Gasless nonce reservation is no longer active")) s

def recordSigned (value : Reservation) (transactionHash : List Char) (s : State) :
    Except Failure State :=
  updateHeld value (fun stage => stage = .signing) (.signed (Text.toLowerCase transactionHash))
    (.alreadySigned
      (Text.lit "Gasless nonce reservation cannot accept another signed transaction")) s

inductive Call
  | reserve (input : Input) (now : ℕ)
  | beginSigning (value : Reservation) (now : ℕ)
  | recordSigned (value : Reservation) (transactionHash : List Char)
deriving DecidableEq

def perform (s : State) : Call → Except Failure (Option Reservation × State)
  | .reserve input now =>
    (reserve codec settings input now s).map fun (value, s') => (some value, s')
  | .beginSigning value now => (beginSigning value now s).map fun s' => (none, s')
  | .recordSigned value hash => (recordSigned value hash s).map fun s' => (none, s')

def next (s : State) (c : Call) : State :=
  match perform codec settings s c with
  | .ok (_, s') => s'
  | .error _ => s

def Step (s : State) (c : Call) (s' : State) : Prop := next codec settings s c = s'

/-! ### What a call that succeeds did -/

variable {codec settings} {s s' : State} {c : Call} {r r' old new : Row} {value : Reservation}

variable (settings) in
/-- What holds of the tables between the calls. -/
structure Sound (s : State) : Prop where
  valid : Table.Valid reservations s.rows
  /-- Ids and tokens have been drawn. -/
  drawn : ∀ r ∈ s.rows, r.reservationId < s.drawn ∧ r.leaseToken < s.drawn
  recoveries : ∀ r ∈ s.rows, r.recoveryCount ≤ settings.maximumRecoveries

variable (codec settings) in
/-- The calls that succeed: the row before, if there is one, and the row that is written. -/
inductive Writes (s : State) : Call → Option Row → Row → Prop
  | insert {input : Input} {now : ℕ} {slot : Slot} {intent : Intent}
      (hinput : canonicalInput codec input = .ok (slot, intent))
      (hfree : ∀ r ∈ s.rows, r.slot ≠ slot) :
      Writes s (.reserve input now) none
        { reservationId := s.drawn
          slot := slot
          intent := intent
          leaseToken := s.drawn + 1
          stage := .reserved (now + settings.leaseSeconds)
          recoveryCount := 0 }
  | recover {input : Input} {now leaseExpiresAt : ℕ} {r : Row}
      (hinput : canonicalInput codec input = .ok (r.slot, r.intent))
      (hcount : r.recoveryCount < settings.maximumRecoveries)
      (hstage : r.stage = .reserved leaseExpiresAt) (hexpired : leaseExpiresAt ≤ now) :
      Writes s (.reserve input now) (some r)
        { r with
          leaseToken := s.drawn + 1
          stage := .reserved (now + settings.leaseSeconds)
          recoveryCount := r.recoveryCount + 1 }
  | beginSigning {value : Reservation} {now leaseExpiresAt : ℕ} {r : Row}
      (hholds : value.holds r = true) (hstage : r.stage = .reserved leaseExpiresAt)
      (hlive : now < leaseExpiresAt) :
      Writes s (.beginSigning value now) (some r) { r with stage := .signing }
  | recordSigned {value : Reservation} {hash : List Char} {r : Row}
      (hholds : value.holds r = true) (hstage : r.stage = .signing) :
      Writes s (.recordSigned value hash) (some r)
        { r with stage := .signed (Text.toLowerCase hash) }

/-- The tables after the row was written. -/
structure Written (s : State) (old : Option Row) (new : Row) (s' : State) : Prop where
  rows : match old with
    | none => s'.rows = s.rows ++ [new]
    | some r => r ∈ s.rows ∧ r.reservationId = new.reservationId ∧
        s'.rows = Table.replace reservations new s.rows
  clash : ∀ r ∈ s.rows, r.reservationId ≠ new.reservationId ∨ old = none → clash new r = none
  events : s'.events = s.events ++ [new.entry]
  drawn : s.drawn ≤ s'.drawn
  fresh : new.reservationId < s'.drawn ∧ new.leaseToken < s'.drawn

theorem events_addEvent (hvalid : Table.Valid reservations s.rows) (hmem : new ∈ s.rows)
    (hholds : value.holds new = true) {status : Status} {hash : Option (List Char)}
    (hstatus : new.stage.status = status) (hhash : new.stage.transactionHash = hash) :
    (addEvent value status hash s).events = s.events ++ [new.entry] := by
  have hfilter : s.rows.filter value.holds = [new] := by
    refine hvalid.filter_eq_singleton hmem hholds fun r hr => ?_
    rw [Reservation.holds, Bool.and_eq_true, decide_eq_true_eq] at hr hholds
    exact hr.1.trans hholds.1.symm
  rw [addEvent, hfilter, List.map_singleton, ← hstatus, ← hhash]
  rfl

theorem recoverable_iff {intent : Intent} {now : ℕ} :
    recoverable settings intent now r = true ↔ r.intent = intent ∧
      r.recoveryCount < settings.maximumRecoveries ∧
      ∃ leaseExpiresAt, r.stage = .reserved leaseExpiresAt ∧ leaseExpiresAt ≤ now := by
  unfold recoverable
  cases r.stage <;> simp [and_assoc]

theorem replaced_of_updateWhere {k : ℕ} {cond : Row → Bool} {change : Row → Row} {rows : List Row}
    (h : Table.updateWhere reservations k cond change s.rows = .ok (some new, rows))
    (hkey : ∀ r, (change r).reservationId = r.reservationId) :
    ∃ r ∈ s.rows, r.reservationId = k ∧ cond r = true ∧ new = change r ∧
      rows = Table.replace reservations new s.rows ∧
      ∀ r' ∈ s.rows, r'.reservationId ≠ new.reservationId → clash new r' = none := by
  rcases Table.updateWhere_eq_ok.mp h with
    ⟨hnone, -, -⟩ | ⟨r, hlookup, hcond, -, hclash, hout, hrows⟩
  · cases hnone
  · cases hout
    obtain ⟨hmem, hk⟩ := Table.lookup_eq_some_mem hlookup
    refine ⟨r, hmem, hk, hcond, rfl, hrows, fun r' hr' hne => hclash r' hr' ?_⟩
    have hk' : r.reservationId = k := hk
    rw [hkey, hk'] at hne
    exact hne

theorem written_of_replace (hs : Sound settings s)
    (hclash : ∀ r' ∈ s.rows, r'.reservationId ≠ new.reservationId → clash new r' = none)
    (hmem : old ∈ s.rows) (hid : old.reservationId = new.reservationId)
    (hholds : value.holds new = true) {drawn : ℕ} (hdrawn : s.drawn ≤ drawn)
    (htoken : new.leaseToken < drawn) {status : Status} {hash : Option (List Char)}
    (hstatus : new.stage.status = status) (hhash : new.stage.transactionHash = hash) :
    Written s (some old) new (addEvent value status hash
      { s with rows := Table.replace reservations new s.rows, drawn := drawn }) where
  rows := ⟨hmem, hid, rfl⟩
  clash := by
    rintro r hr (hne | hnone)
    · exact hclash r hr hne
    · cases hnone
  events := by
    refine events_addEvent (Table.replace_valid hs.valid hclash) ?_ hholds hstatus hhash
    exact Table.mem_replace_self ⟨old, hmem, hid⟩
  drawn := hdrawn
  fresh := ⟨hid ▸ Nat.lt_of_lt_of_le (hs.drawn old hmem).1 hdrawn, htoken⟩

theorem write_of_reserve {input : Input} {now : ℕ} (hs : Sound settings s)
    (h : reserve codec settings input now s = .ok (value, s')) :
    ∃ old new, Writes codec settings s (.reserve input now) old new ∧ Written s old new s' ∧
      value = new.reservation := by
  unfold reserve at h
  cases hinput : canonicalInput codec input with
  | error =>
    rw [hinput] at h
    cases h
  | ok pair =>
    obtain ⟨slot, intent⟩ := pair
    rw [hinput] at h
    replace h : (reserveRow settings slot intent now s >>= _) = _ := h
    cases hrow : reserveRow settings slot intent now s with
    | error =>
      rw [hrow] at h
      cases h
    | ok result =>
      obtain ⟨out, rows⟩ := result
      rw [hrow] at h
      cases out with
      | none => cases h
      | some =>
        cases h
        unfold reserveRow at hrow
        split at hrow
        · next hnone =>
          -- the slot is free
          have hfree : ∀ r ∈ s.rows, r.slot ≠ slot := by
            simpa using hnone
          dsimp only at hrow
          split at hrow
          · next rows' hins =>
            cases hrow
            obtain ⟨-, hclash, rfl⟩ := Table.insert_eq_ok.mp hins
            refine ⟨none, _, .insert hinput hfree, ⟨rfl, fun r hr _ => hclash r hr, ?_,
              Nat.le_add_right _ _, ?_⟩, rfl⟩
            · exact events_addEvent (Table.insert_valid hs.valid hins) (by simp)
                (by simp [Reservation.holds, Row.reservation]) rfl rfl
            · exact ⟨Nat.lt_add_of_pos_right Nat.two_pos, Nat.lt_succ_self _⟩
          · cases hrow
        · next found hfound =>
          dsimp only at hrow
          split at hrow
          · next result hup =>
            cases hrow
            obtain ⟨r, hmem, hid, hcond, rfl, rfl, hclash⟩ :=
              replaced_of_updateWhere hup fun r => rfl
            obtain ⟨hintent, hcount, expires, hstage, hexpired⟩ := recoverable_iff.mp hcond
            -- the row that is updated is the one that was found in the slot
            have hr : r = found :=
              hs.valid.eq_of_key hmem (List.mem_of_find?_eq_some hfound) hid
            have hslot : r.slot = slot := by
              rw [hr]
              simpa using List.find?_some hfound
            subst hslot hintent
            refine ⟨some r, _, .recover hinput hcount hstage hexpired, ?_, rfl⟩
            exact written_of_replace hs hclash hmem rfl
              (by simp [Reservation.holds, Row.reservation])
              (Nat.le_add_right _ _) (Nat.lt_succ_self _) rfl rfl
          · cases hrow

theorem written_of_updateHeld {cond : Stage → Bool} {stage : Stage} {failure : Failure}
    (hs : Sound settings s) (h : updateHeld value cond stage failure s = .ok s') :
    ∃ r, value.holds r = true ∧ cond r.stage = true ∧
      Written s (some r) { r with stage := stage } s' := by
  unfold updateHeld at h
  dsimp only at h
  split at h
  · next new rows hup =>
    cases h
    obtain ⟨r, hmem, hid, hcond, rfl, rfl, hclash⟩ := replaced_of_updateWhere hup fun r => rfl
    rw [Bool.and_eq_true, decide_eq_true_eq] at hcond
    have hholds : value.holds r = true := by
      rw [Reservation.holds, decide_eq_true hid, decide_eq_true hcond.1, Bool.true_and]
    exact ⟨r, hholds, hcond.2, written_of_replace hs hclash hmem rfl hholds le_rfl
      (hs.drawn r hmem).2 rfl rfl⟩
  · cases h
  · cases h

/-- A call that succeeds wrote one row and logged what it wrote. -/
theorem write_of_perform {out : Option Reservation} (hs : Sound settings s)
    (h : perform codec settings s c = .ok (out, s')) :
    ∃ old new, Writes codec settings s c old new ∧ Written s old new s' ∧
      ∀ value, out = some value → value = new.reservation := by
  cases c with
  | reserve input now =>
    simp only [perform] at h
    cases hc : reserve codec settings input now s with
    | error =>
      rw [hc] at h
      cases h
    | ok result =>
      rw [hc] at h
      cases h
      obtain ⟨old, new, hwrites, hwritten, hvalue⟩ := write_of_reserve hs hc
      refine ⟨old, new, hwrites, hwritten, ?_⟩
      rintro _ ⟨⟩
      exact hvalue
  | beginSigning value now =>
    simp only [perform] at h
    cases hc : beginSigning value now s with
    | error =>
      rw [hc] at h
      cases h
    | ok =>
      rw [hc] at h
      cases h
      obtain ⟨r, hholds, hcond, hwritten⟩ := written_of_updateHeld hs hc
      cases hstage : r.stage with
      | reserved =>
        rw [hstage] at hcond
        exact ⟨some r, _, .beginSigning hholds hstage (of_decide_eq_true hcond), hwritten, nofun⟩
      | signing | signed =>
        rw [hstage] at hcond
        cases hcond
  | recordSigned value hash =>
    simp only [perform] at h
    cases hc : recordSigned value hash s with
    | error =>
      rw [hc] at h
      cases h
    | ok =>
      rw [hc] at h
      cases h
      obtain ⟨r, hholds, hcond, hwritten⟩ := written_of_updateHeld hs hc
      exact ⟨some r, _, .recordSigned hholds (of_decide_eq_true hcond), hwritten, nofun⟩

theorem Step.cases (hs : Sound settings s) (hstep : Step codec settings s c s') :
    s' = s ∨ ∃ old new, Writes codec settings s c old new ∧ Written s old new s' := by
  unfold Step next at hstep
  split at hstep
  · next out s'' hperform =>
    subst hstep
    obtain ⟨old, new, hwrites, hwritten, -⟩ := write_of_perform hs hperform
    exact Or.inr ⟨old, new, hwrites, hwritten⟩
  · exact Or.inl hstep.symm

/-! ### One call -/

variable {old? : Option Row} {k : ℕ}

theorem Writes.kept (h : Writes codec settings s c (some r) new) :
    new.reservationId = r.reservationId ∧ new.slot = r.slot ∧ new.intent = r.intent := by
  cases h <;> exact ⟨rfl, rfl, rfl⟩

/-- A write that leaves the row as it is would leave its token or its stage. -/
theorem Writes.ne (hs : Sound settings s) (hr : r ∈ s.rows)
    (h : Writes codec settings s c (some r) new) : new ≠ r := by
  intro heq
  cases h with
  | recover =>
    have htoken := congrArg Row.leaseToken heq
    have hdrawn := (hs.drawn r hr).2
    dsimp only at htoken
    omega
  | beginSigning _ hstage | recordSigned _ hstage =>
    have hnew := congrArg Row.stage heq
    rw [hstage] at hnew
    cases hnew

theorem Writes.token (h : Writes codec settings s c old? new) :
    (new.leaseToken = s.drawn + 1) ∨
      ∃ r, old? = some r ∧ new.leaseToken = r.leaseToken := by
  cases h with
  | insert | recover => exact Or.inl rfl
  | beginSigning | recordSigned => exact Or.inr ⟨_, rfl, rfl⟩

theorem Written.mem_self (h : Written s old? new s') : new ∈ s'.rows := by
  have hrows := h.rows
  cases old? with
  | none =>
    rw [hrows]
    exact List.mem_append_right _ (List.mem_singleton_self _)
  | some r =>
    rw [hrows.2.2]
    exact Table.mem_replace_self ⟨r, hrows.1, hrows.2.1⟩

theorem Written.mem_cases (h : Written s old? new s') (hr : r ∈ s'.rows) :
    r = new ∨ r ∈ s.rows := by
  have hrows := h.rows
  cases old? with
  | none =>
    rw [hrows, List.mem_append, List.mem_singleton] at hr
    exact hr.symm
  | some =>
    rw [hrows.2.2] at hr
    exact Table.mem_replace hr

theorem Written.valid (hs : Sound settings s) (h : Written s old? new s') :
    Table.Valid reservations s'.rows := by
  have hrows := h.rows
  cases old? with
  | none =>
    rw [hrows]
    exact Table.append_valid hs.valid fun r hr => h.clash r hr (Or.inr rfl)
  | some =>
    rw [hrows.2.2]
    exact Table.replace_valid hs.valid fun r hr hne => h.clash r hr (Or.inl hne)

theorem Written.lookup_of_ne (h : Written s old? new s') (hk : new.reservationId ≠ k) :
    Table.lookup reservations k s'.rows = Table.lookup reservations k s.rows := by
  have hrows := h.rows
  cases old? with
  | none =>
    rw [hrows]
    exact Table.lookup_append_of_ne hk
  | some =>
    rw [hrows.2.2]
    exact Table.lookup_replace_of_ne hk

theorem Written.lookup_self (hs : Sound settings s) (h : Written s old? new s') :
    Table.lookup reservations new.reservationId s'.rows = some new :=
  (h.valid hs).lookup_eq_some.mpr ⟨h.mem_self, rfl⟩

theorem Written.lookup_old (hs : Sound settings s) (h : Written s old? new s') :
    Table.lookup reservations new.reservationId s.rows = old? := by
  have hrows := h.rows
  cases old? with
  | none =>
    rw [Table.lookup, List.find?_eq_none]
    intro r hr hid
    exact (clash_eq_none.mp (h.clash r hr (Or.inr rfl))).1 (of_decide_eq_true hid).symm
  | some => exact hs.valid.lookup_eq_some.mpr ⟨hrows.1, hrows.2.1⟩

/-- A row goes on under its id: as it was, or as it was written. -/
theorem Written.mem (hs : Sound settings s) (h : Written s old? new s') (hr : r ∈ s.rows) :
    r ∈ s'.rows ∨ (old? = some r ∧ new ∈ s'.rows) := by
  have hlookup : Table.lookup reservations r.reservationId s.rows = some r :=
    hs.valid.lookup_eq_some.mpr ⟨hr, rfl⟩
  by_cases hid : new.reservationId = r.reservationId
  · right
    rw [← hid, h.lookup_old hs] at hlookup
    exact ⟨hlookup, h.mem_self⟩
  · left
    rw [← h.lookup_of_ne hid] at hlookup
    exact (Table.lookup_eq_some_mem hlookup).1

theorem Sound.step (hs : Sound settings s) (hstep : Step codec settings s c s') :
    Sound settings s' := by
  rcases hstep.cases hs with rfl | ⟨old?, new, hwrites, hwritten⟩
  · exact hs
  · refine ⟨hwritten.valid hs, fun r hr => ?_, fun r hr => ?_⟩
    · rcases hwritten.mem_cases hr with rfl | hold
      · exact hwritten.fresh
      · have hdrawn := hs.drawn r hold
        have hle := hwritten.drawn
        omega
    · rcases hwritten.mem_cases hr with rfl | hold
      · cases hwrites with
        | insert => exact Nat.zero_le _
        | recover _ hcount => exact hcount
        | @beginSigning _ _ _ r | @recordSigned _ _ r => exact hs.recoveries r hwritten.rows.1
      · exact hs.recoveries r hold

theorem Step.drawn_le (hs : Sound settings s) (hstep : Step codec settings s c s') :
    s.drawn ≤ s'.drawn := by
  rcases hstep.cases hs with rfl | ⟨old?, new, -, hwritten⟩
  · exact le_rfl
  · exact hwritten.drawn

theorem sound_empty : Sound settings State.empty :=
  ⟨List.Pairwise.nil, fun _ hr => absurd hr List.not_mem_nil,
    fun _ hr => absurd hr List.not_mem_nil⟩

/-- The place of a status on the way to a signed transaction. -/
def Status.rank : Status → ℕ
  | reserved => 0
  | signing => 1
  | signed => 2

def Status.MovesTo (a b : Status) : Prop :=
  a = b ∨ (a = .reserved ∧ b = .signing) ∨ (a = .signing ∧ b = .signed)

theorem Writes.movesTo (h : Writes codec settings s c (some r) new) :
    r.stage.status.MovesTo new.stage.status := by
  cases h with
  | recover _ _ hstage =>
    rw [hstage]
    exact Or.inl rfl
  | beginSigning _ hstage =>
    rw [hstage]
    exact Or.inr (Or.inl ⟨rfl, rfl⟩)
  | recordSigned _ hstage =>
    rw [hstage]
    exact Or.inr (Or.inr ⟨rfl, rfl⟩)

theorem Status.MovesTo.rank_le {a b : Status} (h : a.MovesTo b) : a.rank ≤ b.rank := by
  rcases h with rfl | ⟨rfl, rfl⟩ | ⟨rfl, rfl⟩
  · exact le_rfl
  · decide
  · decide

/-- The row of a slot keeps what it is reserved for, and its status moves on at most by one. -/
theorem Step.row (hs : Sound settings s) (hstep : Step codec settings s c s') (hr : r ∈ s.rows) :
    ∃ r' ∈ s'.rows, r'.reservationId = r.reservationId ∧ r'.slot = r.slot ∧
      r'.intent = r.intent ∧ r.stage.status.MovesTo r'.stage.status := by
  have hsame : r ∈ s'.rows → ∃ r' ∈ s'.rows, r'.reservationId = r.reservationId ∧
      r'.slot = r.slot ∧ r'.intent = r.intent ∧ r.stage.status.MovesTo r'.stage.status :=
    fun hr' => ⟨r, hr', rfl, rfl, rfl, Or.inl rfl⟩
  rcases hstep.cases hs with rfl | ⟨old?, new, hwrites, hwritten⟩
  · exact hsame hr
  · rcases hwritten.mem hs hr with hr' | ⟨rfl, hnew⟩
    · exact hsame hr'
    · obtain ⟨hid, hslot, hintent⟩ := hwrites.kept
      exact ⟨new, hnew, hid, hslot, hintent, hwrites.movesTo⟩

/-! ### Exclusive nonces -/

variable (codec settings)

/-- The call of the transition passes `beginSigning` for the nonce `k`. -/
def Begins (t : Transition State Call) (k : Slot) : Prop :=
  ∃ value now s', t.label = .beginSigning value now ∧
    perform codec settings t.source t.label = .ok (none, s') ∧
    ∃ r ∈ t.source.rows, value.holds r = true ∧ r.slot = k

/-- The call of the transition records a signed transaction for the nonce `k`. -/
def Signs (t : Transition State Call) (k : Slot) : Prop :=
  ∃ value hash s', t.label = .recordSigned value hash ∧
    perform codec settings t.source t.label = .ok (none, s') ∧
    ∃ r ∈ t.source.rows, value.holds r = true ∧ r.slot = k

def Returns (t : Transition State Call) (value : Reservation) : Prop :=
  ∃ s', perform codec settings t.source t.label = .ok (some value, s')

variable {codec settings}

def Call.Uses (c : Call) (value : Reservation) : Prop :=
  (∃ now, c = .beginSigning value now) ∨ ∃ hash, c = .recordSigned value hash

/-- What was written to the row with the id, in order. -/
def written (id : ℕ) (tr : List (Transition State Call)) : List Entry :=
  tr.filterMap fun t =>
    let before := Table.lookup reservations id t.source.rows
    let after := Table.lookup reservations id t.target.rows
    if before = after then none else after.map Row.entry

variable (codec settings) in
/-- What the reservations guarantee over the transitions `tr`, which lead to `s`. -/
structure Exclusive (tr : List (Transition State Call)) (s : State) : Prop where
  /-- There is at most one row for a nonce. -/
  one_row : ∀ r ∈ s.rows, ∀ r' ∈ s.rows, r.slot = r'.slot → r = r'
  /-- It stays, and keeps what it is reserved for. -/
  kept : ∀ t ∈ tr, ∀ r ∈ t.source.rows, ∃ r' ∈ s.rows, r'.slot = r.slot ∧ r'.intent = r.intent
  /-- Its status moves `reserved → signing → signed`. -/
  moves : ∀ t ∈ tr, ∀ r ∈ t.source.rows, ∃ r' ∈ t.target.rows,
    r'.slot = r.slot ∧ r.stage.status.MovesTo r'.stage.status
  begins_once : ∀ (i j : ℕ) t t' k, tr[i]? = some t → tr[j]? = some t' →
    Begins codec settings t k → Begins codec settings t' k → i = j
  signs_once : ∀ (i j : ℕ) t t' k, tr[i]? = some t → tr[j]? = some t' →
    Signs codec settings t k → Signs codec settings t' k → i = j
  /-- Once another token is in the row of a reservation, its holder can do nothing. -/
  superseded : ∀ (h i j : ℕ) t₀ t t' value r, tr[h]? = some t₀ → tr[i]? = some t →
    tr[j]? = some t' → h < i → i ≤ j → Returns codec settings t₀ value →
    r ∈ t.source.rows → r.reservationId = value.reservationId → r.leaseToken ≠ value.leaseToken →
    t'.label.Uses value → t'.target = t'.source
  recoveries : ∀ r ∈ s.rows, r.recoveryCount ≤ settings.maximumRecoveries
  /-- The event log of a row is what was written to it. -/
  log : ∀ id, s.events.filter (fun entry => entry.reservationId = id) = written id tr

/-- The row of the nonce has come this far. -/
def Reached (k : Slot) (n : ℕ) (s : State) : Prop :=
  ∃ r ∈ s.rows, r.slot = k ∧ n ≤ r.stage.status.rank

theorem Reached.step {k : Slot} {n : ℕ} (hs : Sound settings s) (h : Reached k n s)
    (hstep : Step codec settings s c s') : Reached k n s' := by
  obtain ⟨r, hr, hk, hn⟩ := h
  obtain ⟨r', hr', -, hslot, -, hmoves⟩ := hstep.row hs hr
  exact ⟨r', hr', hslot.trans hk, hn.trans hmoves.rank_le⟩

theorem eq_of_slot (hs : Sound settings s) (hr : r ∈ s.rows) (hr' : r' ∈ s.rows)
    (hslot : r.slot = r'.slot) : r = r' :=
  hs.valid.eq_of_clash hr hr' fun hnone => (clash_eq_none.mp hnone).2.1 hslot

theorem eq_of_holds (hs : Sound settings s) (hr : r ∈ s.rows) (hr' : r' ∈ s.rows)
    (hholds : value.holds r = true) (hholds' : value.holds r' = true) : r = r' := by
  rw [Reservation.holds, Bool.and_eq_true, decide_eq_true_eq] at hholds hholds'
  exact hs.valid.eq_of_key hr hr' (hholds.1.trans hholds'.1.symm)

theorem next_of_perform {out : Option Reservation} (hstep : Step codec settings s c s')
    (h : perform codec settings s c = .ok (out, s'')) : s' = s'' := by
  rw [← hstep, next, h]

/-- The write to the row that the caller holds brings the nonce to `n`. -/
theorem Written.reached {k : Slot} {n : ℕ} (h : Written s (some old) new s')
    (hs : Sound settings s) (hr : r ∈ s.rows) (hk : r.slot = k) (hholds : value.holds r = true)
    (hholds' : value.holds old = true) (hslot : new.slot = old.slot)
    (hbefore : old.stage.status.rank < n) (hafter : n ≤ new.stage.status.rank) :
    ¬ Reached k n s ∧ Reached k n s' := by
  have heq := eq_of_holds hs hr h.rows.1 hholds hholds'
  subst heq
  refine ⟨?_, new, h.mem_self, hslot.trans hk, hafter⟩
  rintro ⟨r', hr', hk', hrank⟩
  rw [eq_of_slot hs hr' hr (hk'.trans hk.symm)] at hrank
  exact absurd hrank (Nat.not_le_of_lt hbefore)

/-- Who passes `beginSigning` found the row reserved and leaves it signing. -/
theorem Begins.reached {t : Transition State Call} {k : Slot} (hs : Sound settings t.source)
    (hstep : Step codec settings t.source t.label t.target) (h : Begins codec settings t k) :
    ¬ Reached k 1 t.source ∧ Reached k 1 t.target := by
  obtain ⟨value, now, s', hlabel, hperform, r, hr, hholds, hk⟩ := h
  obtain ⟨old?, new, hwrites, hwritten, -⟩ := write_of_perform hs hperform
  rw [next_of_perform hstep hperform]
  rw [hlabel] at hwrites
  cases hwrites with
  | @beginSigning _ _ _ _ hholds' hstage =>
    exact hwritten.reached hs hr hk hholds hholds' rfl (by rw [hstage]; exact Nat.one_pos) le_rfl

/-- Who records a transaction found the row signing and leaves it signed. -/
theorem Signs.reached {t : Transition State Call} {k : Slot} (hs : Sound settings t.source)
    (hstep : Step codec settings t.source t.label t.target) (h : Signs codec settings t k) :
    ¬ Reached k 2 t.source ∧ Reached k 2 t.target := by
  obtain ⟨value, hash, s', hlabel, hperform, r, hr, hholds, hk⟩ := h
  obtain ⟨old?, new, hwrites, hwritten, -⟩ := write_of_perform hs hperform
  rw [next_of_perform hstep hperform]
  rw [hlabel] at hwrites
  cases hwrites with
  | @recordSigned _ _ _ hholds' hstage =>
    exact hwritten.reached hs hr hk hholds hholds' rfl (by rw [hstage]; decide) le_rfl

/-- The token of the reservation is no longer that of its row. -/
def Superseded (value : Reservation) (s : State) : Prop :=
  value.leaseToken < s.drawn ∧
    ∀ r ∈ s.rows, r.reservationId = value.reservationId → r.leaseToken ≠ value.leaseToken

theorem Superseded.step (hs : Sound settings s) (h : Superseded value s)
    (hstep : Step codec settings s c s') : Superseded value s' := by
  rcases hstep.cases hs with rfl | ⟨old?, new, hwrites, hwritten⟩
  · exact h
  · refine ⟨Nat.lt_of_lt_of_le h.1 hwritten.drawn, fun r hr hid htoken => ?_⟩
    rcases hwritten.mem_cases hr with rfl | hold
    · rcases hwrites.token with hnew | ⟨old, rfl, hsame⟩
      · have hdrawn := h.1
        omega
      · exact h.2 old hwritten.rows.1 (hwritten.rows.2.1.trans hid) (hsame ▸ htoken)
    · exact h.2 r hold hid htoken

/-- The holder of a superseded token can do nothing. -/
theorem Superseded.uses (hs : Sound settings s) (h : Superseded value s) (huses : c.Uses value)
    (hstep : Step codec settings s c s') : s' = s := by
  have hnot : ∀ r ∈ s.rows, value.holds r = true → False := by
    intro r hr hholds
    rw [Reservation.holds, Bool.and_eq_true, decide_eq_true_eq, decide_eq_true_eq] at hholds
    exact h.2 r hr hholds.1 hholds.2
  rcases hstep.cases hs with rfl | ⟨old?, new, hwrites, hwritten⟩
  · rfl
  · exfalso
    rcases huses with ⟨now, rfl⟩ | ⟨hash, rfl⟩
    · cases hwrites with
      | beginSigning hholds => exact hnot _ hwritten.rows.1 hholds
    · cases hwrites with
      | recordSigned hholds => exact hnot _ hwritten.rows.1 hholds

/-- What one call adds to the log of a row is what it wrote to the row. -/
theorem Step.log (hs : Sound settings s) (hstep : Step codec settings s c s') (id : ℕ) :
    s'.events.filter (fun entry => entry.reservationId = id) =
      s.events.filter (fun entry => entry.reservationId = id) ++ written id [⟨s, c, s'⟩] := by
  rcases hstep.cases hs with rfl | ⟨old?, new, hwrites, hwritten⟩
  · simp [written]
  · rw [hwritten.events, List.filter_append]
    by_cases hid : new.reservationId = id
    · subst hid
      have hne : Table.lookup reservations new.reservationId s.rows ≠ some new := by
        rw [hwritten.lookup_old hs]
        rintro rfl
        exact hwrites.ne hs hwritten.rows.1 rfl
      have hentry : decide (new.entry.reservationId = new.reservationId) = true :=
        decide_eq_true rfl
      simp only [written, List.filterMap_cons, List.filterMap_nil, if_neg hne,
        hwritten.lookup_self hs, Option.map_some, List.filter_cons, hentry, if_true,
        List.filter_nil]
    · have hentry : decide (new.entry.reservationId = id) = false := decide_eq_false hid
      simp only [written, List.filterMap_cons, List.filterMap_nil, hwritten.lookup_of_ne hid,
        if_true, List.filter_cons, hentry, Bool.false_eq_true, if_false, List.filter_nil]

variable {tr : List (Transition State Call)}

theorem sound_of_run (hrun : Run (Step codec settings) State.empty tr s) : Sound settings s :=
  hrun.invariant (fun _ _ _ hs hstep => hs.step hstep) sound_empty

theorem log_of_run (hrun : Run (Step codec settings) State.empty tr s) (id : ℕ) :
    s.events.filter (fun entry => entry.reservationId = id) = written id tr := by
  refine Run.history (I := fun tr s =>
    s.events.filter (fun entry => entry.reservationId = id) = written id tr) rfl ?_ hrun
  intro tr s' c s'' hrun hlog hstep
  rw [hstep.log (sound_of_run hrun), hlog, written, written, written, List.filterMap_append]

/-- Something that is passed only once, whatever it is. -/
theorem index_eq_of_reached (hrun : Run (Step codec settings) State.empty tr s) {k : Slot} {n : ℕ}
    {P : Transition State Call → Prop}
    (hP : ∀ t, Sound settings t.source → Step codec settings t.source t.label t.target → P t →
      ¬ Reached k n t.source ∧ Reached k n t.target)
    {i j : ℕ} {t t' : Transition State Call} (hi : tr[i]? = some t) (hj : tr[j]? = some t')
    (ht : P t) (ht' : P t') : ¬ i < j := by
  intro hij
  have hsound : ∀ {i : ℕ} {t : Transition State Call}, tr[i]? = some t → Sound settings t.source :=
    fun hi => sound_of_run (hrun.cut hi).1
  obtain ⟨mid, hmid, hsub⟩ := hrun.between hi hj hij
  have hreached := (hP t (hsound hi) (hrun.cut hi).2.1 ht).2
  have hstart : Sound settings t.target := (hsound hi).step (hrun.cut hi).2.1
  have hend := Run.invariant (I := fun s => Sound settings s ∧ Reached k n s)
    (fun _ _ _ h hstep => ⟨h.1.step hstep, h.2.step h.1 hstep⟩) hmid ⟨hstart, hreached⟩
  exact (hP t' (hsound hj) (hrun.cut hj).2.1 ht').1 hend.2

/-- **Nonce reservations are exclusive** over any interleaving of calls by any number of
processes. -/
theorem nonce_exclusive (hrun : Run (Step codec settings) State.empty tr s) :
    Exclusive codec settings tr s where
  one_row := fun r hr r' hr' hslot => eq_of_slot (sound_of_run hrun) hr hr' hslot
  kept := by
    intro t ht r hr
    obtain ⟨pre, post, rfl, hpre, hstep, hpost⟩ := hrun.split ht
    have hinv := Run.invariant
      (I := fun s => Sound settings s ∧ ∃ r' ∈ s.rows, r'.slot = r.slot ∧ r'.intent = r.intent) ?_
      ((Run.single hstep).trans hpost) ⟨sound_of_run hpre, r, hr, rfl, rfl⟩
    · exact hinv.2
    · rintro s c s' ⟨hs, r', hr', hslot, hintent⟩ hstep
      obtain ⟨r'', hr'', -, hslot', hintent', -⟩ := hstep.row hs hr'
      exact ⟨hs.step hstep, r'', hr'', hslot'.trans hslot, hintent'.trans hintent⟩
  moves := by
    intro t ht r hr
    obtain ⟨pre, post, rfl, hpre, hstep, hpost⟩ := hrun.split ht
    obtain ⟨r', hr', -, hslot, -, hmoves⟩ := hstep.row (sound_of_run hpre) hr
    exact ⟨r', hr', hslot, hmoves⟩
  begins_once := by
    intro i j t t' k hi hj hb hb'
    have hlt := index_eq_of_reached hrun (fun t hs hstep => Begins.reached hs hstep) hi hj hb hb'
    have hgt := index_eq_of_reached hrun (fun t hs hstep => Begins.reached hs hstep) hj hi hb' hb
    omega
  signs_once := by
    intro i j t t' k hi hj hb hb'
    have hlt := index_eq_of_reached hrun (fun t hs hstep => Signs.reached hs hstep) hi hj hb hb'
    have hgt := index_eq_of_reached hrun (fun t hs hstep => Signs.reached hs hstep) hj hi hb' hb
    omega
  superseded := by
    intro h i j t₀ t t' value r hh hi hj hhi hij hret hr hid htoken huses
    obtain ⟨s₀, hperform⟩ := hret
    have hsound₀ := sound_of_run (hrun.cut hh).1
    obtain ⟨old?, new, -, hwritten, hvalue⟩ := write_of_perform hsound₀ hperform
    -- the token was drawn, so no later one is the same
    have hdrawn : value.leaseToken < t₀.target.drawn := by
      rw [next_of_perform (hrun.cut hh).2.1 hperform, hvalue value rfl]
      exact hwritten.fresh.2
    obtain ⟨mid, hmid, -⟩ := hrun.between hh hi hhi
    have hsound := sound_of_run (hrun.cut hi).1
    have hstill := Run.invariant
      (I := fun s => Sound settings s ∧ value.leaseToken < s.drawn)
      (fun _ _ _ h hstep => ⟨h.1.step hstep, Nat.lt_of_lt_of_le h.2 (Step.drawn_le h.1 hstep)⟩) hmid
      ⟨hsound₀.step (hrun.cut hh).2.1, hdrawn⟩
    have hsuperseded : Superseded value t.source := by
      refine ⟨hstill.2, fun r' hr' hid' => ?_⟩
      have heq : r' = r := hsound.valid.eq_of_key hr' hr (hid'.trans hid.symm)
      rwa [heq]
    obtain ⟨mid', hmid', -⟩ := hrun.between_sources hi hj hij
    have hend := Run.invariant (I := fun s => Sound settings s ∧ Superseded value s)
      (fun _ _ _ h hstep => ⟨h.1.step hstep, h.2.step h.1 hstep⟩) hmid' ⟨hsound, hsuperseded⟩
    exact hend.2.uses hend.1 huses (hrun.cut hj).2.1
  recoveries := (sound_of_run hrun).recoveries
  log := log_of_run hrun

/-! ### A nonce that is recovered -/

def sampleInput : Input where
  chainId := 8453
  signerAddress := '0' :: 'x' :: List.replicate 40 '1'
  transactionNonce := 7
  requestId := Text.lit "signing-1"
  applicationRequestId := Text.lit "request-1"
  resourceType := .settlementHandoff
  resourceId := Text.lit "handoff-1"
  operation := Text.lit "create_trade"
  intentHash := '0' :: 'x' :: List.replicate 64 'e'

/-- What the call of `reserve` that draws the `n`-th pair of values returns. -/
def sampleReservation (n : ℕ) : Reservation :=
  ⟨0, 2 * n + 1, ⟨8453, '0' :: 'x' :: List.replicate 40 '1', 7⟩, Text.lit "signing-1",
    '0' :: 'x' :: List.replicate 64 'e'⟩

/-- Two processes with the same intent: the second recovers the reservation after the lease ran
out, the first then tries to sign. -/
def recovery : List Call :=
  [.reserve sampleInput 0, .reserve sampleInput 60, .beginSigning (sampleReservation 0) 61,
    .beginSigning (sampleReservation 1) 61,
    .recordSigned (sampleReservation 1) ('0' :: 'x' :: List.replicate 64 'A')]

theorem nonce_exclusive_recovery :
    Exclusive Sdk.plainCodec ⟨60, 3⟩ (trace (next Sdk.plainCodec ⟨60, 3⟩) State.empty recovery)
      (recovery.foldl (next Sdk.plainCodec ⟨60, 3⟩) State.empty) ∧
    (recovery.foldl (next Sdk.plainCodec ⟨60, 3⟩) State.empty).events =
      [⟨0, .reserved, 0, none⟩, ⟨0, .reserved, 1, none⟩, ⟨0, .signing, 1, none⟩,
        ⟨0, .signed, 1, some ('0' :: 'x' :: List.replicate 64 'a')⟩] :=
  ⟨nonce_exclusive (run_trace _ _ _), by decide +kernel⟩

end Cotsel.Gateway.NonceReservation
