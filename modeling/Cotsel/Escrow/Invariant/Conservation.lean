import Cotsel.Escrow.Invariant.Solvency

/-!
# The life of one trade

Abstractly a trade is a walk through its statuses, one milestone at a time.  There are few such
walks (`Lifecycle.shape`), and each determines what was paid, to whom and for which stage.

The contract refines this picture: in every reachable state every trade has made such a walk, and
the payments reported for it are those its milestones schedule (`Reachable.accounts`).
Conservation of the locked amount, the isolation of the fees and the absence of double payments
are read off the walks.
-/

namespace Cotsel.Escrow

open Ledger Runs

variable {T : Type} {P : Platform T} {env : Env} {s s' : State T}

/-! ### The walks of a trade -/

/-- The milestone leads from its source to its target. -/
def Milestone.Moves (a : TradeStatus) (m : Milestone) (b : TradeStatus) : Prop :=
  a = m.source ∧ b = m.target

/-- The milestones `ms`, in this order, lead from `LOCKED` to `status`. -/
def Lifecycle (ms : List Milestone) (status : TradeStatus) : Prop :=
  ∃ tr, Run Milestone.Moves .locked tr status ∧ tr.map (·.label) = ms

variable {m : Milestone} {ms : List Milestone} {status : TradeStatus}

namespace Lifecycle

theorem nil : Lifecycle [] .locked := ⟨[], .nil _, rfl⟩

theorem snoc (h : Lifecycle ms m.source) :
    Lifecycle (ms ++ [m]) m.target := by
  obtain ⟨tr, hrun, rfl⟩ := h
  exact ⟨_, .snoc hrun ⟨rfl, rfl⟩, by simp⟩

/-- The walks that end in a status. -/
inductive Shape : List Milestone → TradeStatus → Prop
  | locked : Shape [] .locked
  | inTransit : Shape [.stage1] .inTransit
  | arrivalConfirmed (w : ℕ) : Shape [.stage1, .arrival w] .arrivalConfirmed
  | frozen (w : ℕ) : Shape [.stage1, .arrival w, .dispute] .frozen
  | lockTimeout : Shape [.closing .lockTimeout] .closed
  | transitTimeout : Shape [.stage1, .closing .transitTimeout] .closed
  | finalTranche (w : ℕ) : Shape [.stage1, .arrival w, .closing .finalTranche] .closed
  | disputeRefund (w : ℕ) :
      Shape [.stage1, .arrival w, .dispute, .closing .disputeRefund] .closed
  | disputeResolve (w : ℕ) :
      Shape [.stage1, .arrival w, .dispute, .closing .disputeResolve] .closed

theorem Shape.snoc (h : Shape ms m.source) :
    Shape (ms ++ [m]) m.target := by
  rcases m with _ | w | _ | (_ | _ | _ | _ | _)
  case stage1 =>
    cases h
    exact .inTransit
  case arrival =>
    cases h
    exact .arrivalConfirmed w
  case dispute =>
    obtain _ | _ | w := h
    exact .frozen w
  case closing.lockTimeout =>
    cases h
    exact .lockTimeout
  case closing.transitTimeout =>
    cases h
    exact .transitTimeout
  case closing.finalTranche =>
    obtain _ | _ | w := h
    exact .finalTranche w
  case closing.disputeRefund =>
    obtain _ | _ | _ | w := h
    exact .disputeRefund w
  case closing.disputeResolve =>
    obtain _ | _ | _ | w := h
    exact .disputeResolve w

theorem shape (h : Lifecycle ms status) :
    Shape ms status := by
  obtain ⟨tr, hrun, rfl⟩ := h
  refine hrun.history (I := fun tr st => Shape (tr.map (·.label)) st) .locked ?_
  rintro tr a m b - hshape ⟨rfl, rfl⟩
  rw [List.map_append]
  exact hshape.snoc

end Lifecycle

/-! ### What the walks pay -/

def totalTo (payee : Payee) (ps : List Payment) : ℕ :=
  (ps.map fun p => if p.payee = payee then p.amount else 0).sum

theorem totalTo_append (payee : Payee) (ps qs : List Payment) :
    totalTo payee (ps ++ qs) = totalTo payee ps + totalTo payee qs := by
  simp [totalTo]

theorem totalTo_positivePayments (payee : Payee) (ps : List Payment) :
    totalTo payee (positivePayments ps) = totalTo payee ps := by
  induction ps with
  | nil => rfl
  | cons p ps ih =>
    unfold positivePayments totalTo at ih ⊢
    rcases Nat.eq_zero_or_pos p.amount with hzero | hpos
    · simp [hzero, ih]
    · simp [hpos, ih]

/-- What a payment is for; the second tranche is paid under four names. -/
inductive Stage
  | deposit
  | firstTranche
  | logisticsFee
  | platformFee
  | secondTranche
deriving DecidableEq

def ClaimType.stage : ClaimType → Stage
  | .stage1Supplier => .firstTranche
  | .stage1LogisticsFee => .logisticsFee
  | .stage1PlatformFee => .platformFee
  | .stage2Supplier => .secondTranche
  | .lockTimeoutBuyerRefund => .deposit
  | .inTransitTimeoutBuyerRefund => .secondTranche
  | .disputeRefundBuyer => .secondTranche
  | .disputeResolveSupplier => .secondTranche

def walkPayments (ms : List Milestone) (tradeId : ℕ) (trade : Trade) (treasury : Address) :
    List Payment :=
  ms.flatMap fun m => m.scheduled tradeId trade treasury

theorem Milestone.totalTo_treasury (m : Milestone) (id : ℕ) (t : Trade) (treasury : Address) :
    totalTo .treasury (m.scheduled id t treasury) = m.fees t := by
  rcases m with _ | _ | _ | (_ | _ | _ | _ | _) <;>
    simp [Milestone.fees, Milestone.scheduled, totalTo, Outcome.payee]

/-- How the amount of a trade is split, at each status, between supplier, buyer and treasury:
nothing before the first stage, then the first tranche and the fees, and at the end one of three
ways. -/
inductive Split (t : Trade) : TradeStatus → ℕ → ℕ → ℕ → Prop
  | locked : Split t .locked 0 0 0
  | inTransit : Split t .inTransit t.supplierFirstTranche 0
      (t.logisticsAmount + t.platformFeesAmount)
  | arrivalConfirmed : Split t .arrivalConfirmed t.supplierFirstTranche 0
      (t.logisticsAmount + t.platformFeesAmount)
  | frozen : Split t .frozen t.supplierFirstTranche 0 (t.logisticsAmount + t.platformFeesAmount)
  | cancelled : Split t .closed 0 t.totalAmountLocked 0
  | released : Split t .closed (t.supplierFirstTranche + t.supplierSecondTranche) 0
      (t.logisticsAmount + t.platformFeesAmount)
  | refunded : Split t .closed t.supplierFirstTranche t.supplierSecondTranche
      (t.logisticsAmount + t.platformFeesAmount)

/-- A walk pays one of the splits. -/
theorem Lifecycle.split (h : Lifecycle ms status)
    (id : ℕ) (t : Trade) (treasury : Address) :
    Split t status (totalTo .supplier (walkPayments ms id t treasury))
      (totalTo .buyer (walkPayments ms id t treasury))
      (totalTo .treasury (walkPayments ms id t treasury)) := by
  cases h.shape <;>
    simp only [walkPayments, List.flatMap_cons, List.flatMap_nil, List.append_nil, totalTo_append,
      Milestone.totalTo_treasury] <;>
    simp only [Milestone.scheduled, totalTo, Outcome.payee, Outcome.amount, Milestone.fees,
      List.map_cons, List.map_nil, List.sum_cons, List.sum_nil, reduceCtorEq, if_true, if_false,
      Nat.add_zero, Nat.zero_add]
  · exact .locked
  · exact .inTransit
  · exact .arrivalConfirmed
  · exact .frozen
  · exact .cancelled
  · exact .refunded
  · exact .released
  · exact .refunded
  · exact .released

variable {t : Trade}

/-- A split and what it leaves reserved add up to what was locked; the treasury's part is nothing
or the fees. -/
theorem Split.conservation {x y z : ℕ} (h : Split t t.status x y z)
    (ht : t.WellFormed P) :
    x + y + z + t.reserved = t.totalAmountLocked ∧
      (z = 0 ∨ z = t.logisticsAmount + t.platformFeesAmount) := by
  have htotal := ht.total_eq
  unfold Trade.reserved
  generalize t.status = status at h
  cases h with
  | locked | cancelled => exact ⟨by dsimp only; omega, Or.inl rfl⟩
  | inTransit | arrivalConfirmed | frozen | released | refunded =>
    exact ⟨by dsimp only; omega, Or.inr rfl⟩

theorem Split.closed {x y z : ℕ} (h : Split t .closed x y z) :
    (x, y, z) ∈ [(0, t.totalAmountLocked, 0),
      (t.supplierFirstTranche + t.supplierSecondTranche, 0,
        t.logisticsAmount + t.platformFeesAmount),
      (t.supplierFirstTranche, t.supplierSecondTranche,
        t.logisticsAmount + t.platformFeesAmount)] := by
  cases h <;> simp

def State.paymentsFor (s : State T) (tradeId : ℕ) : List Payment :=
  s.payments.filter (·.tradeId = tradeId)

/-- Every trade has made a walk and was paid for it; nothing is paid for other numbers. -/
structure Accounts (s : State T) : Prop where
  walked : ∀ id < s.book.tradeCounter, ∃ ms, Lifecycle ms (s.book.trades id).status ∧
    s.paymentsFor id =
      positivePayments (walkPayments ms id (s.book.trades id) s.roles.treasuryAddress)
  unpaid : ∀ id, s.book.tradeCounter ≤ id → s.paymentsFor id = []

theorem Milestone.tradeId_of_mem_scheduled {id : ℕ}
    {treasury : Address} {p : Payment} (hp : p ∈ m.scheduled id t treasury) : p.tradeId = id := by
  cases m <;> simp only [Milestone.scheduled, List.mem_cons, List.not_mem_nil, or_false] at hp
  · rcases hp with rfl | rfl | rfl <;> rfl
  · rw [hp]

theorem filter_scheduled (m : Milestone) (id i : ℕ) (t : Trade) (treasury : Address) :
    (positivePayments (m.scheduled id t treasury)).filter (·.tradeId = i) =
      if i = id then positivePayments (m.scheduled id t treasury) else [] := by
  have hmem : ∀ p ∈ positivePayments (m.scheduled id t treasury), p.tradeId = id :=
    fun p hp => Milestone.tradeId_of_mem_scheduled (List.mem_of_mem_filter hp)
  split_ifs with hi
  · rw [List.filter_eq_self]
    intro p hp
    simp [hmem p hp, hi]
  · rw [List.filter_eq_nil_iff]
    intro p hp
    simp [hmem p hp, Ne.symm hi]

theorem Milestone.scheduled_advance (m m' : Milestone) (now id : ℕ) (t : Trade)
    (treasury : Address) :
    m.scheduled id (m'.advance now t) treasury = m.scheduled id t treasury := by
  rcases m with _ | _ | _ | (_ | _ | _ | _ | _) <;> cases m' <;> rfl

theorem walkPayments_snoc (ms : List Milestone) (m : Milestone) (now id : ℕ) (t : Trade)
    (treasury : Address) :
    positivePayments (walkPayments (ms ++ [m]) id (m.advance now t) treasury) =
      positivePayments (walkPayments ms id t treasury) ++
        positivePayments (m.scheduled id t treasury) := by
  unfold walkPayments
  simp only [Milestone.scheduled_advance, List.flatMap_append, List.flatMap_singleton]
  exact List.filter_append ..

theorem Settlement.accounts (h : Settlement P env s s')
    (htreasury : s'.roles.treasuryAddress = s.roles.treasuryAddress) (ha : Accounts s) :
    Accounts s' := by
  -- all but a milestone leave the payments of every trade as they were
  have hfor : s'.payments = s.payments → ∀ id, s'.paymentsFor id = s.paymentsFor id := by
    intro hpay id
    unfold State.paymentsFor
    rw [hpay]
  have hsame : s'.book = s.book → s'.payments = s.payments → Accounts s' := by
    intro hbook hpay
    refine ⟨fun id hid => ?_, fun id hid => ?_⟩
    · rw [hbook] at hid ⊢
      rw [htreasury, hfor hpay]
      exact ha.walked id hid
    · rw [hbook] at hid
      rw [hfor hpay]
      exact ha.unpaid id hid
  cases h with
  | idle hbook _ _ _ hpayments | swept hbook _ _ _ _ _ hpayments => exact hsame hbook hpayments
  | created _ _ _ _ hbook _ _ hpayments =>
    refine ⟨fun id hid => ?_, fun id hid => ?_⟩
    · rw [hbook] at hid
      rw [hfor hpayments, hbook, htreasury]
      by_cases hnew : id = s.book.tradeCounter
      · subst hnew
        refine ⟨[], ?_, ?_⟩
        · simpa [TradeStore.push, newTrade] using Lifecycle.nil
        · rw [ha.unpaid _ le_rfl]
          rfl
      · have hlt : id < s.book.tradeCounter + 1 := hid
        simpa [TradeStore.push, hnew] using ha.walked id (by omega)
    · rw [hbook] at hid
      have hle : s.book.tradeCounter + 1 ≤ id := hid
      rw [hfor hpayments]
      exact ha.unpaid id (by omega)
  | moved m tradeId _ _ _ hsource _ hbook _ _ hpayments =>
    have hsplit : ∀ id, s'.paymentsFor id = s.paymentsFor id ++
        if id = tradeId then positivePayments
          (m.scheduled tradeId (s.book.trades tradeId) s.roles.treasuryAddress) else [] := by
      intro id
      unfold State.paymentsFor
      rw [hpayments, List.filter_append, filter_scheduled]
    refine ⟨fun id hlt => ?_, fun id hge => ?_⟩
    · rw [hbook, Milestone.record_tradeCounter] at hlt
      rw [hsplit, hbook, htreasury, Milestone.record_trades]
      obtain ⟨ms, hlife, hpaid⟩ := ha.walked id hlt
      by_cases hi : id = tradeId
      · subst hi
        rw [hsource] at hlife
        refine ⟨ms ++ [m], ?_, ?_⟩
        · rw [Function.update_self, Milestone.advance_status]
          exact hlife.snoc
        · rw [Function.update_self, if_pos rfl, walkPayments_snoc, hpaid]
      · rw [Function.update_of_ne hi, if_neg hi, List.append_nil]
        exact ⟨ms, hlife, hpaid⟩
    · rw [hbook, Milestone.record_tradeCounter] at hge
      have hne : id ≠ tradeId := by omega
      rw [hsplit, if_neg hne, List.append_nil]
      exact ha.unpaid id hge

theorem Reachable.accounts {c : Config T} (h : Reachable P c) : Accounts c.state := by
  refine h.state_invariant ?_ ?_ (fun s usdc _ ha => ⟨ha.walked, ha.unpaid⟩)
  · rintro env args usdc s ⟨haccepted, hpush⟩
    exact ⟨fun id hid => absurd hid (Nat.not_lt_zero id), fun id _ => rfl⟩
  · intro c env call s' hreach he ha
    exact (he.settlement hreach.solvent.book.blank).accounts he.treasuryAddress_eq ha

/-! ### Reported payments are made -/

/-- What was transferred to, or set aside for, a payee of a trade in the whole run. -/
def State.paidTo (s : State T) (payee : Payee) (tradeId : ℕ) : ℕ :=
  totalTo payee (s.paymentsFor tradeId)

end Cotsel.Escrow
