import Cotsel.Escrow.Invariant.Solvency

/-!
# The timers of a trade

Each status relies on timestamps that an earlier transition wrote: `inTransitSince` is set while a
trade is in transit, and `arrivalTimestamp` and the inspection window from the arrival on.  Block
timestamps are positive and do not decrease, so a timer that was written is not zero, and the
errors that report a missing timer are never raised.
-/

namespace Cotsel.Escrow

open Runs

variable {T : Type} {P : Platform T} {env : Env} {s s' : State T}

/-! ### Time -/

/-- `c` is reached from a construction in a block with a positive timestamp. -/
def TimedReachable (P : Platform T) (c : Config T) : Prop :=
  ∃ c₀ tr, Deployed P c₀ ∧ 0 < c₀.clock ∧ Run (Step P) c₀ tr c

namespace TimedReachable

variable {c c' : Config T} {l : Label T}

theorem reachable (h : TimedReachable P c) : Reachable P c := by
  obtain ⟨c₀, tr, hdep, -, hrun⟩ := h
  exact ⟨c₀, tr, hdep, hrun⟩

theorem step (h : TimedReachable P c) (hstep : Step P c l c') : TimedReachable P c' := by
  obtain ⟨c₀, _, hdep, hpos, hrun⟩ := h
  exact ⟨c₀, _, hdep, hpos, .snoc hrun hstep⟩

theorem clock_pos (h : TimedReachable P c) : 0 < c.clock := by
  obtain ⟨_, _, -, hpos, hrun⟩ := h
  refine hrun.invariant (I := fun c => 0 < c.clock) (fun c l c' hc hstep => ?_) hpos
  cases hstep with
  | call htime => exact lt_of_lt_of_le hc htime
  | external => exact hc

end TimedReachable

/-! ### The timers -/

/-- The timers of trade `id` are those of its status. -/
structure TradeStore.Timed (b : TradeStore) (id : ℕ) : Prop where
  locked : (b.trades id).status = .locked → (b.trades id).arrivalTimestamp = 0
  inTransit : (b.trades id).status = .inTransit →
    0 < b.inTransitSince id ∧ (b.trades id).arrivalTimestamp = 0
  arrived : (b.trades id).status = .arrivalConfirmed ∨ (b.trades id).status = .frozen →
    0 < (b.trades id).arrivalTimestamp ∧
      (b.inspectionWindowSeconds id = packagedLocalInspectionWindow ∨
        b.inspectionWindowSeconds id = standardInspectionWindow)

theorem TradeStore.Timed.congr {b b' : TradeStore} {id : ℕ} (h : b.Timed id)
    (htrade : b'.trades id = b.trades id) (hsince : b'.inTransitSince id = b.inTransitSince id)
    (hwindow : b'.inspectionWindowSeconds id = b.inspectionWindowSeconds id) : b'.Timed id := by
  refine ⟨?_, ?_, ?_⟩
  · rw [htrade]
    exact h.locked
  · rw [htrade, hsince]
    exact h.inTransit
  · rw [htrade, hwindow]
    exact h.arrived

/-- A milestone at a positive time writes the timers of the status it leads to. -/
theorem Milestone.timed_record {b : TradeStore} {id now : ℕ} (m : Milestone) (hnow : 0 < now)
    (hsource : (b.trades id).status = m.source) (hwindow : m.WindowSupported)
    (h : b.Timed id) : (m.record now id b).Timed id := by
  have htrade : (m.record now id b).trades id = m.advance now (b.trades id) := by
    rw [Milestone.record_trades, Function.update_self]
  have hstatus : ((m.record now id b).trades id).status = m.target := by
    rw [htrade, Milestone.advance_status]
  cases m with
  | stage1 =>
    refine ⟨fun hl => (by cases hstatus.symm.trans hl), fun _ => ⟨?_, ?_⟩, ?_⟩
    · simpa [Milestone.record, TradeStore.setStatus, TradeStore.setInTransitSince] using hnow
    · rw [htrade]
      exact h.locked hsource
    · rintro (hl | hl)
      · cases hstatus.symm.trans hl
      · cases hstatus.symm.trans hl
  | arrival w =>
    refine ⟨fun hl => (by cases hstatus.symm.trans hl),
      fun hl => (by cases hstatus.symm.trans hl), fun _ => ⟨?_, ?_⟩⟩
    · rw [htrade]
      exact hnow
    · have hw : (Milestone.record (.arrival w) now id b).inspectionWindowSeconds id = w :=
        Function.update_self ..
      rw [hw]
      exact hwindow.symm
  | dispute =>
    refine ⟨fun hl => (by cases hstatus.symm.trans hl),
      fun hl => (by cases hstatus.symm.trans hl), fun _ => ?_⟩
    rw [htrade]
    exact h.arrived (Or.inl hsource)
  | closing =>
    refine ⟨fun hl => (by cases hstatus.symm.trans hl),
      fun hl => (by cases hstatus.symm.trans hl), ?_⟩
    rintro (hl | hl)
    · cases hstatus.symm.trans hl
    · cases hstatus.symm.trans hl

theorem Settlement.timed (h : Settlement P env s s') (hnow : 0 < env.timestamp)
    (hs : ∀ id, s.book.Timed id) (id : ℕ) : s'.book.Timed id := by
  cases h with
  | idle hbook | swept hbook => exact hbook ▸ hs id
  | created _ _ _ _ hbook =>
    rw [hbook]
    by_cases hid : id = s.book.tradeCounter
    · -- the new trade is locked, and did not arrive
      subst hid
      refine ⟨fun _ => ?_, ?_, ?_⟩
      · simp [TradeStore.push, newTrade]
      · simp [TradeStore.push, newTrade]
      · simp [TradeStore.push, newTrade]
    · exact (hs id).congr (Function.update_of_ne hid ..) rfl rfl
  | moved m tradeId _ _ _ hsource hwindow hbook =>
    rw [hbook]
    by_cases hsame : id = tradeId
    · subst hsame
      exact m.timed_record hnow hsource hwindow (hs id)
    · refine (hs id).congr ?_ (m.record_inTransitSince_of_ne _ _ _ hsame)
        (m.record_inspectionWindowSeconds_of_ne _ _ _ hsame)
      rw [Milestone.record_trades, Function.update_of_ne hsame]

theorem Constructed.timed {args : DeployArgs} {usdc : T} (h : Constructed P env args usdc s)
    (id : ℕ) : s.book.Timed id := by
  obtain ⟨haccepted, hpush⟩ := h
  refine ⟨fun _ => rfl, fun hstatus => absurd hstatus (by nofun), ?_⟩
  rintro (hstatus | hstatus)
  · exact absurd hstatus (by nofun)
  · exact absurd hstatus (by nofun)

theorem TimedReachable.timed {c : Config T} (h : TimedReachable P c) (id : ℕ) :
    c.state.book.Timed id := by
  obtain ⟨c₀, _, hdep, hpos, hrun⟩ := h
  refine (hrun.invariant (I := fun c => TimedReachable P c ∧ ∀ id, c.state.book.Timed id)
    ?_ ⟨⟨c₀, [], hdep, hpos, .nil _⟩, ?_⟩).2 id
  · rintro _ _ _ ⟨hreach, hc⟩ hstep
    refine ⟨hreach.step hstep, ?_⟩
    cases hstep with
    | call htime hexec =>
      have hsettled := (exec_effect hexec).settlement hreach.reachable.solvent.book.blank
      exact hsettled.timed (lt_of_lt_of_le hreach.clock_pos htime) hc
    | external => exact hc
  · obtain ⟨_, _, _, hdeploy, -⟩ := hdep
    exact (deploy_constructed hdeploy).timed

/-! ### Errors that are never raised -/

/-- No call stops because a timer is missing or an outcome unknown. -/
theorem TimedReachable.not_raised {c : Config T} (h : TimedReachable P c) (env : Env)
    (call : Call) {e : EscrowError}
    (he : e ∈ [.arrivalNotSet, .inTransitTimestampNotSet, .inspectionNotAvailable,
      .invalidDisputeStatus]) : exec P env call c.state ≠ .error e := by
  intro herr
  have hdiag := exec_diagnosis call _ herr
  simp only [List.mem_cons, List.not_mem_nil, or_false] at he
  rcases he with rfl | rfl | rfl | rfl
  · obtain ⟨id, hstatus, hzero⟩ := hdiag
    exact absurd hzero ((h.timed id).arrived (Or.inl hstatus)).1.ne'
  · obtain ⟨id, hstatus, hzero⟩ := hdiag
    exact absurd hzero ((h.timed id).inTransit hstatus).1.ne'
  · exact hdiag
  · exact hdiag

end Cotsel.Escrow
