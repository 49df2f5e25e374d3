import IpcSession.SyncIo.ServerAdapter

namespace IpcSession.SyncIo.ServerAdapter

/-!
# When the session-server adapter accepts

`async_accept()` is announced to return false, and to do nothing, before `start_ops()` and while an
earlier accept is under way.  The second is what its guard looks at; the first it leaves to the
event-wait function, which it invokes last.

* `noteStarted` — an observer that remembers whether `start_ops()` has returned true.
* `GatedAccept` — what a call is to come to.
* `gatesAccept_iff` — **in every run the next call does what is announced exactly if `start_ops()`
  has returned true.**
-/

/-- `start_ops()` returns true in this step. -/
def startsOps (s : ServerAdapter) : Act → Bool
  | .startOps => s.startOps.1
  | _ => false

/-- The observer of a run: has `start_ops()` returned true? -/
def noteStarted (s : ServerAdapter) (a : Act) (started : Bool) : Bool :=
  started || s.startsOps a

/-- An accept was started, and its handler not yet invoked. -/
def acceptPending (s : ServerAdapter) : Prop :=
  s.invoked.length < s.accepts.length

/-- What `async_accept()` is announced to come to: false and no effect, or true with one accept of
    the core started and one wait armed. -/
inductive GatedAccept (s : ServerAdapter) (started : Bool) (overload : AcceptOverload) :
    Outcome ServerFailure (Bool × ServerAdapter) → Prop where
  | rejected (h : started = false ∨ s.acceptPending) :
      GatedAccept s started overload (.done (false, s))
  | accepted (hstarted : started = true) (hfree : ¬ s.acceptPending) :
      GatedAccept s started overload (.done (true, { s with
        onDoneFuncOrEmpty := some s.accepts.length
        accepts := s.accepts ++ [.pending overload]
        waits := s.waits + 1 }))

/-- The calls of `async_accept()` are gated, and no function is invoked while empty. -/
structure GatesAccept (s : ServerAdapter) (started : Bool) : Prop where
  calls : s.acceptRead = .idle →
    ∀ overload, GatedAccept s started overload (s.asyncAcceptWith overload)
  noEmptyFunction : ∀ a, step s a ≠ .failed .emptyFunction

variable {s s' : ServerAdapter} {results : List ErrorCode} {started : Bool}

/-! ### The guard and the pending accept -/

/-- Outside `accept_read()` the handler slot tells whether an accept is pending. -/
theorem Inv.isSome_iff (hI : Inv s results) (hidle : s.acceptRead = .idle) :
    s.onDoneFuncOrEmpty.isSome = true ↔ s.acceptPending := by
  have hinvoked : s.invoked.length = results.length := by rw [hI.invoked, List.length_range]
  unfold acceptPending
  rw [hinvoked]
  cases hI.front with
  | free haccepts hslot =>
    rw [hslot, haccepts, List.length_map]
    simp
  | started a ha haccepts hslot =>
    rw [hslot, haccepts, List.length_append, List.length_map]
    simp
  | ready haccepts hslot =>
    rw [hslot, haccepts, List.length_append, List.length_map]
    simp
  | consumed _ _ _ _ hread =>
    rw [hidle] at hread
    cases hread
  | moved _ _ _ _ hread =>
    rw [hidle] at hread
    cases hread

/-- What a step does to the event-wait function, and that it is there when an accept starts. -/
theorem step_opens {a : Act} (h : step s a = .done s') :
    s'.evWaitFunc = (s.evWaitFunc || s.startsOps a) ∧
      (s'.accepts.length = s.accepts.length ∨ s.evWaitFunc = true) := by
  -- Both overloads gate alike: before start_ops() they stop at the event-wait function.
  have haccept {overload : AcceptOverload} {b : Bool} {s₁ : ServerAdapter}
      (h : s.asyncAcceptWith overload = .done (b, s₁)) : s₁.evWaitFunc = (s.evWaitFunc || false) ∧
        (s₁.accepts.length = s.accepts.length ∨ s.evWaitFunc = true) := by
    unfold asyncAcceptWith at h
    split at h
    · cases h
      exact ⟨(Bool.or_false _).symm, .inl rfl⟩
    · simp only [Outcome.bind_eq_done, Outcome.check_eq_done, Outcome.pure_eq,
        Outcome.done.injEq, Prod.mk.injEq] at h
      obtain ⟨-, hev, -, rfl⟩ := h
      exact ⟨(Bool.or_false _).symm, .inr hev⟩
  cases a with
  | startOps =>
    simp only [step, Outcome.bind_eq_done, Outcome.pure_eq, Outcome.done.injEq] at h
    obtain ⟨-, -, rfl⟩ := h
    unfold startsOps startOps
    split
    · rename_i hev
      exact ⟨by simp [hev], .inl rfl⟩
    · exact ⟨(Bool.or_true _).symm, .inl rfl⟩
  | asyncAccept =>
    simp only [step, Outcome.bind_eq_done, Outcome.pure_eq, Outcome.done.injEq] at h
    obtain ⟨-, -, ⟨b, s₁⟩, h₁, rfl⟩ := h
    exact haccept h₁
  | asyncAcceptInitChannels =>
    simp only [step, Outcome.bind_eq_done, Outcome.pure_eq, Outcome.done.injEq] at h
    obtain ⟨-, -, ⟨b, s₁⟩, h₁, rfl⟩ := h
    exact haccept h₁
  -- Thread W's side and the reads of the pipe never touch the event-wait function.
  | acceptWrite i errCode =>
    simp only [step, acceptWrite] at h
    split at h
    · split at h <;> cases h <;> exact ⟨(Bool.or_false _).symm, .inl (List.length_set)⟩
    · cases h
  | pipeProduce i =>
    simp only [step, pipeProduce] at h
    split at h
    · cases h
      exact ⟨(Bool.or_false _).symm, .inl List.length_set⟩
    · cases h
  | acceptRead =>
    simp only [step, acceptReadStep] at h
    split at h
    · simp only [Outcome.bind_eq_done, Outcome.pure_eq, Outcome.done.injEq] at h
      obtain ⟨-, -, rfl⟩ := h
      exact ⟨(Bool.or_false _).symm, .inl rfl⟩
    · cases h
      exact ⟨(Bool.or_false _).symm, .inl rfl⟩
    · split at h
      · cases h
      · cases h
        exact ⟨(Bool.or_false _).symm, .inl rfl⟩
    · cases h
      exact ⟨(Bool.or_false _).symm, .inl rfl⟩
  | handlerReturn =>
    simp only [step, handlerReturn, Outcome.bind_eq_done] at h
    obtain ⟨-, -, h⟩ := h
    split at h
    · cases h
    · cases h
      exact ⟨(Bool.or_false _).symm, .inl rfl⟩

/-! ### What the observer knows -/

/-- The note is what the adapter itself could know, and accepts are of a started adapter. -/
structure Noted (n : ServerAdapter × Bool) : Prop where
  started : n.2 = n.1.evWaitFunc
  accepts : n.1.accepts ≠ [] → n.1.evWaitFunc = true

/-- What is noted of `start_ops()` stays true. -/
theorem Noted.step {n n' : ServerAdapter × Bool} (hN : Noted n) {a : Act}
    (h : Machine.observed noteStarted ServerAdapter.step n a = .done n') : Noted n' := by
  obtain ⟨hs, hnote⟩ := Machine.observed_done h
  obtain ⟨hev, hlen⟩ := step_opens hs
  refine ⟨by rw [hnote, hev, noteStarted, hN.started], fun hne => ?_⟩
  have hopen : n.1.evWaitFunc = true := by
    rcases hlen with hlen | hopen
    · refine hN.accepts fun hnil => hne ?_
      rw [hnil, List.length_nil] at hlen
      exact List.eq_nil_of_length_eq_zero hlen
    · exact hopen
  rw [hev, hopen, Bool.true_or]

/-- What holds of the adapter, and of the note, along every run. -/
theorem exists_inv_noted {n : ServerAdapter × Bool}
    (hr : Machine.Reaches (Machine.observed noteStarted step) Machine.anyStep
      (construct, false) n) :
    (∃ results, Inv n.1 results) ∧ Noted n := by
  refine hr.invariant (P := fun n => (∃ results, Inv n.1 results) ∧ Noted n)
    ⟨⟨[], inv_construct⟩, rfl, fun hne => absurd rfl hne⟩ ?_
  rintro n a n' ⟨⟨results, hI⟩, hN⟩ - hs
  exact ⟨hI.step (Machine.observed_done hs).1, hN.step hs⟩

/-! ### The next call -/

/-- What the call of a started adapter does where no accept is pending. -/
theorem asyncAcceptWith_started (hev : s.evWaitFunc = true) (hnone : s.onDoneFuncOrEmpty = none)
    (overload : AcceptOverload) : s.asyncAcceptWith overload = .done (true, { s with
      onDoneFuncOrEmpty := some s.accepts.length
      accepts := s.accepts ++ [.pending overload]
      waits := s.waits + 1 }) := by
  unfold asyncAcceptWith
  simp [hnone, hev, Outcome.check]

/-- The event-wait function is what the call of an adapter that is not started fails at. -/
theorem asyncAcceptWith_not_started (hev : s.evWaitFunc = false)
    (hnone : s.onDoneFuncOrEmpty = none)
    (overload : AcceptOverload) : s.asyncAcceptWith overload = .failed .emptyFunction := by
  unfold asyncAcceptWith
  simp [hnone, hev, Outcome.check]

/-- In a started adapter the next call is gated. -/
theorem Inv.gatedAccept (hI : Inv s results) (hev : s.evWaitFunc = true)
    (hidle : s.acceptRead = .idle) (overload : AcceptOverload) :
    GatedAccept s true overload (s.asyncAcceptWith overload) := by
  have hpending := hI.isSome_iff hidle
  by_cases hslot : s.onDoneFuncOrEmpty.isSome = true
  · have hcall : s.asyncAcceptWith overload = .done (false, s) := by
      unfold ServerAdapter.asyncAcceptWith
      rw [if_pos hslot]
      rfl
    rw [hcall]
    exact .rejected (.inr (hpending.mp hslot))
  · have hnone : s.onDoneFuncOrEmpty = none := by simpa using hslot
    rw [asyncAcceptWith_started hev hnone]
    exact .accepted rfl fun hp => hslot (hpending.mpr hp)

/-- In a started adapter no function is invoked while empty. -/
theorem Inv.step_ne_failed (hI : Inv s results) (hev : s.evWaitFunc = true) (a : Act)
    (f : ServerFailure) : ServerAdapter.step s a ≠ .failed f := by
  have haccept {overload : AcceptOverload} (h : s.asyncAcceptWith overload = .failed f) :
      False := by
    unfold ServerAdapter.asyncAcceptWith at h
    split at h
    · cases h
    · rw [hev] at h
      cases h
  intro h
  cases a with
  | startOps =>
    simp only [ServerAdapter.step, Outcome.bind_eq_failed, Outcome.pure_eq] at h
    rcases h with h | ⟨-, -, h⟩
    · exact Outcome.require_ne_failed h
    · cases h
  | asyncAccept =>
    simp only [ServerAdapter.step, Outcome.bind_eq_failed, Outcome.pure_eq] at h
    rcases h with h | ⟨-, -, h | ⟨_, -, h⟩⟩
    · exact Outcome.require_ne_failed h
    · exact haccept h
    · cases h
  | asyncAcceptInitChannels =>
    simp only [ServerAdapter.step, Outcome.bind_eq_failed, Outcome.pure_eq] at h
    rcases h with h | ⟨-, -, h | ⟨_, -, h⟩⟩
    · exact Outcome.require_ne_failed h
    · exact haccept h
    · cases h
  | acceptWrite i errCode =>
    simp only [ServerAdapter.step, ServerAdapter.acceptWrite] at h
    split at h
    · split at h <;> cases h
    · cases h
  | pipeProduce i =>
    simp only [ServerAdapter.step, ServerAdapter.pipeProduce] at h
    split at h <;> cases h
  | acceptRead =>
    simp only [ServerAdapter.step, ServerAdapter.acceptReadStep] at h
    split at h
    · simp [Outcome.bind_eq_failed] at h
    · cases h
    · rename_i hconsumed
      split at h
      · rename_i hnone
        -- the byte is consumed: the handler is still in its slot
        cases hI.front with
        | free _ _ _ _ hread => rw [hread] at hconsumed; cases hconsumed
        | started _ _ _ hslot => rw [hslot] at hnone; cases hnone
        | ready _ hslot => rw [hslot] at hnone; cases hnone
        | consumed _ hslot => rw [hslot] at hnone; cases hnone
        | moved _ _ _ _ hread => rw [hread] at hconsumed; cases hconsumed
      · cases h
    · cases h
  | handlerReturn =>
    simp only [ServerAdapter.step, ServerAdapter.handlerReturn, Outcome.bind_eq_failed] at h
    rcases h with h | ⟨-, -, h⟩
    · exact Outcome.require_ne_failed h
    · split at h <;> cases h

/-- An accept of a new adapter: the handler is stored and the core's accept started, and then the
    event-wait function is invoked while empty. -/
theorem not_gatesAccept_literally :
    ∃ n, Machine.Reaches (Machine.observed noteStarted step) Machine.anyStep (construct, false) n ∧
      ¬ GatesAccept n.1 n.2 :=
  ⟨_, .refl, fun h => h.noEmptyFunction .asyncAccept (by decide)⟩

/-- **In every run `async_accept()` is gated as announced exactly if `start_ops()` has returned
    true.** -/
theorem gatesAccept_iff
    (hr : Machine.Reaches (Machine.observed noteStarted step) Machine.anyStep (construct, false)
      (s, started)) :
    GatesAccept s started ↔ started = true := by
  obtain ⟨⟨results, hI⟩, hN⟩ := exists_inv_noted hr
  have hev : started = s.evWaitFunc := hN.started
  refine ⟨fun hG => ?_, fun hstarted => ?_⟩
  · by_contra hne
    have hev : s.evWaitFunc = false := by rw [← hev]; simpa using hne
    -- nothing was accepted yet, so nothing is under way
    have hnil : s.accepts = [] := by
      by_contra hnil
      exact Bool.false_ne_true (hev.symm.trans (hN.accepts hnil))
    obtain ⟨hslot, hidle⟩ : s.onDoneFuncOrEmpty = none ∧ s.acceptRead = .idle := by
      cases hI.front with
      | free _ hslot _ _ hread => exact ⟨hslot, hread⟩
      | started a ha haccepts => rw [hnil] at haccepts; simp at haccepts
      | ready haccepts => rw [hnil] at haccepts; simp at haccepts
      | consumed haccepts => rw [hnil] at haccepts; simp at haccepts
      | moved haccepts => rw [hnil] at haccepts; simp at haccepts
    have hcall := hG.calls hidle .basic
    rw [asyncAcceptWith_not_started hev hslot] at hcall
    cases hcall
  · have hopen : s.evWaitFunc = true := hev.symm.trans hstarted
    subst hstarted
    exact ⟨fun hidle overload => hI.gatedAccept hopen hidle overload,
      fun a => hI.step_ne_failed hopen a _⟩

/-- A second accept, called while the first is pending, after `start_ops()`. -/
theorem gatesAccept_iff_pending :
    ∃ n : ServerAdapter × Bool, n.1.accepts = [.pending .initChannels] ∧ n.1.waits = 1 ∧
      (GatesAccept n.1 n.2 ↔ n.2 = true) ∧ n.2 = true := by
  obtain ⟨n, hr, hs⟩ := Machine.Reaches.exists_of_run (Machine.observed noteStarted step)
    (construct, false) [.startOps, .asyncAcceptInitChannels, .asyncAccept]
    (fun n => n.1.accepts = [.pending .initChannels] && n.1.waits = 1 && n.2) (by decide)
  simp only [Bool.and_eq_true, decide_eq_true_eq] at hs
  exact ⟨n, hs.1.1, hs.1.2, gatesAccept_iff hr, hs.2⟩

end IpcSession.SyncIo.ServerAdapter
