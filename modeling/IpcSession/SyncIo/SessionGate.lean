import IpcSession.SyncIo.SessionAdapter

namespace IpcSession.SyncIo.SessionAdapter

/-!
# When the session adapter of a server takes its handlers

`init_handlers()` is announced to return false before `start_ops()` and after it has returned true;
its assertions say that the core agrees.  What its guard looks at is the slot of the on-error
handler: empty before `start_ops()` too, and again once the error event is delivered.

* `Notes`, `takeNotes` — an observer that remembers what the public calls returned.
* `GatedInit` — what a call is to come to.
* `initKept` — `init_handlers()` is called after `start_ops()` only, and before the error event is
  delivered.
* `gatesInit_of_kept` — **in such runs it returns true at most once, and the next call does what is
  announced exactly if it is such a call.**
-/

variable {R : Type}

/-- What the observer of a run remembers. -/
structure Notes where
  /-- `start_ops()` has returned true. -/
  started : Bool
  /-- How many times `init_handlers()` has returned true. -/
  accepted : Nat
  deriving DecidableEq, Repr

/-- The result of the overloads of `init_handlers()`, by whether there is a channel handler. -/
def initWith (s : SessionAdapter R) (onErr : Handler) :
    Option Handler → Outcome Failure (Bool × SessionAdapter R)
  | none => s.initErrHandler onErr
  | some onChannel => s.initHandlers onErr onChannel

/-- The handlers that this step passes to `init_handlers()`. -/
def initArgs : Act R → Option (Handler × Option Handler)
  | .initHandlers onErr onChannel => some (onErr, some onChannel)
  | .initErrHandler onErr => some (onErr, none)
  | _ => none

/-- `start_ops()` returns true in this step. -/
def startsOps (s : SessionAdapter R) : Act R → Bool
  | .startOps => s.startOps.any Prod.fst
  | _ => false

/-- `init_handlers()` returns true in this step. -/
def initAccepts (s : SessionAdapter R) (a : Act R) : Bool :=
  (initArgs a).any fun args => (s.initWith args.1 args.2).any Prod.fst

/-- The observer. -/
def takeNotes (s : SessionAdapter R) (a : Act R) (n : Notes) : Notes where
  started := n.started || s.startsOps a
  accepted := n.accepted + (s.initAccepts a).toNat

/-- What `init_handlers()` is announced to come to: false and no effect; or true, in a started
    adapter and for the first time, with the core's `init_handlers()` called and true too. -/
inductive GatedInit (s : SessionAdapter R) (n : Notes) (onErr : Handler)
    (onChannel : Option Handler) : Outcome Failure (Bool × SessionAdapter R) → Prop where
  | ignored : GatedInit s n onErr onChannel (.done (false, s))
  | accepted (hstarted : n.started = true) (hfirst : n.accepted = 0) (core : Core)
      (hcore : s.core.initHandlers onChannel.isSome = (true, core)) :
      GatedInit s n onErr onChannel (.done (true, { s with
        onErrFunc := some onErr
        onChannelFuncOrEmpty := onChannel
        core }))

/-- After `start_ops()` has returned true, and before the error event is delivered. -/
def mayInit (s : SessionAdapter R) (n : Notes) : Bool :=
  n.started && s.errors.isEmpty

/-- `init_handlers()` is called at such a time only. -/
def initKept (n : SessionAdapter R × Notes) (a : Act R) : Bool :=
  (initArgs a).isNone || mayInit n.1 n.2

/-- An adapter before anything happened, observed. -/
def observedStart : SessionAdapter R × Notes := (construct .default, ⟨false, 0⟩)

variable {s s' : SessionAdapter R} {n n' : SessionAdapter R × Notes}

/-! ### What the observer knows -/

/-- What the notes say of the adapter, and what a core without handlers says of the slots. -/
structure Noted (n : SessionAdapter R × Notes) : Prop where
  started : n.2.started = n.1.evWaitFunc
  accepted : n.2.accepted = n.1.core.handlersSet.toNat
  onErr : n.1.core.handlersSet = false → n.1.onErrFunc = none
  onChannel : n.1.core.handlersSet = false → n.1.onChannelFuncOrEmpty = none

/-- Nothing has been called. -/
theorem noted_start : Noted (observedStart : SessionAdapter R × Notes) where
  started := rfl
  accepted := rfl
  onErr _ := rfl
  onChannel _ := rfl

/-- What a call of `init_handlers()` leaves, when it comes back. -/
theorem initWith_done {onErr : Handler} {onChannel : Option Handler} {b : Bool}
    (h : s.initWith onErr onChannel = .done (b, s')) :
    (b = false ∧ s' = s) ∨ (b = true ∧ s.core.handlersSet = false ∧
      s'.core.handlersSet = true ∧ s'.evWaitFunc = s.evWaitFunc ∧ s'.errors = s.errors) := by
  have hfresh {c : Bool} (hok : (s.core.initHandlers c).1 = true) :
      s.core.handlersSet = false ∧ (s.core.initHandlers c).2.handlersSet = true := by
    unfold Core.initHandlers at hok ⊢
    split at hok
    · cases hok
    · rename_i hset
      rw [if_neg hset]
      exact ⟨by simpa using hset, rfl⟩
  cases onChannel with
  | none =>
    have h : s.initErrHandler onErr = .done (b, s') := h
    unfold initErrHandler at h
    split at h
    · cases h
      exact .inl ⟨rfl, rfl⟩
    · simp only [Outcome.bind_eq_done, Outcome.check_eq_done, Outcome.pure_eq, Outcome.done.injEq,
        Prod.mk.injEq] at h
      obtain ⟨-, hok, hb, rfl⟩ := h
      exact .inr ⟨hb.symm, (hfresh hok).1, (hfresh hok).2, rfl, rfl⟩
  | some onChannel =>
    have h : s.initHandlers onErr onChannel = .done (b, s') := h
    unfold initHandlers at h
    split at h
    · cases h
      exact .inl ⟨rfl, rfl⟩
    · simp only [Outcome.bind_eq_done, Outcome.check_eq_done, Outcome.pure_eq, Outcome.done.injEq,
        Prod.mk.injEq] at h
      obtain ⟨-, -, -, hok, hb, rfl⟩ := h
      exact .inr ⟨hb.symm, (hfresh hok).1, (hfresh hok).2, rfl, rfl⟩

/-- The steps that are no call of `init_handlers()` leave the core's handlers and the slots, but
    that the callback for the error event empties the on-error handler's. -/
theorem step_core {a : Act R} (ha : initArgs a = none) (h : step s a = .done s') :
    s'.evWaitFunc = (s.evWaitFunc || s.startsOps a) ∧ s'.core = s.core ∧
      s'.onChannelFuncOrEmpty = s.onChannelFuncOrEmpty ∧
      (s'.onErrFunc = s.onErrFunc ∧ s'.errors = s.errors ∨
        s'.onErrFunc = none ∧ s.errCall = .consumed) := by
  cases a with
  -- The first call sets the event-wait function; a second one changes nothing.
  | startOps =>
    simp only [step, startOps, Outcome.pure_eq] at h
    split at h
    · rename_i hev
      cases h
      exact ⟨by simp [hev], rfl, rfl, .inl ⟨rfl, rfl⟩⟩
    · rename_i hev
      cases h
      have hany : s.startsOps .startOps = true := by
        unfold startsOps startOps
        rw [if_neg hev]
        rfl
      exact ⟨by rw [hany, Bool.or_true], rfl, rfl, .inl ⟨rfl, rfl⟩⟩
  | initHandlers onErr onChannel => cases ha
  | initErrHandler onErr => cases ha
  -- Thread W's two handlers store the result and write to their pipes.
  | onErr errCode =>
    simp only [step, onErrFuncSio, Outcome.bind_eq_done, Outcome.pure_eq, Outcome.done.injEq] at h
    obtain ⟨-, -, -, -, rfl⟩ := h
    exact ⟨(Bool.or_false _).symm, rfl, rfl, .inl ⟨rfl, rfl⟩⟩
  | onChannel result =>
    simp only [step, onChannelFuncSio, Outcome.bind_eq_done, Outcome.pure_eq,
      Outcome.done.injEq] at h
    obtain ⟨-, -, rfl⟩ := h
    exact ⟨(Bool.or_false _).symm, rfl, rfl, .inl ⟨rfl, rfl⟩⟩
  | pipeProduce =>
    simp only [step, pipeProduce] at h
    split at h <;> cases h <;> exact ⟨(Bool.or_false _).symm, rfl, rfl, .inl ⟨rfl, rfl⟩⟩
  -- The user's handler is moved out right before it is called, once.
  | onEvErr =>
    simp only [step, onEvErr] at h
    split at h
    · simp only [Outcome.bind_eq_done, Outcome.pure_eq, Outcome.done.injEq] at h
      obtain ⟨-, -, rfl⟩ := h
      exact ⟨(Bool.or_false _).symm, rfl, rfl, .inl ⟨rfl, rfl⟩⟩
    · cases h
      exact ⟨(Bool.or_false _).symm, rfl, rfl, .inl ⟨rfl, rfl⟩⟩
    · rename_i hcall
      split at h
      · cases h
      · cases h
        exact ⟨(Bool.or_false _).symm, rfl, rfl, .inr ⟨rfl, hcall⟩⟩
    · cases h
      exact ⟨(Bool.or_false _).symm, rfl, rfl, .inl ⟨rfl, rfl⟩⟩
  | onEvChannelOpen =>
    simp only [step, onEvChannelOpen] at h
    split at h
    · simp only [Outcome.bind_eq_done, Outcome.pure_eq, Outcome.done.injEq] at h
      obtain ⟨-, -, rfl⟩ := h
      exact ⟨(Bool.or_false _).symm, rfl, rfl, .inl ⟨rfl, rfl⟩⟩
    all_goals try split at h
    all_goals cases h
    all_goals exact ⟨(Bool.or_false _).symm, rfl, rfl, .inl ⟨rfl, rfl⟩⟩

/-- A step that calls `init_handlers()` is that call. -/
theorem step_init {a : Act R} {args : Handler × Option Handler} (ha : initArgs a = some args)
    (h : step s a = .done s') :
    ∃ b, s.initWith args.1 args.2 = .done (b, s') ∧ s.initAccepts a = b := by
  have hcall : ∃ b, s.initWith args.1 args.2 = .done (b, s') := by
    cases a with
    | initHandlers onErr onChannel =>
      cases ha
      simp only [step, Outcome.bind_eq_done, Outcome.pure_eq, Outcome.done.injEq] at h
      obtain ⟨⟨b, s₁⟩, h₁, rfl⟩ := h
      exact ⟨b, h₁⟩
    | initErrHandler onErr =>
      cases ha
      simp only [step, Outcome.bind_eq_done, Outcome.pure_eq, Outcome.done.injEq] at h
      obtain ⟨⟨b, s₁⟩, h₁, rfl⟩ := h
      exact ⟨b, h₁⟩
    | _ => cases ha
  obtain ⟨b, hb⟩ := hcall
  refine ⟨b, hb, ?_⟩
  simp only [initAccepts, ha, Option.any_some, hb, Outcome.any]

/-- What is noted of the calls stays true. -/
theorem Noted.step (hN : Noted n) {a : Act R}
    (h : Machine.observed takeNotes SessionAdapter.step n a = .done n') : Noted n' := by
  obtain ⟨hs, hnote⟩ := Machine.observed_done h
  cases ha : initArgs a with
  | none =>
    -- A step that is no `init_handlers()` leaves what the notes say of it.
    obtain ⟨hev, hcore, hchannel, herr⟩ := step_core ha hs
    have haccepts : n.1.initAccepts a = false := by simp [initAccepts, ha]
    refine ⟨?_, ?_, fun hset => ?_, fun hset => ?_⟩
    · rw [hnote, hev, takeNotes, hN.started]
    · rw [hnote, hcore, takeNotes, haccepts, hN.accepted]
      rfl
    · rw [hcore] at hset
      rcases herr with ⟨herr, -⟩ | ⟨herr, -⟩
      · exact herr.trans (hN.onErr hset)
      · exact herr
    · rw [hcore] at hset
      rw [hchannel]
      exact hN.onChannel hset
  | some args =>
    obtain ⟨b, hcall, haccepts⟩ := step_init ha hs
    have hstarts : n.1.startsOps a = false := by
      cases a with
      | startOps => cases ha
      | _ => rfl
    -- The call is refused and changes nothing, or it sets the functions that were unset.
    rcases initWith_done hcall with ⟨rfl, hsame⟩ | ⟨rfl, hunset, hset, hev, -⟩
    · refine ⟨?_, ?_, ?_, ?_⟩
      · rw [hnote, takeNotes, hstarts, Bool.or_false, hsame, hN.started]
      · rw [hnote, takeNotes, haccepts, hsame, hN.accepted]
        rfl
      · rw [hsame]
        exact hN.onErr
      · rw [hsame]
        exact hN.onChannel
    · refine ⟨?_, ?_, fun hno => ?_, fun hno => ?_⟩
      · rw [hnote, takeNotes, hstarts, Bool.or_false, hev, hN.started]
      · rw [hnote, takeNotes, haccepts, hset, hN.accepted, hunset]
        rfl
      · rw [hset] at hno
        cases hno
      · rw [hset] at hno
        cases hno

/-- What a kept run adds: the core gets its handlers after `start_ops()`, and the on-error handler
    is out of its slot for good once the error event is delivered. -/
structure Ordered (s : SessionAdapter R) : Prop where
  opened : s.core.handlersSet = true → s.evWaitFunc = true
  delivered : s.errors ≠ [] → s.core.handlersSet = true ∧ s.onErrFunc = none

/-- With `start_ops()` ahead of `init_handlers()`, the order is kept. -/
theorem Ordered.step {a : Act R} (hO : Ordered n.1) (hI : Inv n.1) (hN : Noted n)
    (hk : initKept n a = true)
    (h : Machine.observed takeNotes SessionAdapter.step n a = .done n') : Ordered n'.1 := by
  obtain ⟨hs, -⟩ := Machine.observed_done h
  cases ha : initArgs a with
  | none =>
    obtain ⟨hev, hcore, -, herr⟩ := step_core ha hs
    refine ⟨fun hset => ?_, fun hne => ?_⟩
    · rw [hcore] at hset
      rw [hev, hO.opened hset, Bool.true_or]
    · rw [hcore]
      rcases herr with ⟨herr, hsame⟩ | ⟨herr, hcall⟩
      · rw [hsame] at hne
        exact ⟨(hO.delivered hne).1, herr.trans (hO.delivered hne).2⟩
      · -- the error that is being delivered came from the core
        have hrep := hI.reported (.inr (.inr (by rw [hcall]; rfl)))
        exact ⟨hI.errFromCore hrep, herr⟩
  | some args =>
    obtain ⟨b, hcall, -⟩ := step_init ha hs
    simp only [initKept, ha, Option.isNone_some, Bool.false_or, mayInit, Bool.and_eq_true,
      List.isEmpty_iff] at hk
    rcases initWith_done hcall with ⟨-, hsame⟩ | ⟨-, -, -, hev, herrs⟩
    · rw [hsame]
      exact hO
    · refine ⟨fun _ => ?_, fun hne => absurd (herrs.trans hk.2) hne⟩
      rw [hev, ← hN.started]
      exact hk.1

/-! ### The next call -/

/-- The next call of a core without handlers is accepted. -/
theorem Noted.initWith (hN : Noted n) (hset : n.1.core.handlersSet = false) (onErr : Handler)
    (onChannel : Option Handler) :
    n.1.initWith onErr onChannel = .done (true, { n.1 with
      onErrFunc := some onErr
      onChannelFuncOrEmpty := onChannel
      core := ⟨true, onChannel.isSome⟩ }) := by
  have herr := hN.onErr hset
  have hchannel := hN.onChannel hset
  cases onChannel with
  | none =>
    simp [SessionAdapter.initWith, initErrHandler, herr, hchannel, Core.initHandlers, hset,
      Outcome.check]
  | some onChannel =>
    simp [SessionAdapter.initWith, initHandlers, herr, hchannel, Core.initHandlers, hset,
      Outcome.check]

/-- The next call fails, when the error event is delivered. -/
theorem initWith_failed (hset : s.core.handlersSet = true) (herr : s.onErrFunc = none)
    (onErr : Handler) (onChannel : Option Handler) :
    ∃ f, s.initWith onErr onChannel = .failed f := by
  cases onChannel with
  | none =>
    exact ⟨.initHandlersRefused, by
      simp [initWith, initErrHandler, herr, Core.initHandlers, hset, Outcome.check]⟩
  | some onChannel =>
    by_cases hchannel : s.onChannelFuncOrEmpty = none
    · exact ⟨.initHandlersRefused, by
        simp [initWith, initHandlers, herr, hchannel, Core.initHandlers, hset, Outcome.check]⟩
    · have hsome : s.onChannelFuncOrEmpty.isNone = false := by
        rw [Option.isNone_eq_false_iff, Option.isSome_iff_ne_none]
        exact hchannel
      exact ⟨.channelFuncSet, by simp [initWith, initHandlers, herr, hsome, Outcome.check]⟩

/-- A second `init_handlers()` returns `false` and does nothing. -/
theorem initWith_ignored (herr : s.onErrFunc.isSome = true) (onErr : Handler)
    (onChannel : Option Handler) : s.initWith onErr onChannel = .done (false, s) := by
  cases onChannel with
  | none =>
    show s.initErrHandler onErr = _
    unfold initErrHandler
    rw [if_pos herr]
    rfl
  | some onChannel =>
    show s.initHandlers onErr onChannel = _
    unfold initHandlers
    rw [if_pos herr]
    rfl

/-! ### What the gate is for -/

/-- `init_handlers()` is accepted at most once, and its next call does what is announced. -/
structure GatesInit (n : SessionAdapter R × Notes) : Prop where
  once : n.2.accepted ≤ 1
  calls : ∀ onErr onChannel, GatedInit n.1 n.2 onErr onChannel (n.1.initWith onErr onChannel)

/-- The handlers are set before `start_ops()`, and the call returns true. -/
theorem not_gatesInit_literally :
    ∃ n : SessionAdapter Nat × Notes,
      Machine.Reaches (Machine.observed takeNotes step) Machine.anyStep observedStart n ∧
        ¬ GatesInit n := by
  refine ⟨_, .refl, fun h => ?_⟩
  have hcall := h.calls 0 none
  rw [noted_start.initWith rfl] at hcall
  cases hcall with
  | accepted hstarted => cases hstarted

/-- **Where `init_handlers()` is called after `start_ops()` only, and before the error event is
    delivered, it is accepted at most once; and such calls, and no others, do what is
    announced.** -/
theorem gatesInit_of_kept
    (hr : Machine.Reaches (Machine.observed takeNotes step) (fun n a => initKept n a = true)
      (observedStart : SessionAdapter R × Notes) n) :
    n.2.accepted ≤ 1 ∧ (GatesInit n ↔ mayInit n.1 n.2 = true) := by
  obtain ⟨hI, hN, hO⟩ : Inv n.1 ∧ Noted n ∧ Ordered n.1 := by
    refine hr.invariant (P := fun n => Inv n.1 ∧ Noted n ∧ Ordered n.1)
      ⟨inv_construct .default, noted_start, (fun hset => by cases hset), fun hne => absurd rfl hne⟩
        ?_
    rintro n a n' ⟨hI, hN, hO⟩ hk hs
    exact ⟨hI.step (Machine.observed_done hs).1, hN.step hs, hO.step hI hN hk hs⟩
  -- What was accepted is counted by the core's own flag.
  have honce : n.2.accepted ≤ 1 := by
    rw [hN.accepted]
    exact Bool.toNat_le _
  refine ⟨honce, fun hG => ?_, fun hmay => ⟨honce, fun onErr onChannel => ?_⟩⟩
  · have hcall := hG.calls 0 none
    simp only [mayInit, Bool.and_eq_true, List.isEmpty_iff]
    -- The next call is ignored once the functions are set, and accepted otherwise.
    by_cases hset : n.1.core.handlersSet = true
    · refine ⟨hN.started.trans (hO.opened hset), ?_⟩
      by_contra hne
      obtain ⟨f, hf⟩ := initWith_failed hset (hO.delivered hne).2 0 none
      rw [hf] at hcall
      cases hcall
    · have hnil : n.1.errors = [] := by
        by_contra hne
        exact hset (hO.delivered hne).1
      rw [hN.initWith (by simpa using hset)] at hcall
      cases hcall with
      | accepted hstarted => exact ⟨hstarted, hnil⟩
  · simp only [mayInit, Bool.and_eq_true, List.isEmpty_iff] at hmay
    by_cases hset : n.1.core.handlersSet = true
    · rw [initWith_ignored (hI.errFunc hset hmay.2)]
      exact .ignored
    · rw [Bool.not_eq_true] at hset
      rw [hN.initWith hset]
      exact .accepted hmay.1 (by rw [hN.accepted, hset]; rfl) _ (by
        simp [Core.initHandlers, hset])

/-- Handlers set after `start_ops()`, a second call ignored, and a third while the error event is on
    its way to the handler. -/
theorem gatesInit_of_kept_pendingError :
    ∃ n : SessionAdapter Nat × Notes, n.2 = ⟨true, 1⟩ ∧ n.1.errCall = .consumed ∧ GatesInit n := by
  obtain ⟨n, hr, hs⟩ := Machine.Reaches.exists_of_run
    (Machine.guarded initKept (Machine.observed takeNotes (step (R := Nat)))) observedStart
    [.startOps, .initHandlers 0 1, .initErrHandler 2, .onErr .sessionFinished,
      .pipeProduce, .onEvErr,
      .onEvErr, .initErrHandler 3]
    (fun n => n.2 = ⟨true, 1⟩ && n.1.errCall = .consumed && mayInit n.1 n.2) (by decide)
  simp only [Bool.and_eq_true, decide_eq_true_eq] at hs
  obtain ⟨⟨hnotes, hcall⟩, hmay⟩ := hs
  exact ⟨n, hnotes, hcall, ((gatesInit_of_kept hr.of_guarded).2.mpr hmay)⟩

end IpcSession.SyncIo.SessionAdapter
