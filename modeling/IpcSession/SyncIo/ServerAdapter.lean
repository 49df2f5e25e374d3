import IpcSession.Base.Types
import Mathlib.Data.List.Nodup

namespace IpcSession.SyncIo

/-!
# The `sync_io` session-server adapter

`Session_server_adapter` turns the completion of a core's `async_accept()` into an event of the
user's event loop.  One error cell, one handler slot and one pipe serve all accepts, one after the
other: a user's handler may start the next accept before it returns, and is given the cell by
reference.

* `ServerAdapter` — the members, the pipe, the armed waits, the core's accepts, and where each
  thread stands.
* `ServerAdapter.step` — the public calls and the half-steps of `accept_write()` and
  `accept_read()`.
* `ServerAdapter.Inv` — whatever the order of the steps, accepts and their handlers go one by one.
* `ServerAdapter.kept` — no accept completes, with another result than the cell holds, while a
  handler of an earlier one runs.
* `ServerAdapter.handsOwnResults_of_kept` — **in such runs each handler sees its own result at all
  times; a step that is not kept shows a handler the result of another accept.**
-/

/-- The overloads of `async_accept()`; they differ in what they pass on to the core. -/
inductive AcceptOverload where
  | basic
  | initChannels
  deriving DecidableEq, Repr

/-- Where an accept of the core stands. -/
inductive Accept where
  | pending (overload : AcceptOverload)
  /-- `accept_write()` has set the cell, and not yet written the byte. -/
  | writing (errCode : ErrorCode)
  | completed (errCode : ErrorCode)
  /-- Completed with operation-aborted. -/
  | aborted
  deriving DecidableEq, Repr

/-- The accept has not completed with its byte written; its result, if any, is in the cell. -/
def Accept.underWay (cell : ErrorCode) : Accept → Prop
  | .pending _ => True
  | .writing errCode => errCode = cell
  | .completed _ => False
  | .aborted => True

/-- Where `accept_read()` stands; its last step, the user's handler, has its own place. -/
inductive AcceptRead where
  | idle
  | entered
  | consumed
  /-- The handler is out of its slot. -/
  | moved (onDone : Nat)
  deriving DecidableEq, Repr

/-- The ways in which the adapter ends the program. -/
inductive ServerFailure where
  /-- A handler or the event-wait function is invoked while empty. -/
  | emptyFunction
  deriving DecidableEq, Repr

/-- A session-server adapter; the user's handler for the `i`-th accept is called `i`. -/
structure ServerAdapter where
  /-- `m_ev_wait_func` is not empty. -/
  evWaitFunc : Bool
  onDoneFuncOrEmpty : Option Nat
  targetErrCode : ErrorCode
  /-- The accepts that the core was asked for, in order. -/
  accepts : List Accept
  /-- The bytes in the pipe, and the waits armed on it. -/
  ready : Nat
  waits : Nat
  acceptRead : AcceptRead
  /-- The user's handlers that have not returned, the last invoked first. -/
  running : List Nat
  /-- The user's handlers that were invoked, in order. -/
  invoked : List Nat
  deriving DecidableEq, Repr

namespace ServerAdapter

def construct : ServerAdapter where
  evWaitFunc := false
  onDoneFuncOrEmpty := none
  targetErrCode := none
  accepts := []
  ready := 0
  waits := 0
  acceptRead := .idle
  running := []
  invoked := []

/-! ### The public calls -/

/-- `start_ops()`. -/
def startOps (s : ServerAdapter) : Bool × ServerAdapter :=
  if s.evWaitFunc then (false, s) else (true, { s with evWaitFunc := true })

/-- What both overloads of `async_accept()` do: store the handler, start an accept of the core, and
    wait for the pipe.  Whether `start_ops()` was called is not looked at. -/
def asyncAcceptWith (overload : AcceptOverload) (s : ServerAdapter) :
    Outcome ServerFailure (Bool × ServerAdapter) :=
  if s.onDoneFuncOrEmpty.isSome then
    return (false, s)
  else do
    let s := { s with
      onDoneFuncOrEmpty := some s.accepts.length
      accepts := s.accepts ++ [Accept.pending overload] }
    Outcome.check .emptyFunction s.evWaitFunc
    return (true, { s with waits := s.waits + 1 })

/-- `async_accept(target_session, on_done_func)`. -/
def asyncAccept : ServerAdapter → Outcome ServerFailure (Bool × ServerAdapter) :=
  asyncAcceptWith .basic

/-- `async_accept()` with the out-arguments for init-channels and metadata. -/
def asyncAcceptInitChannels : ServerAdapter → Outcome ServerFailure (Bool × ServerAdapter) :=
  asyncAcceptWith .initChannels

/-! ### The core's threads -/

/-- `accept_write()` for the `i`-th accept, up to `pipe_produce()`. -/
def acceptWrite (s : ServerAdapter) (i : Nat) (errCode : ErrorCode) :
    Outcome ServerFailure ServerAdapter :=
  match s.accepts[i]? with
  | some (.pending _) =>
    if errCode = some .objectShutdownAbortedCompletionHandler then
      return { s with accepts := s.accepts.set i .aborted }
    else
      return { s with targetErrCode := errCode, accepts := s.accepts.set i (.writing errCode) }
  | _ => .disabled

/-- `pipe_produce()`, the last step of `accept_write()`. -/
def pipeProduce (s : ServerAdapter) (i : Nat) : Outcome ServerFailure ServerAdapter :=
  match s.accepts[i]? with
  | some (.writing errCode) =>
    return { s with ready := s.ready + 1, accepts := s.accepts.set i (.completed errCode) }
  | _ => .disabled

/-! ### The user's thread -/

/-- `accept_read()`; `.idle` is the wait's coming true. -/
def acceptReadStep (s : ServerAdapter) : Outcome ServerFailure ServerAdapter :=
  match s.acceptRead with
  | .idle => do
    Outcome.require (0 < s.waits && 0 < s.ready)
    return { s with waits := s.waits - 1, acceptRead := .entered }
  | .entered => return { s with ready := s.ready - 1, acceptRead := .consumed }
  -- The function is moved out before it runs, so that it may call `async_accept()` again.
  | .consumed =>
    match s.onDoneFuncOrEmpty with
    | none => .failed .emptyFunction
    | some onDone => return { s with onDoneFuncOrEmpty := none, acceptRead := .moved onDone }
  | .moved onDone => return { s with
      acceptRead := .idle
      running := onDone :: s.running
      invoked := s.invoked ++ [onDone] }

/-- The handler invoked last returns. -/
def handlerReturn (s : ServerAdapter) : Outcome ServerFailure ServerAdapter :=
  match s.running with
  | [] => .disabled
  | _ :: rest => return { s with running := rest }

/-! ### The machine -/

inductive Act where
  | startOps
  | asyncAccept
  | asyncAcceptInitChannels
  | acceptWrite (i : Nat) (errCode : ErrorCode)
  | pipeProduce (i : Nat)
  | acceptRead
  | handlerReturn
  deriving DecidableEq, Repr

/-- One half-step of a thread.  The user makes calls, and handlers return, while the user's thread
    is not in the midst of `accept_read()`; handlers may make calls too, and serve events. -/
def step (s : ServerAdapter) : Act → Outcome ServerFailure ServerAdapter
  | .startOps => do
    Outcome.require (s.acceptRead = .idle)
    return s.startOps.2
  | .asyncAccept => do
    Outcome.require (s.acceptRead = .idle)
    return (← s.asyncAccept).2
  | .asyncAcceptInitChannels => do
    Outcome.require (s.acceptRead = .idle)
    return (← s.asyncAcceptInitChannels).2
  | .acceptWrite i errCode => s.acceptWrite i errCode
  | .pipeProduce i => s.pipeProduce i
  | .acceptRead => s.acceptReadStep
  | .handlerReturn => do
    Outcome.require (s.acceptRead = .idle)
    s.handlerReturn

/-- No accept completes, with another result than the cell holds, while a handler runs. -/
def kept (s : ServerAdapter) : Act → Bool
  | .acceptWrite _ errCode =>
    s.running.isEmpty || errCode = some .objectShutdownAbortedCompletionHandler ||
      errCode = s.targetErrCode
  | _ => true

/-- The steps that serve what the core has completed. -/
def serves : Act → Bool
  | .pipeProduce _ => true
  | .acceptRead => true
  | _ => false

/-- No completed accept is under way to its handler. -/
def noEventPending (s : ServerAdapter) : Prop :=
  (∀ errCode, .writing errCode ∉ s.accepts) ∧ s.ready = 0 ∧ s.acceptRead = .idle

/-! ### Accepts go one by one -/

variable {s s' : ServerAdapter} {results : List ErrorCode}

/-- How far the one accept has come that may be neither started nor through, when the accepts before
    it came to `results`. -/
inductive Front (s : ServerAdapter) (results : List ErrorCode) : Prop where
  /-- Not started. -/
  | free (haccepts : s.accepts = results.map .completed) (hslot : s.onDoneFuncOrEmpty = none)
      (hready : s.ready = 0) (hwaits : s.waits = 0) (hread : s.acceptRead = .idle)
  /-- Started, no byte in the pipe. -/
  | started (a : Accept) (ha : a.underWay s.targetErrCode)
      (haccepts : s.accepts = results.map .completed ++ [a])
      (hslot : s.onDoneFuncOrEmpty = some results.length)
      (hready : s.ready = 0) (hwaits : s.waits = 1) (hread : s.acceptRead = .idle)
  /-- Completed, its byte in the pipe. -/
  | ready (haccepts : s.accepts = results.map .completed ++ [.completed s.targetErrCode])
      (hslot : s.onDoneFuncOrEmpty = some results.length) (hready : s.ready = 1)
      (hread : s.acceptRead = .idle ∧ s.waits = 1 ∨ s.acceptRead = .entered ∧ s.waits = 0)
  /-- Its byte is consumed. -/
  | consumed (haccepts : s.accepts = results.map .completed ++ [.completed s.targetErrCode])
      (hslot : s.onDoneFuncOrEmpty = some results.length)
      (hready : s.ready = 0) (hwaits : s.waits = 0) (hread : s.acceptRead = .consumed)
  /-- Its handler is about to be invoked. -/
  | moved (haccepts : s.accepts = results.map .completed ++ [.completed s.targetErrCode])
      (hslot : s.onDoneFuncOrEmpty = none)
      (hready : s.ready = 0) (hwaits : s.waits = 0) (hread : s.acceptRead = .moved results.length)

/-- What holds between any two half-steps: the handlers of the accepts that came to `results` were
    invoked, each once and in order. -/
structure Inv (s : ServerAdapter) (results : List ErrorCode) : Prop where
  front : Front s results
  invoked : s.invoked = List.range results.length
  running : ∀ i ∈ s.running, i < results.length

/-- Nothing has been asked for. -/
theorem inv_construct : Inv construct [] where
  front := .free rfl rfl rfl rfl rfl
  invoked := rfl
  running := nofun

/-- An accept is one of those that are through, or the last. -/
theorem getElem?_accepts {a b : Accept} {i : Nat}
    (h : (results.map Accept.completed ++ [a])[i]? = some b) :
    (i < results.length ∧ ∃ e, b = .completed e) ∨ (i = results.length ∧ b = a) := by
  rcases Nat.lt_trichotomy i results.length with hi | hi | hi
  · rw [List.getElem?_append_left (by simpa using hi), List.getElem?_map] at h
    obtain ⟨e, -, rfl⟩ := Option.map_eq_some_iff.mp h
    exact .inl ⟨hi, e, rfl⟩
  · subst hi
    simp at h
    exact .inr ⟨rfl, h.symm⟩
  · rw [List.getElem?_eq_none (by simp; omega)] at h
    cases h

/-- The accept that is under way is the last one. -/
theorem set_accepts {a b : Accept} :
    (results.map Accept.completed ++ [a]).set results.length b =
      results.map Accept.completed ++ [b] := by
  rw [List.set_append_right _ _ (by simp)]
  simp

/-- An accept of the core that has something left to do is the one that is started. -/
theorem Front.of_underWay {i : Nat} {a : Accept} (hF : Front s results)
    (ha : s.accepts[i]? = some a) (hne : ∀ e, a ≠ .completed e) :
    i = results.length ∧ s.accepts = results.map .completed ++ [a] ∧
      s.onDoneFuncOrEmpty = some results.length ∧ s.ready = 0 ∧ s.waits = 1 ∧
      s.acceptRead = .idle ∧ a.underWay s.targetErrCode := by
  have hlast {b : Accept} (haccepts : s.accepts = results.map .completed ++ [b]) :
      i = results.length ∧ a = b := by
    rw [haccepts] at ha
    rcases getElem?_accepts ha with ⟨-, e, rfl⟩ | hi
    · exact absurd rfl (hne e)
    · exact hi
  cases hF with
  | free haccepts =>
    rw [haccepts, List.getElem?_map] at ha
    obtain ⟨e, -, rfl⟩ := Option.map_eq_some_iff.mp ha
    exact absurd rfl (hne e)
  | started b hb haccepts hslot hready hwaits hread =>
    obtain ⟨rfl, rfl⟩ := hlast haccepts
    exact ⟨rfl, haccepts, hslot, hready, hwaits, hread, hb⟩
  | ready haccepts => exact absurd (hlast haccepts).2 (hne _)
  | consumed haccepts => exact absurd (hlast haccepts).2 (hne _)
  | moved haccepts => exact absurd (hlast haccepts).2 (hne _)

/-! ### One lemma for each operation -/

/-- The waits on the pipe start. -/
theorem Inv.startOps (hI : Inv s results) : Inv s.startOps.2 results := by
  unfold ServerAdapter.startOps
  split
  · exact hI
  · refine ⟨?_, hI.invoked, hI.running⟩
    cases hI.front with
    | free h₁ h₂ h₃ h₄ h₅ => exact .free h₁ h₂ h₃ h₄ h₅
    | started a ha h₁ h₂ h₃ h₄ h₅ => exact .started a ha h₁ h₂ h₃ h₄ h₅
    | ready h₁ h₂ h₃ h₄ => exact .ready h₁ h₂ h₃ h₄
    | consumed h₁ h₂ h₃ h₄ h₅ => exact .consumed h₁ h₂ h₃ h₄ h₅
    | moved h₁ h₂ h₃ h₄ h₅ => exact .moved h₁ h₂ h₃ h₄ h₅

/-- An accept is asked for, with none under way. -/
theorem Inv.asyncAcceptWith (hI : Inv s results) {overload : AcceptOverload} {b : Bool}
    (hidle : s.acceptRead = .idle) (h : s.asyncAcceptWith overload = .done (b, s')) :
    Inv s' results := by
  unfold ServerAdapter.asyncAcceptWith at h
  split at h
  · cases h
    exact hI
  · rename_i hnone
    simp only [Outcome.bind_eq_done, Outcome.check_eq_done, Outcome.pure_eq, Outcome.done.injEq,
      Prod.mk.injEq] at h
    obtain ⟨-, -, -, rfl⟩ := h
    refine ⟨?_, hI.invoked, hI.running⟩
    -- the slot is empty and `accept_read()` not under way: no accept is
    cases hI.front with
    | free haccepts hslot hready hwaits hread =>
      refine .started (.pending overload) trivial ?_ ?_ hready ?_ hread
      · show s.accepts ++ [_] = _
        rw [haccepts]
      · show some s.accepts.length = _
        rw [haccepts, List.length_map]
      · show s.waits + 1 = 1
        rw [hwaits]
    | started a ha haccepts hslot => exact absurd (by rw [hslot]; rfl) hnone
    | ready haccepts hslot => exact absurd (by rw [hslot]; rfl) hnone
    | consumed haccepts hslot => exact absurd (by rw [hslot]; rfl) hnone
    | moved haccepts hslot hready hwaits hread =>
      rw [hidle] at hread
      cases hread

/-- The core's result is stored, and the pipe gets its byte. -/
theorem Inv.acceptWrite (hI : Inv s results) {i : Nat} {errCode : ErrorCode}
    (h : s.acceptWrite i errCode = .done s') : Inv s' results := by
  unfold ServerAdapter.acceptWrite at h
  split at h
  · rename_i overload hi
    obtain ⟨rfl, haccepts, hslot, hready, hwaits, hread, -⟩ := hI.front.of_underWay hi nofun
    split at h
    · cases h
      refine ⟨.started .aborted trivial ?_ hslot hready hwaits hread, hI.invoked, hI.running⟩
      show s.accepts.set _ _ = _
      rw [haccepts, set_accepts]
    · cases h
      refine ⟨.started (.writing errCode) rfl ?_ hslot hready hwaits hread, hI.invoked, hI.running⟩
      show s.accepts.set _ _ = _
      rw [haccepts, set_accepts]
  · cases h

/-- The byte gets through to the reading end. -/
theorem Inv.pipeProduce (hI : Inv s results) {i : Nat} (h : s.pipeProduce i = .done s') :
    Inv s' results := by
  unfold ServerAdapter.pipeProduce at h
  split at h
  · rename_i errCode hi
    obtain ⟨rfl, haccepts, hslot, hready, hwaits, hread, hcell⟩ := hI.front.of_underWay hi nofun
    cases h
    refine ⟨.ready ?_ hslot ?_ (.inl ⟨hread, hwaits⟩), hI.invoked, hI.running⟩
    · show s.accepts.set _ _ = _
      rw [haccepts, set_accepts]
      rw [show errCode = s.targetErrCode from hcell]
    · show s.ready + 1 = 1
      rw [hready]
  · cases h

/-- The byte is read, and the result goes to the user's handler. -/
theorem Inv.acceptReadStep (hI : Inv s results) (h : s.acceptReadStep = .done s') :
    ∃ results', Inv s' results' := by
  unfold ServerAdapter.acceptReadStep at h
  split at h
  · rename_i hidle
    simp only [Outcome.bind_eq_done, Outcome.require_eq_done, Bool.and_eq_true, decide_eq_true_eq,
      Outcome.pure_eq, Outcome.done.injEq] at h
    obtain ⟨-, ⟨hwait, hbyte⟩, rfl⟩ := h
    refine ⟨results, ?_, hI.invoked, hI.running⟩
    cases hI.front with
    | free _ _ hready => exact absurd hready (Nat.ne_of_gt hbyte)
    | started _ _ _ _ hready => exact absurd hready (Nat.ne_of_gt hbyte)
    | ready haccepts hslot hready hread =>
      rcases hread with ⟨-, hwaits⟩ | ⟨-, hwaits⟩
      · exact .ready haccepts hslot hready (.inr ⟨rfl, by simp [hwaits]⟩)
      · exact absurd hwaits (Nat.ne_of_gt hwait)
    | consumed _ _ hready => exact absurd hready (Nat.ne_of_gt hbyte)
    | moved _ _ hready => exact absurd hready (Nat.ne_of_gt hbyte)
  · rename_i hentered
    cases h
    refine ⟨results, ?_, hI.invoked, hI.running⟩
    cases hI.front with
    | free _ _ _ _ hread => rw [hread] at hentered; cases hentered
    | started _ _ _ _ _ _ hread => rw [hread] at hentered; cases hentered
    | ready haccepts hslot hready hread =>
      rcases hread with ⟨hread, -⟩ | ⟨-, hwaits⟩
      · rw [hread] at hentered
        cases hentered
      · exact .consumed haccepts hslot (by simp [hready]) hwaits rfl
    | consumed _ _ _ _ hread => rw [hread] at hentered; cases hentered
    | moved _ _ _ _ hread => rw [hread] at hentered; cases hentered
  · rename_i hconsumed
    split at h
    · cases h
    · rename_i onDone honDone
      cases h
      refine ⟨results, ?_, hI.invoked, hI.running⟩
      cases hI.front with
      | free _ hslot => rw [hslot] at honDone; cases honDone
      | started _ _ _ _ _ _ hread => rw [hread] at hconsumed; cases hconsumed
      | ready _ _ _ hread =>
        rcases hread with ⟨hread, -⟩ | ⟨hread, -⟩ <;> rw [hread] at hconsumed <;> cases hconsumed
      | consumed haccepts hslot hready hwaits hread =>
        rw [hslot] at honDone
        cases honDone
        exact .moved haccepts rfl hready hwaits rfl
      | moved _ hslot => rw [hslot] at honDone; cases honDone
  · rename_i onDone hmoved
    cases h
    cases hI.front with
    | free _ _ _ _ hread => rw [hread] at hmoved; cases hmoved
    | started _ _ _ _ _ _ hread => rw [hread] at hmoved; cases hmoved
    | ready _ _ _ hread =>
      rcases hread with ⟨hread, -⟩ | ⟨hread, -⟩ <;> rw [hread] at hmoved <;> cases hmoved
    | consumed _ _ _ _ hread => rw [hread] at hmoved; cases hmoved
    | moved haccepts hslot hready hwaits hread =>
      rw [hread] at hmoved
      cases hmoved
      -- the accept joins those that are through
      refine ⟨results ++ [s.targetErrCode], .free ?_ hslot hready hwaits rfl, ?_, fun i hi => ?_⟩
      · show s.accepts = _
        rw [haccepts, List.map_append]
        rfl
      · show s.invoked ++ [results.length] = _
        rw [hI.invoked, List.length_append, List.length_singleton, List.range_succ]
      · rw [List.length_append, List.length_singleton]
        rcases List.mem_cons.mp hi with rfl | hi
        · exact Nat.lt_succ_self _
        · exact Nat.lt_succ_of_lt (hI.running i hi)

/-- **Step lemma.** -/
theorem Inv.step (hI : Inv s results) {a : Act} (h : ServerAdapter.step s a = .done s') :
    ∃ results', Inv s' results' := by
  cases a with
  | startOps =>
    simp only [ServerAdapter.step, Outcome.bind_eq_done, Outcome.pure_eq, Outcome.done.injEq] at h
    obtain ⟨-, -, rfl⟩ := h
    exact ⟨results, hI.startOps⟩
  | asyncAccept =>
    simp only [ServerAdapter.step, Outcome.bind_eq_done, Outcome.require_eq_done, decide_eq_true_eq,
      Outcome.pure_eq, Outcome.done.injEq] at h
    obtain ⟨-, hidle, ⟨b, s₁⟩, h₁, rfl⟩ := h
    exact ⟨results, hI.asyncAcceptWith hidle h₁⟩
  | asyncAcceptInitChannels =>
    simp only [ServerAdapter.step, Outcome.bind_eq_done, Outcome.require_eq_done, decide_eq_true_eq,
      Outcome.pure_eq, Outcome.done.injEq] at h
    obtain ⟨-, hidle, ⟨b, s₁⟩, h₁, rfl⟩ := h
    exact ⟨results, hI.asyncAcceptWith hidle h₁⟩
  | acceptWrite i errCode => exact ⟨results, hI.acceptWrite h⟩
  | pipeProduce i => exact ⟨results, hI.pipeProduce h⟩
  | acceptRead => exact hI.acceptReadStep h
  | handlerReturn =>
    simp only [ServerAdapter.step, ServerAdapter.handlerReturn, Outcome.bind_eq_done] at h
    obtain ⟨-, -, h⟩ := h
    split at h
    · cases h
    · rename_i i rest hrun
      cases h
      refine ⟨results, ?_, hI.invoked, fun j hj => hI.running j (by rw [hrun]; exact .tail _ hj)⟩
      cases hI.front with
      | free h₁ h₂ h₃ h₄ h₅ => exact .free h₁ h₂ h₃ h₄ h₅
      | started a ha h₁ h₂ h₃ h₄ h₅ => exact .started a ha h₁ h₂ h₃ h₄ h₅
      | ready h₁ h₂ h₃ h₄ => exact .ready h₁ h₂ h₃ h₄
      | consumed h₁ h₂ h₃ h₄ h₅ => exact .consumed h₁ h₂ h₃ h₄ h₅
      | moved h₁ h₂ h₃ h₄ h₅ => exact .moved h₁ h₂ h₃ h₄ h₅

/-- **Run lemma.** -/
theorem exists_inv {G : ServerAdapter → Act → Prop} (hr : Machine.Reaches step G construct s) :
    ∃ results, Inv s results :=
  hr.invariant (P := fun s => ∃ results, Inv s results) ⟨[], inv_construct⟩
    fun _ _ _ hI _ hs => hI.choose_spec.step hs

/-! ### Each handler sees its own result -/

/-- The cell holds the result of every handler that has not returned. -/
def Own (s : ServerAdapter) : Prop :=
  ∀ i ∈ s.running, s.accepts[i]? = some (.completed s.targetErrCode)

/-- Where an accept moves on, those that are through are left alone. -/
theorem getElem?_set_of_completed {accepts : List Accept} {i j : Nat} {a b : Accept} {e : ErrorCode}
    (hi : accepts[i]? = some a) (hne : ∀ e, a ≠ .completed e)
    (hj : accepts[j]? = some (.completed e)) : (accepts.set i b)[j]? = some (.completed e) := by
  have hij : i ≠ j := by
    rintro rfl
    rw [hi] at hj
    exact hne e (Option.some.inj hj)
  rw [List.getElem?_set_ne hij, hj]

/-- The core is called with the out-arguments that the user gave. -/
theorem own_asyncAcceptWith {overload : AcceptOverload} {b : Bool} (hO : Own s)
    (h : s.asyncAcceptWith overload = .done (b, s')) : Own s' := by
  unfold asyncAcceptWith at h
  split at h
  · cases h
    exact hO
  · simp only [Outcome.bind_eq_done, Outcome.check_eq_done, Outcome.pure_eq, Outcome.done.injEq,
      Prod.mk.injEq] at h
    obtain ⟨-, -, -, rfl⟩ := h
    intro i hi
    have hold := hO i hi
    obtain ⟨hlt, -⟩ := List.getElem?_eq_some_iff.mp hold
    show (s.accepts ++ _)[i]? = _
    rw [List.getElem?_append_left hlt]
    exact hold

/-- And its result is stored for that call, unless a shared error code is written later. -/
theorem own_acceptWrite {i : Nat} {errCode : ErrorCode} (hO : Own s)
    (hk : s.kept (.acceptWrite i errCode) = true) (h : s.acceptWrite i errCode = .done s') :
    Own s' := by
  unfold acceptWrite at h
  split at h
  · rename_i overload hi
    split at h
    · cases h
      exact fun j hj => getElem?_set_of_completed hi nofun (hO j hj)
    · rename_i hne
      cases h
      intro j hj
      -- a handler runs, so the cell is overwritten with what it holds
      have hcell : errCode = s.targetErrCode := by
        simp only [kept, Bool.or_eq_true, List.isEmpty_iff, decide_eq_true_eq] at hk
        rcases hk with (hk | hk) | hk
        · simp [hk] at hj
        · exact absurd hk hne
        · exact hk
      show (s.accepts.set i _)[j]? = some (.completed errCode)
      rw [hcell]
      exact getElem?_set_of_completed hi nofun (hO j hj)
  · cases h

/-- So the user's handler gets the result of its own call. -/
theorem Inv.own_acceptReadStep (hI : Inv s results) (hO : Own s) (h : s.acceptReadStep = .done s') :
    Own s' := by
  unfold ServerAdapter.acceptReadStep at h
  split at h
  · simp only [Outcome.bind_eq_done, Outcome.pure_eq, Outcome.done.injEq] at h
    obtain ⟨-, -, rfl⟩ := h
    exact hO
  · cases h
    exact hO
  · split at h
    · cases h
    · cases h
      exact hO
  · rename_i onDone hmoved
    cases h
    intro i hi
    rcases List.mem_cons.mp hi with rfl | hi
    · cases hI.front with
      | free _ _ _ _ hread => rw [hread] at hmoved; cases hmoved
      | started _ _ _ _ _ _ hread => rw [hread] at hmoved; cases hmoved
      | ready _ _ _ hread =>
        rcases hread with ⟨hread, -⟩ | ⟨hread, -⟩ <;> rw [hread] at hmoved <;> cases hmoved
      | consumed _ _ _ _ hread => rw [hread] at hmoved; cases hmoved
      | moved haccepts _ _ _ hread =>
        rw [hread] at hmoved
        cases hmoved
        show s.accepts[results.length]? = some (.completed s.targetErrCode)
        rw [haccepts]
        simp
    · exact hO i hi

/-- **Step lemma.** A step that is kept leaves each handler its own result. -/
theorem Inv.own_step (hI : Inv s results) (hO : Own s) {a : Act} (hk : s.kept a = true)
    (h : ServerAdapter.step s a = .done s') : Own s' := by
  cases a with
  | startOps =>
    simp only [ServerAdapter.step, Outcome.bind_eq_done, Outcome.pure_eq, Outcome.done.injEq,
      ServerAdapter.startOps] at h
    obtain ⟨-, -, rfl⟩ := h
    split <;> exact hO
  | asyncAccept =>
    simp only [ServerAdapter.step, Outcome.bind_eq_done, Outcome.pure_eq, Outcome.done.injEq] at h
    obtain ⟨-, -, ⟨b, s₁⟩, h₁, rfl⟩ := h
    exact own_asyncAcceptWith hO h₁
  | asyncAcceptInitChannels =>
    simp only [ServerAdapter.step, Outcome.bind_eq_done, Outcome.pure_eq, Outcome.done.injEq] at h
    obtain ⟨-, -, ⟨b, s₁⟩, h₁, rfl⟩ := h
    exact own_asyncAcceptWith hO h₁
  | acceptWrite i errCode => exact own_acceptWrite hO hk h
  | pipeProduce i =>
    simp only [ServerAdapter.step, ServerAdapter.pipeProduce] at h
    split at h
    · rename_i errCode hi
      cases h
      exact fun j hj => getElem?_set_of_completed hi (by rintro _ ⟨⟩) (hO j hj)
    · cases h
  | acceptRead => exact hI.own_acceptReadStep hO h
  | handlerReturn =>
    simp only [ServerAdapter.step, ServerAdapter.handlerReturn, Outcome.bind_eq_done] at h
    obtain ⟨-, -, h⟩ := h
    split at h
    · cases h
    · rename_i i rest hrun
      cases h
      exact fun j hj => hO j (by rw [hrun]; exact .tail _ hj)

/-- A step that is not kept shows a running handler the result of another accept. -/
theorem not_own_of_not_kept (hO : Own s) {a : Act} (hk : s.kept a = false)
    (h : step s a = .done s') : ¬ Own s' := by
  cases a with
  | acceptWrite i errCode =>
    simp only [kept, Bool.or_eq_false_iff, List.isEmpty_eq_false_iff, decide_eq_false_iff_not] at hk
    obtain ⟨⟨hrun, hne⟩, hcell⟩ := hk
    obtain ⟨j, hj⟩ := List.exists_mem_of_ne_nil _ hrun
    simp only [step, acceptWrite] at h
    split at h
    · rename_i overload hi
      rw [if_neg hne] at h
      cases h
      intro hO'
      have hnew : (s.accepts.set i _)[j]? = some (.completed errCode) := hO' j hj
      rw [getElem?_set_of_completed hi nofun (hO j hj)] at hnew
      exact hcell (by injection (Option.some.inj hnew).symm)
    · cases h
  | _ => cases hk

/-! ### What is completed gets served -/

/-- How far `accept_read()` is from waiting again. -/
def leftOfRead : AcceptRead → Nat
  | .idle => 3
  | .entered => 2
  | .consumed => 5
  | .moved _ => 4

/-- The byte of a completed accept is yet to be written. -/
def isWriting : Accept → Bool
  | .writing _ => true
  | _ => false

/-- How many half-steps are left of what is completed. -/
def left (s : ServerAdapter) : Nat :=
  4 * s.ready + leftOfRead s.acceptRead + 5 * s.accepts.countP isWriting

/-- What is left to do for the results that are in gets less with each step. -/
theorem Inv.left_lt (hI : Inv s results) {a : Act} (ha : serves a = true)
    (h : ServerAdapter.step s a = .done s') : s'.left < s.left := by
  cases a with
  -- A result written to the pipe is one fewer to write and one more to read.
  | pipeProduce i =>
    simp only [ServerAdapter.step, ServerAdapter.pipeProduce] at h
    split at h
    · rename_i errCode hi
      obtain ⟨rfl, haccepts, -, -, -, -, -⟩ := hI.front.of_underWay hi nofun
      cases h
      simp only [left]
      rw [haccepts, set_accepts]
      simp only [List.countP_append, List.countP_singleton, isWriting]
      simp
      omega
    · cases h
  -- Each stage of the read handler is followed by one that weighs less.
  | acceptRead =>
    simp only [ServerAdapter.step, ServerAdapter.acceptReadStep] at h
    split at h
    · rename_i hidle
      simp only [Outcome.bind_eq_done, Outcome.pure_eq, Outcome.done.injEq] at h
      obtain ⟨-, -, rfl⟩ := h
      simp only [left, hidle, leftOfRead]
      omega
    · rename_i hentered
      -- It was entered because the pipe is readable, so one result is there.
      have hready : s.ready = 1 := by
        cases hI.front with
        | free _ _ _ _ hread => rw [hread] at hentered; cases hentered
        | started _ _ _ _ _ _ hread => rw [hread] at hentered; cases hentered
        | ready _ _ hready => exact hready
        | consumed _ _ _ _ hread => rw [hread] at hentered; cases hentered
        | moved _ _ _ _ hread => rw [hread] at hentered; cases hentered
      cases h
      simp only [left, hentered, leftOfRead]
      omega
    · rename_i hconsumed
      split at h
      · cases h
      · cases h
        simp only [left, hconsumed, leftOfRead]
        omega
    · rename_i onDone hmoved
      cases h
      simp only [left, hmoved, leftOfRead]
      omega
  | _ => cases ha

/-- While a completed accept is under way to its handler, the core's thread or the user's thread has
    a next half-step. -/
theorem Inv.exists_serves (hI : Inv s results) (hp : ¬ s.noEventPending) :
    ∃ a s', serves a = true ∧ ServerAdapter.step s a = .done s' := by
  cases hI.front with
  | free haccepts hslot hready hwaits hread =>
    -- Nothing is under way, which is what `noEventPending` says.
    refine absurd ⟨fun e he => ?_, hready, hread⟩ hp
    rw [haccepts] at he
    obtain ⟨_, -, hc⟩ := List.mem_map.mp he
    cases hc
  | started a ha haccepts hslot hready hwaits hread =>
    cases a with
    | writing errCode =>
      refine ⟨.pipeProduce results.length, { s with
        ready := s.ready + 1
        accepts := s.accepts.set results.length (.completed errCode) }, rfl, ?_⟩
      simp [ServerAdapter.step, ServerAdapter.pipeProduce, haccepts]
    | completed errCode => cases ha
    | _ =>
      refine absurd ⟨fun e he => ?_, hready, hread⟩ hp
      rw [haccepts] at he
      simp at he
  | ready haccepts hslot hready hread =>
    -- The pipe is readable; the armed wait fires, or the handler has been entered already.
    rcases hread with ⟨hread, hwaits⟩ | ⟨hread, hwaits⟩
    · exact ⟨.acceptRead, { s with waits := s.waits - 1, acceptRead := .entered }, rfl, by
        simp [ServerAdapter.step, ServerAdapter.acceptReadStep, hread, hwaits, hready,
          Outcome.require]⟩
    · exact ⟨.acceptRead, { s with ready := s.ready - 1, acceptRead := .consumed }, rfl, by
        simp [ServerAdapter.step, ServerAdapter.acceptReadStep, hread]⟩
  | consumed haccepts hslot hready hwaits hread =>
    exact ⟨.acceptRead, { s with
      onDoneFuncOrEmpty := none
      acceptRead := .moved results.length }, rfl, by
        simp [ServerAdapter.step, ServerAdapter.acceptReadStep, hread, hslot]⟩
  | moved haccepts hslot hready hwaits hread =>
    exact ⟨.acceptRead, { s with
      acceptRead := .idle
      running := results.length :: s.running
      invoked := s.invoked ++ [results.length] }, rfl, by
        simp [ServerAdapter.step, ServerAdapter.acceptReadStep, hread]⟩

/-- The core has completed the `i`-th accept, and not with operation-aborted. -/
def Reported (s : ServerAdapter) (i : Nat) : Prop :=
  ∃ errCode, s.accepts[i]? = some (.writing errCode) ∨ s.accepts[i]? = some (.completed errCode)

/-- A result that has been reported stays so. -/
theorem reported_of_serves {i : Nat} (hi : s.Reported i) {a : Act} (ha : serves a = true)
    (h : step s a = .done s') : s'.Reported i := by
  obtain ⟨errCode, hi⟩ := hi
  cases a with
  | pipeProduce j =>
    simp only [step, pipeProduce] at h
    split at h
    · rename_i e hj
      cases h
      by_cases hij : j = i
      · subst hij
        obtain ⟨hlt, -⟩ := List.getElem?_eq_some_iff.mp hj
        exact ⟨e, .inr (List.getElem?_set_self hlt)⟩
      · refine ⟨errCode, ?_⟩
        show (s.accepts.set j _)[i]? = _ ∨ (s.accepts.set j _)[i]? = _
        rwa [List.getElem?_set_ne hij]
    · cases h
  | acceptRead =>
    refine ⟨errCode, ?_⟩
    simp only [step, acceptReadStep] at h
    split at h
    · simp only [Outcome.bind_eq_done, Outcome.pure_eq, Outcome.done.injEq] at h
      obtain ⟨-, -, rfl⟩ := h
      exact hi
    · cases h
      exact hi
    · split at h
      · cases h
      · cases h
        exact hi
    · cases h
      exact hi
  | _ => cases ha

/-- With nothing pending the handler of each accept that has completed was invoked. -/
theorem Inv.count_invoked (hI : Inv s results) (hp : s.noEventPending) {i : Nat}
    (hi : s.Reported i) : s.invoked.count i = 1 := by
  obtain ⟨hwriting, hready, hread⟩ := hp
  suffices hlt : i < results.length by
    rw [hI.invoked]
    exact List.count_eq_one_of_mem List.nodup_range (List.mem_range.mpr hlt)
  obtain ⟨errCode, hi | hi⟩ := hi
  · exact absurd (List.mem_of_getElem? hi) (hwriting errCode)
  · cases hI.front with
    | free haccepts =>
      obtain ⟨hlt, -⟩ := List.getElem?_eq_some_iff.mp hi
      rw [haccepts, List.length_map] at hlt
      exact hlt
    | started a ha haccepts =>
      rw [haccepts] at hi
      rcases getElem?_accepts hi with ⟨hlt, -⟩ | ⟨-, rfl⟩
      · exact hlt
      · cases ha
    | ready _ _ hready' => rw [hready] at hready'; cases hready'
    | consumed _ _ _ _ hread' => rw [hread] at hread'; cases hread'
    | moved _ _ _ _ hread' => rw [hread] at hread'; cases hread'

/-- **The handler of an accept that completes is invoked**, if the user goes on serving events. -/
theorem Inv.served (hI : Inv s results) {i : Nat} (hi : s.Reported i) :
    ∃ s', Machine.Reaches ServerAdapter.step (fun _ a => serves a = true) s s' ∧
      s'.noEventPending ∧ s'.invoked.count i = 1 := by
  have hsteps : ∃ s', Machine.Reaches ServerAdapter.step (fun _ a => serves a = true) s s' ∧
      ((∃ results, Inv s' results) ∧ s'.Reported i) ∧ s'.noEventPending := by
    refine Machine.Reaches.exists_of_measure left ⟨⟨results, hI⟩, hi⟩ ?_
    rintro s₁ ⟨⟨results₁, hI₁⟩, hi₁⟩ hp
    obtain ⟨a, s₂, ha, h₂⟩ := hI₁.exists_serves hp
    exact ⟨a, s₂, ha, h₂, ⟨hI₁.step h₂, reported_of_serves hi₁ ha h₂⟩, hI₁.left_lt ha h₂⟩
  obtain ⟨s', hr, ⟨⟨results', hI'⟩, hi'⟩, hp'⟩ := hsteps
  exact ⟨s', hr, hp', hI'.count_invoked hp' hi'⟩

/-! ### What the adapter is for -/

/-- Each accept gets its own result, through its own handler, once. -/
structure HandsOwnResults (s : ServerAdapter) : Prop where
  /-- What a handler sees is the result of its accept, for as long as it runs. -/
  own : Own s
  once : ∀ i, s.invoked.count i ≤ 1
  ofStarted : ∀ i ∈ s.invoked, s.Reported i
  complete : s.noEventPending → ∀ i, s.Reported i → s.invoked.count i = 1
  /-- The user's going on serving events ends, with the handler invoked. -/
  served : (¬ s.noEventPending → ∃ a s', serves a = true ∧ step s a = .done s') ∧
    (∀ a s', serves a = true → step s a = .done s' → s'.left < s.left) ∧
    ∀ i, s.Reported i → ∃ s', Machine.Reaches step (fun _ a => serves a = true) s s' ∧
      s'.noEventPending ∧ s'.invoked.count i = 1
  bytes : s.ready ≤ 1

/-- Each result that is in gets reported. -/
theorem Inv.reported (hI : Inv s results) {i : Nat} (hi : i < results.length) : s.Reported i := by
  have hmap : (results.map Accept.completed)[i]? = some (.completed results[i]) := by simp [hi]
  refine ⟨results[i], .inr ?_⟩
  have hlen : i < (results.map Accept.completed).length := by simpa using hi
  cases hI.front with
  | free haccepts => rw [haccepts, hmap]
  | started a ha haccepts => rw [haccepts, List.getElem?_append_left hlen, hmap]
  | ready haccepts => rw [haccepts, List.getElem?_append_left hlen, hmap]
  | consumed haccepts => rw [haccepts, List.getElem?_append_left hlen, hmap]
  | moved haccepts => rw [haccepts, List.getElem?_append_left hlen, hmap]

/-- At most one byte is in the pipe. -/
theorem Inv.ready_le (hI : Inv s results) : s.ready ≤ 1 := by
  cases hI.front with
  | free _ _ hready => rw [hready]; exact Nat.zero_le 1
  | started _ _ _ _ hready => rw [hready]; exact Nat.zero_le 1
  | ready _ _ hready => exact Nat.le_of_eq hready
  | consumed _ _ hready => rw [hready]; exact Nat.zero_le 1
  | moved _ _ hready => rw [hready]; exact Nat.zero_le 1

/-- The invariant says all that is claimed of the adapter. -/
theorem Inv.handsOwnResults (hI : Inv s results) (hO : Own s) : HandsOwnResults s where
  own := hO
  once i := by
    rw [hI.invoked]
    exact List.nodup_iff_count_le_one.mp List.nodup_range i
  ofStarted i hi := by
    rw [hI.invoked, List.mem_range] at hi
    exact hI.reported hi
  complete hp _ hi := hI.count_invoked hp hi
  served := ⟨hI.exists_serves, fun _ _ => hI.left_lt, fun _ => hI.served⟩
  bytes := hI.ready_le

/-- An accept that fails, and one that its handler starts and that succeeds: the first handler is
    still running, and now sees success. -/
theorem not_handsOwnResults_literally :
    ∃ s, Machine.Reaches step Machine.anyStep construct s ∧ ¬ HandsOwnResults s := by
  obtain ⟨s, hr, hs⟩ := Machine.Reaches.exists_of_run step construct
    [.startOps, .asyncAccept,
      .acceptWrite 0 (some .serverMasterLogInRequestConfigMismatch), .pipeProduce 0,
      .acceptRead, .acceptRead, .acceptRead, .acceptRead,
      .asyncAccept, .acceptWrite 1 none]
    (fun s => s.running = [0] && s.targetErrCode = none &&
      s.accepts[0]? = some (.completed (some .serverMasterLogInRequestConfigMismatch)))
    (by decide)
  simp only [Bool.and_eq_true, decide_eq_true_eq] at hs
  obtain ⟨⟨hrun, hcell⟩, hres⟩ := hs
  refine ⟨s, hr, fun h => ?_⟩
  have := h.own 0 (by rw [hrun]; exact .head _)
  rw [hres, hcell] at this
  cases this

/-- **Each handler sees its own result, exactly when no accept completes with another one while it
    runs.** -/
theorem handsOwnResults_of_kept
    (hr : Machine.Reaches step (fun s a => s.kept a = true) construct s) :
    HandsOwnResults s ∧
      ∀ a s', s.kept a = false → step s a = .done s' → ¬ HandsOwnResults s' := by
  have hO : Own s := hr.invariant_of (fun _ hr => exists_inv hr) (by simp [Own, construct])
    fun _ _ _ hI hO hk hs => hI.choose_spec.own_step hO hk hs
  obtain ⟨results, hI⟩ := exists_inv hr
  exact ⟨hI.handsOwnResults hO, fun a s' hk hs h => not_own_of_not_kept hO hk hs h.own⟩

/-- Two accepts, the second started by the handler of the first and completed after its return. -/
theorem handsOwnResults_of_kept_twice :
    ∃ s, s.invoked = [0, 1] ∧ s.accepts = [.completed (some .invalidArgument), .completed none] ∧
      HandsOwnResults s := by
  obtain ⟨s, hr, hs⟩ := Machine.Reaches.exists_of_run (Machine.guarded kept step) construct
    [.startOps, .asyncAccept, .acceptWrite 0 (some .invalidArgument), .pipeProduce 0,
      .acceptRead, .acceptRead, .acceptRead, .acceptRead, .asyncAcceptInitChannels, .handlerReturn,
      .acceptWrite 1 none, .pipeProduce 1, .acceptRead, .acceptRead, .acceptRead, .acceptRead]
    (fun s => s.invoked = [0, 1] &&
      s.accepts = [.completed (some .invalidArgument), .completed none]) (by decide)
  simp only [Bool.and_eq_true, decide_eq_true_eq] at hs
  exact ⟨s, hs.1, hs.2, (handsOwnResults_of_kept hr.of_guarded).1⟩

end ServerAdapter

end IpcSession.SyncIo
