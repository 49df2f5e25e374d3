import IpcSession.Base.Types

namespace IpcSession.SyncIo

/-!
# The `sync_io` session adapter

`Session_adapter` turns the handlers that a session calls from its thread W into events of the
user's event loop.  A passively opened channel goes through a queue and a pipe: thread W pushes the
result and then writes a byte; the user's thread, told by its wait on the pipe, pops a result,
invokes the handler, consumes a byte and waits again.

* `SessionAdapter` — the members, the two pipes, the waits, and where each thread stands.
* `SessionAdapter.step` — the public calls, the half-steps of the two handlers given to the core,
  and the half-steps of the two callbacks.  The two callbacks have a place each: a handler may serve
  the other event before it returns.
* `SessionAdapter.Inv` — the accounts of bytes, results, waits and calls.
* `SessionAdapter.deliversInOrder` — **each channel is handed over once, in order, and none is
  late.**
-/

/-- The ways in which an adapter ends the program. -/
inductive Failure where
  /-- "Result-queue elements and pipe signal bytes must be 1-1". -/
  | emptyResultQueue
  /-- A handler or an event-wait function is invoked while empty. -/
  | emptyFunction
  /-- "Error handler must never fire more than once per Session!" -/
  | secondError
  /-- `init_handlers()` finds a channel handler. -/
  | channelFuncSet
  /-- "We should have caught this with the above guard." -/
  | initHandlersRefused
  deriving DecidableEq, Repr

/-- A user's handler, told from the others by a number. -/
abbrev Handler := Nat

/-- What the adapter sees of the session that it adapts. -/
structure Core where
  /-- The session has its handlers: by construction, or by `init_handlers()`. -/
  handlersSet : Bool
  /-- The one for passively opened channels among them. -/
  channelFuncSet : Bool
  deriving DecidableEq, Repr

/-- `init_handlers()` of a session in almost-PEER state, or of one that has its handlers. -/
def Core.initHandlers (c : Core) (withChannelFunc : Bool) : Bool × Core :=
  if c.handlersSet then (false, c) else (true, ⟨true, withChannelFunc⟩)

variable {R : Type}

/-- Where a handler that the core calls stands, in thread W. -/
inductive Worker where
  | idle
  /-- The error code is set, the byte not yet written. -/
  | errSet
  /-- The result is in the queue, the byte not yet written. -/
  | pushed
  deriving DecidableEq, Repr

/-- Where the callback of the wait for the error event stands. -/
inductive ErrCall where
  | idle
  | entered
  | consumed
  | inHandler
  deriving DecidableEq, Repr

/-- Where `on_ev_channel_open()` stands; `R` is the type of channel-open results. -/
inductive ChanCall (R : Type) where
  | idle
  | entered
  | popped (result : R)
  | inHandler
  | returned
  | consumed
  deriving DecidableEq, Repr

/-- The result that is out of the queue and not yet with the user. -/
def ChanCall.inHand : ChanCall R → List R
  | popped result => [result]
  | _ => []

/-- The callback has not consumed its byte. -/
def ChanCall.holdsByte : ChanCall R → Bool
  | idle => false
  | consumed => false
  | _ => true

/-- The callback has popped its result and not consumed its byte. -/
def ChanCall.owesByte : ChanCall R → Bool
  | popped _ => true
  | inHandler => true
  | returned => true
  | _ => false

/-- How far the callback is from being armed again. -/
def ChanCall.left : ChanCall R → Nat
  | idle => 6
  | entered => 5
  | popped _ => 4
  | inHandler => 3
  | returned => 2
  | consumed => 7

/-- The callback is on its way to the handler. -/
def ErrCall.beforeHandler : ErrCall → Bool
  | entered => true
  | consumed => true
  | _ => false

/-- An adapter, its pipes and waits, and the record of what went through it. -/
structure SessionAdapter (R : Type) where
  /-- `m_ev_wait_func` is not empty. -/
  evWaitFunc : Bool
  onErrFunc : Option Handler
  onChannelFuncOrEmpty : Option Handler
  targetErrCodeErr : ErrorCode
  targetChannelOpenQ : List R
  core : Core
  /-- The bytes in the two pipes. -/
  readyErr : Nat
  readyChan : Nat
  /-- The waits that are armed on the two pipes. -/
  waitsErr : Nat
  waitsChan : Nat
  worker : Worker
  errCall : ErrCall
  chanCall : ChanCall R
  /-- The results that the core handed over. -/
  delivered : List R
  /-- The calls of the channel handler, and those of the on-error handler. -/
  handled : List (Handler × R)
  errors : List (Handler × ErrorCode)
  deriving DecidableEq, Repr

namespace SessionAdapter

/-- The handlers that a constructor takes: none (to be set by `init_handlers()`), or those of a
    client. -/
inductive Ctor where
  | default
  | client (onErr : Handler) (onChannel : Option Handler)
  deriving DecidableEq, Repr

def Ctor.onErrFunc : Ctor → Option Handler
  | default => none
  | client onErr _ => some onErr

def Ctor.onChannelFunc : Ctor → Option Handler
  | default => none
  | client _ onChannel => onChannel

/-- `Session_adapter()` and the two client constructors. -/
def construct (c : Ctor) : SessionAdapter R where
  evWaitFunc := false
  onErrFunc := c.onErrFunc
  onChannelFuncOrEmpty := c.onChannelFunc
  targetErrCodeErr := none
  targetChannelOpenQ := []
  core := ⟨c.onErrFunc.isSome, c.onChannelFunc.isSome⟩
  readyErr := 0
  readyChan := 0
  waitsErr := 0
  waitsChan := 0
  worker := .idle
  errCall := .idle
  chanCall := .idle
  delivered := []
  handled := []
  errors := []

/-! ### The public calls -/

/-- `start_ops()`. -/
def startOps (s : SessionAdapter R) : Outcome Failure (Bool × SessionAdapter R) :=
  if s.evWaitFunc then
    return (false, s)
  else
    return (true, { s with
      evWaitFunc := true
      waitsErr := s.waitsErr + 1
      waitsChan := s.waitsChan + 1 })

/-- `init_handlers()` with both handlers. -/
def initHandlers (s : SessionAdapter R) (onErr onChannel : Handler) :
    Outcome Failure (Bool × SessionAdapter R) :=
  if s.onErrFunc.isSome then
    return (false, s)
  else do
    Outcome.check Failure.channelFuncSet s.onChannelFuncOrEmpty.isNone
    let (ok, core) := s.core.initHandlers true
    Outcome.check Failure.initHandlersRefused ok
    return (true, { s with onErrFunc := some onErr, onChannelFuncOrEmpty := some onChannel, core })

/-- `init_handlers()` with the on-error handler only; it does not look at the other one. -/
def initErrHandler (s : SessionAdapter R) (onErr : Handler) :
    Outcome Failure (Bool × SessionAdapter R) :=
  if s.onErrFunc.isSome then
    return (false, s)
  else do
    let (ok, core) := s.core.initHandlers false
    Outcome.check Failure.initHandlersRefused ok
    return (true, { s with onErrFunc := some onErr, core })

/-! ### The handlers that the core calls -/

/-- `on_err_func_sio()`, up to `pipe_produce()`. -/
def onErrFuncSio (s : SessionAdapter R) (errCode : Err) : Outcome Failure (SessionAdapter R) := do
  Outcome.require (s.core.handlersSet && s.worker = .idle)
  Outcome.check Failure.secondError s.targetErrCodeErr.isNone
  return { s with targetErrCodeErr := some errCode, worker := .errSet }

/-- `on_channel_func_sio()`, up to `pipe_produce()`: under the lock. -/
def onChannelFuncSio (s : SessionAdapter R) (result : R) : Outcome Failure (SessionAdapter R) := do
  Outcome.require (s.core.channelFuncSet && s.worker = .idle)
  return { s with
    targetChannelOpenQ := s.targetChannelOpenQ ++ [result]
    delivered := s.delivered ++ [result]
    worker := .pushed }

/-- `pipe_produce()`, the last step of either handler. -/
def pipeProduce (s : SessionAdapter R) : Outcome Failure (SessionAdapter R) :=
  match s.worker with
  | .idle => .disabled
  | .errSet => return { s with readyErr := s.readyErr + 1, worker := .idle }
  | .pushed => return { s with readyChan := s.readyChan + 1, worker := .idle }

/-! ### The callbacks of the waits -/

/-- The callback that `start_ops()` gives to the wait for the error event; `.idle` is the wait's
    coming true. -/
def onEvErr (s : SessionAdapter R) : Outcome Failure (SessionAdapter R) :=
  match s.errCall with
  | .idle => do
    Outcome.require (0 < s.waitsErr && 0 < s.readyErr)
    return { s with waitsErr := s.waitsErr - 1, errCall := .entered }
  | .entered => return { s with readyErr := s.readyErr - 1, errCall := .consumed }
  -- There is one error at most, so the wait is not armed again.
  | .consumed =>
    match s.onErrFunc with
    | none => .failed .emptyFunction
    | some onDone => return { s with
        onErrFunc := none
        errors := s.errors ++ [(onDone, s.targetErrCodeErr)]
        errCall := .inHandler }
  | .inHandler => return { s with errCall := .idle }

/-- `on_ev_channel_open()`; `.idle` is the wait's coming true. -/
def onEvChannelOpen (s : SessionAdapter R) : Outcome Failure (SessionAdapter R) :=
  match s.chanCall with
  | .idle => do
    Outcome.require (0 < s.waitsChan && 0 < s.readyChan)
    return { s with waitsChan := s.waitsChan - 1, chanCall := .entered }
  | .entered =>
    match s.targetChannelOpenQ with
    | [] => .failed .emptyResultQueue
    | result :: rest => return { s with targetChannelOpenQ := rest, chanCall := .popped result }
  | .popped result =>
    match s.onChannelFuncOrEmpty with
    | none => .failed .emptyFunction
    | some onChannel => return { s with
        handled := s.handled ++ [(onChannel, result)]
        chanCall := .inHandler }
  | .inHandler => return { s with chanCall := .returned }
  -- The byte is consumed only after the handler, and the wait is armed last.
  | .returned => return { s with readyChan := s.readyChan - 1, chanCall := .consumed }
  | .consumed =>
    if s.evWaitFunc then
      return { s with waitsChan := s.waitsChan + 1, chanCall := .idle }
    else
      .failed .emptyFunction

/-! ### The machine -/

inductive Act (R : Type) where
  | startOps
  | initHandlers (onErr onChannel : Handler)
  | initErrHandler (onErr : Handler)
  | onErr (errCode : Err)
  | onChannel (result : R)
  | pipeProduce
  | onEvErr
  | onEvChannelOpen
  deriving DecidableEq, Repr

/-- One half-step of a thread. -/
def step (s : SessionAdapter R) : Act R → Outcome Failure (SessionAdapter R)
  | .startOps => do return (← s.startOps).2
  | .initHandlers onErr onChannel => do return (← s.initHandlers onErr onChannel).2
  | .initErrHandler onErr => do return (← s.initErrHandler onErr).2
  | .onErr errCode => s.onErrFuncSio errCode
  | .onChannel result => s.onChannelFuncSio result
  | .pipeProduce => s.pipeProduce
  | .onEvErr => s.onEvErr
  | .onEvChannelOpen => s.onEvChannelOpen

/-- The steps that serve what the core has handed over: the rest of thread W's handler, and the
    callback. -/
def serves : Act R → Bool
  | .pipeProduce => true
  | .onEvChannelOpen => true
  | _ => false

/-- No passively opened channel is under way. -/
def noEventPending (s : SessionAdapter R) : Prop :=
  s.worker ≠ .pushed ∧ s.readyChan = 0 ∧ s.chanCall = .idle

/-! ### The accounts -/

variable {s s' : SessionAdapter R} {c : Ctor}

/-- What holds between any two half-steps. -/
structure Inv (s : SessionAdapter R) : Prop where
  /-- Each byte stands for a result, but for the push and the pop that are not yet followed by
      `pipe_produce()` and `pipe_consume()`. -/
  bytes : s.readyChan + (decide (s.worker = .pushed)).toNat =
    s.targetChannelOpenQ.length + s.chanCall.owesByte.toNat
  /-- A callback finds the byte that made its wait come true. -/
  byte : s.chanCall.holdsByte = true → 0 < s.readyChan
  results : s.handled.map Prod.snd ++ s.chanCall.inHand ++ s.targetChannelOpenQ = s.delivered
  waiting : s.chanCall = .idle → s.waitsChan = s.evWaitFunc.toNat
  calling : s.chanCall ≠ .idle → s.evWaitFunc = true ∧ s.waitsChan = 0
  channelFunc : s.core.channelFuncSet = true → s.onChannelFuncOrEmpty.isSome = true
  channelFuncOf : s.core.channelFuncSet = true → s.core.handlersSet = true
  fromCore : s.delivered ≠ [] → s.core.channelFuncSet = true
  handledBy : ∀ p ∈ s.handled, s.onChannelFuncOrEmpty = some p.1
  /-- There is one chance of an on-error call: to be waited for, waited for, on its way, or gone. -/
  oneError : s.errors.length + s.errCall.beforeHandler.toNat + s.waitsErr +
    (!s.evWaitFunc).toNat = 1
  reported : 0 < s.readyErr ∨ s.worker = .errSet ∨ s.errCall.beforeHandler = true →
    s.targetErrCodeErr.isSome = true
  errFromCore : s.targetErrCodeErr.isSome = true → s.core.handlersSet = true
  errFunc : s.core.handlersSet = true → s.errors = [] → s.onErrFunc.isSome = true

/-- Nothing has been delivered. -/
theorem inv_construct (c : Ctor) : Inv (construct c : SessionAdapter R) := by
  constructor <;> cases c <;> simp [construct, Ctor.onErrFunc, Ctor.onChannelFunc,
    ChanCall.owesByte,
    ChanCall.holdsByte, ChanCall.inHand, ErrCall.beforeHandler]

/-! ### One lemma for each operation -/

/-- The waits on both pipes start. -/
theorem Inv.startOps (hI : Inv s) {b : Bool} (h : s.startOps = .done (b, s')) : Inv s' := by
  simp only [SessionAdapter.startOps, Outcome.pure_eq] at h
  split at h
  · cases h
    exact hI
  · rename_i hev
    cases h
    have hev : s.evWaitFunc = false := by simpa using hev
    -- no callback can be in progress before the waits exist
    have hidle : s.chanCall = .idle := by
      by_contra hc
      exact Bool.false_ne_true (hev.symm.trans (hI.calling hc).1)
    have hw := hI.waiting hidle
    have herr := hI.oneError
    rw [hev] at hw herr
    exact { hI with
      waiting := fun _ => by simp [hw]
      calling := fun hc => absurd hidle hc
      oneError := by
        simp only [Bool.not_false, Bool.not_true, Bool.toNat_true, Bool.toNat_false] at herr ⊢
        omega }

/-- The handlers are set, and the core's are with them. -/
theorem Inv.initHandlers (hI : Inv s) {onErr onChannel : Handler} {b : Bool}
    (h : s.initHandlers onErr onChannel = .done (b, s')) : Inv s' := by
  unfold SessionAdapter.initHandlers at h
  split at h
  · cases h
    exact hI
  · rename_i herr
    simp only [Outcome.bind_eq_done, Outcome.check_eq_done, Outcome.pure_eq, Outcome.done.injEq,
      Prod.mk.injEq] at h
    obtain ⟨-, hnone, -, hok, -, rfl⟩ := h
    have hset : s.core.handlersSet = false := by
      rcases Bool.eq_false_or_eq_true s.core.handlersSet with hk | hk
      · simp [Core.initHandlers, hk] at hok
      · exact hk
    have hfunc : s.onChannelFuncOrEmpty = none := by simpa using hnone
    exact { hI with
      channelFunc := fun _ => rfl
      channelFuncOf := fun _ => by simp [Core.initHandlers, hset]
      fromCore := fun _ => by simp [Core.initHandlers, hset]
      handledBy := fun p hp => by
        have := hI.handledBy p hp
        rw [hfunc] at this
        cases this
      errFromCore := fun _ => by simp [Core.initHandlers, hset]
      errFunc := fun _ _ => rfl }

/-- Only the on-error handler is. -/
theorem Inv.initErrHandler (hI : Inv s) {onErr : Handler} {b : Bool}
    (h : s.initErrHandler onErr = .done (b, s')) : Inv s' := by
  unfold SessionAdapter.initErrHandler at h
  split at h
  · cases h
    exact hI
  · simp only [Outcome.bind_eq_done, Outcome.check_eq_done, Outcome.pure_eq, Outcome.done.injEq,
      Prod.mk.injEq] at h
    obtain ⟨-, hok, -, rfl⟩ := h
    have hset : s.core.handlersSet = false := by
      rcases Bool.eq_false_or_eq_true s.core.handlersSet with hk | hk
      · simp [Core.initHandlers, hk] at hok
      · exact hk
    -- a core without handlers has handed nothing over
    have hnone : s.delivered = [] := by
      by_contra hd
      have := hI.channelFuncOf (hI.fromCore hd)
      rw [hset] at this
      exact Bool.false_ne_true this
    exact { hI with
      channelFunc := fun hc => by simp [Core.initHandlers, hset] at hc
      channelFuncOf := fun _ => by simp [Core.initHandlers, hset]
      fromCore := fun hd => absurd hnone hd
      errFromCore := fun _ => by simp [Core.initHandlers, hset]
      errFunc := fun _ _ => rfl }

/-- The core reports its error: the error pipe gets its byte. -/
theorem Inv.onErrFuncSio (hI : Inv s) {errCode : Err} (h : s.onErrFuncSio errCode = .done s') :
    Inv s' := by
  simp only [SessionAdapter.onErrFuncSio, Outcome.bind_eq_done, Outcome.require_eq_done,
    Outcome.check_eq_done, Bool.and_eq_true, decide_eq_true_eq, Outcome.pure_eq,
    Outcome.done.injEq] at h
  obtain ⟨-, ⟨hset, hidle⟩, -, -, rfl⟩ := h
  have hbytes := hI.bytes
  rw [hidle] at hbytes
  exact { hI with
    bytes := hbytes
    reported := fun _ => rfl
    errFromCore := fun _ => hset }

/-- The core hands a channel over: it is queued, and the pipe gets its byte. -/
theorem Inv.onChannelFuncSio (hI : Inv s) {result : R} (h : s.onChannelFuncSio result = .done s') :
    Inv s' := by
  simp only [SessionAdapter.onChannelFuncSio, Outcome.bind_eq_done, Outcome.require_eq_done,
    Bool.and_eq_true, decide_eq_true_eq, Outcome.pure_eq, Outcome.done.injEq] at h
  obtain ⟨-, ⟨hset, hidle⟩, rfl⟩ := h
  have hbytes := hI.bytes
  rw [hidle] at hbytes
  exact { hI with
    -- the queue is ahead of the pipe by one until `pipe_produce()`
    bytes := by
      simp only [reduceCtorEq, decide_false, decide_true, Bool.toNat_false, Bool.toNat_true,
        List.length_append, List.length_singleton] at hbytes ⊢
      omega
    results := by
      show s.handled.map Prod.snd ++ s.chanCall.inHand ++ (s.targetChannelOpenQ ++ [result]) =
        s.delivered ++ [result]
      rw [← List.append_assoc, hI.results]
    fromCore := fun _ => hset
    reported := fun hc => hI.reported (by
      rcases hc with hc | hc | hc
      · exact .inl hc
      · cases hc
      · exact .inr (.inr hc)) }

/-- A byte gets through to the reading end. -/
theorem Inv.pipeProduce (hI : Inv s) (h : s.pipeProduce = .done s') : Inv s' := by
  have hbytes := hI.bytes
  unfold SessionAdapter.pipeProduce at h
  split at h
  · cases h
  · rename_i hw
    cases h
    rw [hw] at hbytes
    exact { hI with
      bytes := hbytes
      reported := fun _ => hI.reported (.inr (.inl hw)) }
  · rename_i hw
    cases h
    rw [hw] at hbytes
    exact { hI with
      bytes := by
        simp only [reduceCtorEq, decide_false, decide_true, Bool.toNat_false, Bool.toNat_true]
          at hbytes ⊢
        omega
      byte := fun hc => Nat.lt_succ_of_lt (hI.byte hc)
      reported := fun hc => hI.reported (by
        rcases hc with hc | hc | hc
        · exact .inl hc
        · cases hc
        · exact .inr (.inr hc)) }

/-- The byte is read, and the error goes to the user's handler. -/
theorem Inv.onEvErr (hI : Inv s) (h : s.onEvErr = .done s') : Inv s' := by
  have herr := hI.oneError
  unfold SessionAdapter.onEvErr at h
  split at h
  -- The stages of the handler: it is entered, reads the byte, runs the user's handler and returns.
  · rename_i hcall
    simp only [Outcome.bind_eq_done, Outcome.require_eq_done, Bool.and_eq_true, decide_eq_true_eq,
      Outcome.pure_eq, Outcome.done.injEq] at h
    obtain ⟨-, ⟨hwait, hready⟩, rfl⟩ := h
    rw [hcall] at herr
    exact { hI with
      oneError := by
        simp only [ErrCall.beforeHandler, Bool.toNat_false, Bool.toNat_true] at herr ⊢
        omega
      reported := fun _ => hI.reported (.inl hready) }
  · rename_i hcall
    cases h
    have hrep := hI.reported (.inr (.inr (by rw [hcall]; rfl)))
    rw [hcall] at herr
    exact { hI with
      oneError := herr
      reported := fun _ => hrep }
  · rename_i hcall
    have hrep := hI.reported (.inr (.inr (by rw [hcall]; rfl)))
    split at h
    · cases h
    · cases h
      rw [hcall] at herr
      exact { hI with
        oneError := by
          simp only [ErrCall.beforeHandler, Bool.toNat_false, Bool.toNat_true, List.length_append,
            List.length_singleton] at herr ⊢
          omega
        reported := fun _ => hrep
        errFunc := fun _ hnil => by simp at hnil }
  · rename_i hcall
    cases h
    rw [hcall] at herr
    exact { hI with
      oneError := herr
      reported := fun hc => hI.reported (by
        rcases hc with hc | hc | hc
        · exact .inl hc
        · exact .inr (.inl hc)
        · cases hc) }

/-- The byte is read, and the first channel queued goes to the user's handler. -/
theorem Inv.onEvChannelOpen (hI : Inv s) (h : s.onEvChannelOpen = .done s') : Inv s' := by
  have hbytes := hI.bytes
  have hresults := hI.results
  have hwaiting := hI.waiting
  have hcalling := hI.calling
  have hbyte := hI.byte
  unfold SessionAdapter.onEvChannelOpen at h
  split at h
  · rename_i hcall
    simp only [Outcome.bind_eq_done, Outcome.require_eq_done, Bool.and_eq_true, decide_eq_true_eq,
      Outcome.pure_eq, Outcome.done.injEq] at h
    obtain ⟨-, ⟨hwait, hready⟩, rfl⟩ := h
    have hw := hwaiting hcall
    have hev : s.evWaitFunc = true := by
      by_contra hev
      simp only [Bool.not_eq_true] at hev
      rw [hev] at hw
      exact absurd hwait (by simp [hw])
    rw [hcall] at hbytes hresults
    exact { hI with
      bytes := hbytes
      byte := fun _ => hready
      results := hresults
      waiting := (by rintro ⟨⟩)
      calling := fun _ => ⟨hev, by simp [hw, hev]⟩ }
  · rename_i hcall
    split at h
    · cases h
    · rename_i result rest hq
      cases h
      have hready := hbyte (by rw [hcall]; rfl)
      have hev := hcalling (by rw [hcall]; rintro ⟨⟩)
      rw [hcall, hq] at hbytes hresults
      exact { hI with
        -- now the pipe is ahead of the queue by one, until `pipe_consume()`
        bytes := by
          simp only [ChanCall.owesByte, Bool.toNat_false, Bool.toNat_true, List.length_cons]
            at hbytes ⊢
          omega
        byte := fun _ => hready
        results := by simpa [ChanCall.inHand] using hresults
        waiting := (by rintro ⟨⟩)
        calling := fun _ => hev }
  · rename_i result hcall
    split at h
    · cases h
    · rename_i onChannel hfunc
      cases h
      have hready := hbyte (by rw [hcall]; rfl)
      have hev := hcalling (by rw [hcall]; rintro ⟨⟩)
      rw [hcall] at hbytes hresults
      exact { hI with
        bytes := hbytes
        byte := fun _ => hready
        results := by simpa [ChanCall.inHand] using hresults
        waiting := (by rintro ⟨⟩)
        calling := fun _ => hev
        handledBy := fun p hp => by
          rcases List.mem_append.mp hp with hp | hp
          · exact hI.handledBy p hp
          · rw [List.mem_singleton.mp hp]
            exact hfunc }
  · rename_i hcall
    cases h
    have hready := hbyte (by rw [hcall]; rfl)
    have hev := hcalling (by rw [hcall]; rintro ⟨⟩)
    rw [hcall] at hbytes hresults
    exact { hI with
      bytes := hbytes
      byte := fun _ => hready
      results := hresults
      waiting := (by rintro ⟨⟩)
      calling := fun _ => hev }
  · rename_i hcall
    cases h
    have hready := hbyte (by rw [hcall]; rfl)
    have hev := hcalling (by rw [hcall]; rintro ⟨⟩)
    rw [hcall] at hbytes hresults
    exact { hI with
      bytes := by
        simp only [ChanCall.owesByte, Bool.toNat_false, Bool.toNat_true] at hbytes ⊢
        omega
      byte := (by rintro ⟨⟩)
      results := hresults
      waiting := (by rintro ⟨⟩)
      calling := fun _ => hev }
  · rename_i hcall
    have hev := hcalling (by rw [hcall]; rintro ⟨⟩)
    rw [hcall] at hbytes hresults
    rw [if_pos hev.1] at h
    cases h
    exact { hI with
      bytes := hbytes
      byte := (by rintro ⟨⟩)
      results := hresults
      waiting := fun _ => by simp [hev.1, hev.2]
      calling := fun hc => absurd rfl hc }

/-- **Step lemma.** -/
theorem Inv.step (hI : Inv s) {a : Act R} (h : SessionAdapter.step s a = .done s') : Inv s' := by
  cases a with
  | startOps =>
    simp only [SessionAdapter.step, Outcome.bind_eq_done, Outcome.pure_eq, Outcome.done.injEq] at h
    obtain ⟨⟨b, s₁⟩, h₁, rfl⟩ := h
    exact hI.startOps h₁
  | initHandlers onErr onChannel =>
    simp only [SessionAdapter.step, Outcome.bind_eq_done, Outcome.pure_eq, Outcome.done.injEq] at h
    obtain ⟨⟨b, s₁⟩, h₁, rfl⟩ := h
    exact hI.initHandlers h₁
  | initErrHandler onErr =>
    simp only [SessionAdapter.step, Outcome.bind_eq_done, Outcome.pure_eq, Outcome.done.injEq] at h
    obtain ⟨⟨b, s₁⟩, h₁, rfl⟩ := h
    exact hI.initErrHandler h₁
  | onErr errCode => exact hI.onErrFuncSio h
  | onChannel result => exact hI.onChannelFuncSio h
  | pipeProduce => exact hI.pipeProduce h
  | onEvErr => exact hI.onEvErr h
  | onEvChannelOpen => exact hI.onEvChannelOpen h

/-- **Run lemma.** -/
theorem inv_of_reaches (hr : Machine.Reaches step Machine.anyStep (construct c) s) : Inv s :=
  hr.invariant (inv_construct c) fun _ _ _ hI _ hs => hI.step hs

/-! ### No callback fails -/

/-- Where the byte of the error is there, so is the error. -/
theorem Inv.onEvErr_ne_failed (hI : Inv s) (f : Failure) : s.onEvErr ≠ .failed f := by
  intro h
  have herr := hI.oneError
  unfold SessionAdapter.onEvErr at h
  split at h
  · simp [Outcome.bind_eq_failed] at h
  · cases h
  · rename_i hcall
    split at h
    · rename_i hnone
      -- the error was reported, and its handler not yet called: then the handler is still there
      have hset := hI.errFromCore (hI.reported (.inr (.inr (by rw [hcall]; rfl))))
      have hnil : s.errors = [] := by
        rw [hcall] at herr
        simp only [ErrCall.beforeHandler, Bool.toNat_true] at herr
        exact List.eq_nil_of_length_eq_zero (by omega)
      have := hI.errFunc hset hnil
      simp [hnone] at this
    · cases h
  · cases h

/-- Where a byte is there, a channel is queued. -/
theorem Inv.onEvChannelOpen_ne_failed (hI : Inv s) (f : Failure) :
    s.onEvChannelOpen ≠ .failed f := by
  intro h
  have hbytes := hI.bytes
  have hresults := hI.results
  unfold SessionAdapter.onEvChannelOpen at h
  split at h
  · simp [Outcome.bind_eq_failed] at h
  · rename_i hcall
    split at h
    · rename_i hq
      -- the byte that is not consumed stands for a result
      have hready := hI.byte (by rw [hcall]; rfl)
      rw [hcall, hq] at hbytes
      simp only [ChanCall.owesByte, Bool.toNat_false, List.length_nil] at hbytes
      omega
    · cases h
  · rename_i result hcall
    split at h
    · rename_i hnone
      have hd : s.delivered ≠ [] := by
        rw [← hresults, hcall]
        simp [ChanCall.inHand]
      have := hI.channelFunc (hI.fromCore hd)
      simp [hnone] at this
    · cases h
  · cases h
  · cases h
  · rename_i hcall
    have hev := hI.calling (by rw [hcall]; nofun)
    rw [if_pos hev.1] at h
    cases h

/-- What is left to fail: a core that reports two errors, and `init_handlers()`. -/
theorem Inv.failed (hI : Inv s) {a : Act R} {f : Failure}
    (h : SessionAdapter.step s a = .failed f) :
    f = .secondError ∨ f = .channelFuncSet ∨ f = .initHandlersRefused := by
  cases a with
  | startOps =>
    simp only [SessionAdapter.step, SessionAdapter.startOps, Outcome.pure_eq] at h
    split at h <;> cases h
  | initHandlers onErr onChannel =>
    simp only [SessionAdapter.step, SessionAdapter.initHandlers, Outcome.pure_eq] at h
    split at h
    · cases h
    · simp only [Outcome.bind_eq_failed, Outcome.check_eq_failed] at h
      grind
  | initErrHandler onErr =>
    simp only [SessionAdapter.step, SessionAdapter.initErrHandler, Outcome.pure_eq] at h
    split at h
    · cases h
    · simp only [Outcome.bind_eq_failed, Outcome.check_eq_failed] at h
      grind
  | onErr errCode =>
    simp only [SessionAdapter.step, SessionAdapter.onErrFuncSio, Outcome.bind_eq_failed,
      Outcome.check_eq_failed, Outcome.pure_eq] at h
    grind [Outcome.require_ne_failed]
  | onChannel result =>
    simp only [SessionAdapter.step, SessionAdapter.onChannelFuncSio, Outcome.bind_eq_failed,
      Outcome.pure_eq] at h
    grind [Outcome.require_ne_failed]
  | pipeProduce =>
    simp only [SessionAdapter.step, SessionAdapter.pipeProduce] at h
    split at h <;> cases h
  | onEvErr => exact absurd h (hI.onEvErr_ne_failed f)
  | onEvChannelOpen => exact absurd h (hI.onEvChannelOpen_ne_failed f)

/-! ### What is under way gets served -/

/-- How many half-steps are left of what is under way. -/
def left (s : SessionAdapter R) : Nat :=
  7 * s.readyChan + s.chanCall.left +
    match s.worker with
    | .idle => 0
    | .errSet => 1
    | .pushed => 8

/-- What is left to do for what is in gets less with each step. -/
theorem Inv.left_lt (hI : Inv s) {a : Act R} (ha : serves a = true)
    (h : SessionAdapter.step s a = .done s') : s'.left < s.left ∧ s'.delivered = s.delivered := by
  cases a with
  -- One call fewer at the pipe and one byte more in it: the weights are chosen so that the sum
  -- drops.
  | pipeProduce =>
    simp only [SessionAdapter.step, SessionAdapter.pipeProduce] at h
    split at h
    · cases h
    · rename_i hw
      cases h
      refine ⟨?_, rfl⟩
      simp only [left, hw]
      omega
    · rename_i hw
      cases h
      refine ⟨?_, rfl⟩
      simp only [left, hw]
      omega
  -- Each stage of the read handler is followed by one that weighs less.
  | onEvChannelOpen =>
    have hbyte := hI.byte
    simp only [SessionAdapter.step, SessionAdapter.onEvChannelOpen] at h
    split at h
    · rename_i hcall
      simp only [Outcome.bind_eq_done, Outcome.pure_eq, Outcome.done.injEq] at h
      obtain ⟨-, -, rfl⟩ := h
      refine ⟨?_, rfl⟩
      simp only [left, hcall, ChanCall.left]
      omega
    · rename_i hcall
      split at h
      · cases h
      · cases h
        refine ⟨?_, rfl⟩
        simp only [left, hcall, ChanCall.left]
        omega
    · rename_i hcall
      split at h
      · cases h
      · cases h
        refine ⟨?_, rfl⟩
        simp only [left, hcall, ChanCall.left]
        omega
    · rename_i hcall
      cases h
      refine ⟨?_, rfl⟩
      simp only [left, hcall, ChanCall.left]
      omega
    · rename_i hcall
      cases h
      refine ⟨?_, rfl⟩
      -- The byte it consumes is there, by the invariant.
      have hready := hbyte (by rw [hcall]; rfl)
      simp only [left, hcall, ChanCall.left]
      omega
    · rename_i hcall
      split at h
      · cases h
        refine ⟨?_, rfl⟩
        simp only [left, hcall, ChanCall.left]
        omega
      · cases h
  | _ => cases ha

/-- Serving the pipes does not change the event-wait function. -/
theorem evWaitFunc_of_serves (a : Act R) (ha : serves a = true) (h : step s a = .done s') :
    s'.evWaitFunc = s.evWaitFunc := by
  cases a with
  | pipeProduce =>
    simp only [step, pipeProduce] at h
    split at h <;> cases h <;> rfl
  | onEvChannelOpen =>
    simp only [step, onEvChannelOpen] at h
    split at h
    · simp only [Outcome.bind_eq_done, Outcome.pure_eq, Outcome.done.injEq] at h
      obtain ⟨-, -, rfl⟩ := h
      rfl
    all_goals try split at h
    all_goals cases h
    all_goals rfl
  | _ => cases ha

/-- While something is under way, thread W or the user's thread has a next half-step. -/
theorem Inv.exists_serves (hI : Inv s) (hev : s.evWaitFunc = true) (hp : ¬ s.noEventPending) :
    ∃ a s', serves a = true ∧ SessionAdapter.step s a = .done s' := by
  by_cases hw : s.worker = .pushed
  · exact ⟨.pipeProduce, _, rfl,
      by simp only [SessionAdapter.step, SessionAdapter.pipeProduce, hw]; rfl⟩
  · refine ⟨.onEvChannelOpen, ?_⟩
    suffices ∃ s', s.onEvChannelOpen = .done s' from ⟨this.choose, rfl, this.choose_spec⟩
    cases hs : s.onEvChannelOpen with
    | done s' => exact ⟨s', rfl⟩
    | failed f => exact absurd hs (hI.onEvChannelOpen_ne_failed f)
    | disabled =>
      exfalso
      unfold SessionAdapter.onEvChannelOpen at hs
      split at hs
      · rename_i hcall
        -- the wait is armed, so it is the byte that is missing
        have hwait := hI.waiting hcall
        rw [hev] at hwait
        have hzero : s.readyChan = 0 := by
          by_contra hpos
          simp [Outcome.require, hwait, Nat.pos_of_ne_zero hpos] at hs
        exact hp ⟨hw, hzero, hcall⟩
      all_goals try split at hs
      all_goals cases hs

/-- **Everything that is under way gets served**, and by any order of the half-steps. -/
theorem Inv.served (hI : Inv s) (hev : s.evWaitFunc = true) :
    ∃ s', Machine.Reaches SessionAdapter.step (fun _ a => serves a = true) s s' ∧
      (Inv s' ∧ s'.evWaitFunc = true ∧ s'.delivered = s.delivered) ∧ s'.noEventPending := by
  refine Machine.Reaches.exists_of_measure left ⟨hI, hev, rfl⟩ ?_
  rintro s₁ ⟨hI₁, hev₁, hd₁⟩ hp
  obtain ⟨a, s₂, ha, h₂⟩ := hI₁.exists_serves hev₁ hp
  obtain ⟨hlt, hd₂⟩ := hI₁.left_lt ha h₂
  exact ⟨a, s₂, ha, h₂, ⟨hI₁.step h₂, (evWaitFunc_of_serves a ha h₂).trans hev₁, hd₂.trans hd₁⟩,
    hlt⟩

/-! ### What the adapter is for -/

/-- Passively opened channels go through the adapter once and in order. -/
structure DeliversInOrder (s : SessionAdapter R) : Prop where
  inOrder : s.handled.map Prod.snd ++ s.chanCall.inHand ++ s.targetChannelOpenQ = s.delivered
  handledBy : ∀ p ∈ s.handled, s.onChannelFuncOrEmpty = some p.1
  complete : s.noEventPending → s.handled.map Prod.snd = s.delivered
  /-- What is under way is served, if thread W and the user's thread go on. -/
  served : s.evWaitFunc = true →
    (¬ s.noEventPending → ∃ a s', serves a = true ∧ step s a = .done s') ∧
      (∀ a s', serves a = true → step s a = .done s' → s'.left < s.left) ∧
      ∃ s', Machine.Reaches step (fun _ a => serves a = true) s s' ∧ s'.noEventPending ∧
        s'.handled.map Prod.snd = s.delivered
  bytesLe : s.chanCall = .idle → s.readyChan ≤ s.targetChannelOpenQ.length
  bytesEq : s.chanCall = .idle → s.worker ≠ .pushed → s.readyChan = s.targetChannelOpenQ.length
  nonEmpty : ∀ a, step s a ≠ .failed .emptyResultQueue
  oneWait : s.evWaitFunc = true → s.chanCall = .idle → s.waitsChan = 1
  errorOnce : s.errors.length ≤ 1

/-- With no event pending, all that was delivered has been handled. -/
theorem Inv.complete (hI : Inv s) (hp : s.noEventPending) :
    s.handled.map Prod.snd = s.delivered := by
  obtain ⟨hw, hzero, hcall⟩ := hp
  have hbytes := hI.bytes
  have hresults := hI.results
  rw [hcall, hzero, decide_eq_false hw] at hbytes
  have hnil : s.targetChannelOpenQ = [] := by
    simp only [ChanCall.owesByte, Bool.toNat_false] at hbytes
    exact List.eq_nil_of_length_eq_zero (by omega)
  simpa [hcall, hnil, ChanCall.inHand] using hresults

/-- **The adapter delivers every passively opened channel once, in order, and in time.** -/
theorem deliversInOrder (hr : Machine.Reaches step Machine.anyStep (construct c) s) :
    DeliversInOrder s := by
  have hI : Inv s := inv_of_reaches hr
  have hbytes := hI.bytes
  have herr := hI.oneError
  refine ⟨hI.results, hI.handledBy, hI.complete, ?_, ?_, ?_, ?_, ?_, ?_⟩
  · intro hev
    refine ⟨hI.exists_serves hev, fun a s' ha hs => (hI.left_lt ha hs).1, ?_⟩
    obtain ⟨s', hr', ⟨hI', -, hd'⟩, hp'⟩ := hI.served hev
    exact ⟨s', hr', hp', (hI'.complete hp').trans hd'⟩
  · intro hcall
    rw [hcall] at hbytes
    simp only [ChanCall.owesByte, Bool.toNat_false] at hbytes
    omega
  · intro hcall hw
    rw [hcall, decide_eq_false hw] at hbytes
    simp only [ChanCall.owesByte, Bool.toNat_false] at hbytes
    omega
  · intro a hs
    rcases hI.failed hs with hf | hf | hf <;> cases hf
  · intro hev hcall
    rw [hI.waiting hcall, hev]
    rfl
  · omega

/-- The adapter of a client with both handlers: a channel delivered before `start_ops()`, and a
    second one during the callback for the first. -/
theorem deliversInOrder_client :
    ∃ s : SessionAdapter Nat, s.delivered = [7, 8] ∧ s.handled = [(1, 7)] ∧ DeliversInOrder s := by
  obtain ⟨s, hr, hs⟩ := Machine.Reaches.exists_of_run (step (R := Nat))
    (construct (.client 0 (some 1)))
    [.onChannel 7, .pipeProduce, .startOps, .onEvChannelOpen, .onEvChannelOpen, .onChannel 8,
      .onEvChannelOpen, .onEvChannelOpen, .pipeProduce, .onEvChannelOpen]
    (fun s => s.delivered = [7, 8] && s.handled = [(1, 7)]) (by decide)
  simp only [Bool.and_eq_true, decide_eq_true_eq] at hs
  exact ⟨s, hs.1, hs.2, deliversInOrder hr⟩

end SessionAdapter

end IpcSession.SyncIo
