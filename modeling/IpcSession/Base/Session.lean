import IpcSession.Base.SharedName

namespace IpcSession

/-!
# What both sides of a session have

`Session` holds the members of `Session_base` and those that `Client_session_impl` and
`Server_session_impl` both have, together with the queue of thread W and the metadata builders
that the user holds.  This file has the parts that are neither client nor server code:

* `MasterChannel` — one end of the session master channel, a `struc::Channel`: which handlers
  are registered, which in-messages wait for one, whether it has emitted its hosing error.
* `Task` — what thread W can be given to do, by thread U or by the channel's handlers.
* `Worker` — where thread W stands: between two tasks, or blocked inside one.
* `Session.call`, `Session.send`, `Session.expectOpenChannelReqs`, `Session.deliver`, … — the
  calls on the channel and what the channel does on its own.

A task runs in one step, except that it stops where the code blocks: in `sync_request()` and in
the final flush.  What the environment decides (results of calls, content of files) comes with
the action.
-/

/-! ### The master channel -/

/-- What `on_master_channel_log_in_rsp()` hands to the init-channel handler. -/
structure InitCapture where
  nInitChannels : Nat
  /-- Names the shared intermediate vector `init_channels`. -/
  vec : Nat
  /-- Names the out-arguments of the connect attempt. -/
  attempt : Nat
  mdtFromSrv : Option Mdt
  deriving DecidableEq, Repr

/-- The handler registered for the peer's requests to open a channel. -/
inductive OpenReqHandler where
  | initOpenChannel (cap : InitCapture)
  | openChannelReq
  deriving DecidableEq, Repr

/-- One end of a session master channel. -/
structure MasterChannel where
  id : Nat
  isServer : Bool
  /-- The channel-hosing error has been emitted. -/
  hosed : Bool
  nextMsgId : Nat
  /-- `expect_log_in_request()` is outstanding. -/
  expectsLogInReq : Bool
  /-- The log-in `async_request()` is outstanding: its message, and the connect attempt. -/
  expectsLogInRsp : Option (Nat × Nat)
  openReqHandler : Option OpenReqHandler
  /-- `expect_msg(GRACEFUL_SESSION_END)` is outstanding. -/
  expectsGracefulEnd : Bool
  /-- In-messages for which no handler is registered yet. -/
  cached : List Msg
  deriving DecidableEq, Repr

namespace MasterChannel

/-- A channel as constructed and started. -/
def fresh (id : Nat) (isServer : Bool) : MasterChannel :=
  { id, isServer, hosed := false, nextMsgId := 0, expectsLogInReq := false,
    expectsLogInRsp := none, openReqHandler := none, expectsGracefulEnd := false, cached := [] }

/-- Whether this end is the one that answers such a request to open a channel. -/
def answers (ch : MasterChannel) : Body → Bool
  | .openChannelToClientReq .. => !ch.isServer
  | .openChannelToServerReq .. => ch.isServer
  | _ => false

end MasterChannel

/-! ### Thread W -/

/-- What `mdt_builder()` returns a pointer into: an out-message for `async_connect()` or for
    `open_channel()`, with the metadata that the user fills in; on the server, also the local
    channel, blank if its resources could not be had. -/
structure Builder where
  forLogIn : Bool
  body : Body
  hndl : Option NativeHandle
  openedChannel : Option ChannelObj
  deriving DecidableEq, Repr

/-- The tasks of thread W. -/
inductive Task where
  /-- `on_master_channel_error()`, posted by the on-error handler of channel `chan`. -/
  | masterChannelError (chan : Nat) (e : Err)
  | logInRsp (chan : Nat) (m : Msg) (attempt : Nat)
  | initOpenChannel (chan : Nat) (m : Msg) (cap : InitCapture)
  | openChannelReq (chan : Nat) (m : Msg)
  | gracefulSessionEnd (chan : Nat)
  | logInReq (chan : Nat) (m : Msg)
  | asyncConnect (attempt : Nat) (subClass : Bool) (b : Builder)
  | acceptLogIn
  | initHandlers (passiveOpen : Bool)
  /-- The cached error of almost-PEER state, posted by `init_handlers()`. -/
  | preInitError
  | mdtBuilder (call : Nat) (mdt : Mdt)
  | openChannel (call : Nat) (b : Builder)
  | sessionToken
  /-- The three posts of the destructor. -/
  | dtorFinisherQuery
  | dtorSendEnd
  | dtorFlush
  deriving DecidableEq, Repr

namespace OpenReqHandler

/-- What the handler posts for an in-message. -/
def task (h : OpenReqHandler) (chan : Nat) (m : Msg) : Task :=
  match h with
  | initOpenChannel cap => .initOpenChannel chan m cap
  | openChannelReq => .openChannelReq chan m

end OpenReqHandler

/-- The code that waits in `sync_request()`. -/
inductive SyncCall where
  /-- `open_channel()`; on the server with the channel that it emits when accepted. -/
  | openChannel (call : Nat) (opened : Option ChannelObj)
  /-- The last init-channel of `async_accept_log_in()`. -/
  | initChannels (chans : Channels) (nByCli : Nat) (mdtFromCli : Mdt)
  deriving DecidableEq, Repr

/-- Where thread W stands. -/
inductive Worker where
  /-- Between tasks. -/
  | idle
  /-- In `sync_request()` for message `req`; `rsp` is the response, once it is in. -/
  | inSyncRequest (k : SyncCall) (req : Nat) (rsp : Option Msg)
  /-- Waiting for the end of the final flush; `pending` if its handler will run. -/
  | flushing (pending : Bool)
  /-- Stopped and joined. -/
  | stopped
  deriving DecidableEq, Repr

/-- How far thread U has come in the destructor. -/
inductive Dtor where
  | notStarted
  /-- Waiting for thread W to look up the finisher. -/
  | querying
  | queried (engaged : Bool)
  /-- In `on_dtor_start()`, waiting for thread W to send `GracefulSessionEnd`. -/
  | sendingEnd
  /-- In `on_dtor_start()`, waiting for the promise. -/
  | awaitingPeer
  /-- Waiting for the flush. -/
  | flushing
  | flushed
  /-- Thread W is joined. -/
  | stopped
  | returned
  deriving DecidableEq, Repr

/-! ### The session -/

/-- The state that client and server sessions share. -/
structure Session where
  srvNamespace : SharedName
  cliNamespace : SharedName
  /-- `m_on_err_func` is set. -/
  onErrFuncSet : Bool
  /-- `m_on_passive_open_channel_func_or_empty` is set. -/
  onPassiveOpenSet : Bool
  peerStateErrCodeOrOk : ErrorCode
  lastPassivelyOpenedChannelId : Nat
  lastActivelyOpenedChannelId : Nat
  masterChannel : Option MasterChannel
  /-- Engaged or not; if so, whether `m_opposing_session_done` is fulfilled. -/
  gracefulFinisher : Option Bool
  queue : List Task
  w : Worker
  dtor : Dtor
  /-- The results of `mdt_builder()` that the user holds. -/
  builders : List (Nat × Option Builder)
  /-- Messages sent and not yet delivered. -/
  outbox : List Msg
  /-- The record of events; nothing below reads it. -/
  log : List Event
  deriving DecidableEq, Repr

/-- The result of a call on the channel, as the environment decides it. -/
inductive Ret where
  /-- It works. -/
  | ok
  /-- It returns `false` or null without error: the error is or was emitted by the handler. -/
  | refused (e : Err)
  /-- It emits the channel-hosing error itself. -/
  | failed (e : Err)
  deriving DecidableEq, Repr

/-- The result of a call on the channel, as the caller sees it; `id` is the number of the
    message that the call sends, if it sends one. -/
inductive Called where
  | ok (id : Nat)
  | refused
  | failed (e : Err)
  deriving DecidableEq, Repr

namespace Session

/-- Post a task to thread W. -/
@[simps] def post (t : Task) (s : Session) : Session := { s with queue := s.queue ++ [t] }

/-- Add to the record of events. -/
@[simps] def record (e : Event) (s : Session) : Session := { s with log := s.log ++ [e] }

/-- Replace the master channel by one that differs in its bookkeeping. -/
@[simps] def setChannel (ch : MasterChannel) (s : Session) : Session :=
  { s with masterChannel := some ch }

/-- `m_master_channel.reset()`. -/
@[simps] def dropChannel (s : Session) : Session := { s with masterChannel := none }

/-- Thread W stands at `w`. -/
@[simps] def setW (w : Worker) (s : Session) : Session := { s with w }

/-- The destructor has come to `d`. -/
@[simps] def setDtor (d : Dtor) (s : Session) : Session := { s with dtor := d }

/-- The finisher is engaged; `satisfied` says whether its promise is fulfilled. -/
@[simps] def setFinisher (satisfied : Bool) (s : Session) : Session :=
  { s with gracefulFinisher := some satisfied }

/-- The channel `ch` emits its hosing error through its on-error handler. -/
@[simps] def emitError (ch : MasterChannel) (e : Err) (s : Session) : Session :=
  { s with
    masterChannel := some { ch with hosed := true }
    queue := s.queue ++ [.masterChannelError ch.id e]
    log := s.log ++ [.channelError true e] }

/-- The channel `ch` emits its hosing error out of a call made on it. -/
@[simps] def failCall (ch : MasterChannel) (e : Err) (s : Session) : Session :=
  { s with
    masterChannel := some { ch with hosed := true }
    log := s.log ++ [.channelError false e] }

/-- A call on the channel.  Once hosed it refuses every call. -/
def call (r : Ret) (s : Session) : Outcome Failure (Called × Session) :=
  match s.masterChannel with
  | none => .failed .nullMasterChannel
  | some ch =>
    match ch.hosed, r with
    | true, .refused _ => .done (.refused, s)
    | true, _ => .disabled
    | false, .ok => .done (.ok ch.nextMsgId, s)
    | false, .refused e => .done (.refused, s.emitError ch e)
    | false, .failed e => .done (.failed e, s.failCall ch e)

/-- Put a message on the wire. -/
@[simps] def transmit (ch : MasterChannel) (m : Msg) (s : Session) : Session :=
  { s with
    masterChannel := some { ch with nextMsgId := ch.nextMsgId + 1 }
    outbox := s.outbox ++ [m]
    log := s.log ++ [.sent m] }

/-- `send()`, and the sending half of `sync_request()` and `async_request()`. -/
def send (rspTo : Option Nat) (hndl : Option NativeHandle) (body : Body) (r : Ret) (s : Session) :
    Outcome Failure (Called × Session) := do
  let (c, s) ← s.call r
  match c, s.masterChannel with
  | .ok id, some ch => return (c, s.transmit ch { id, rspTo, hndl, body })
  | _, _ => return (c, s)

/-- A call on the channel that has no error of its own to emit. -/
def callNoError (r : Ret) (s : Session) : Outcome Failure (Bool × Session) := do
  let (c, s) ← s.call r
  match c with
  | .ok _ => return (true, s)
  | .refused => return (false, s)
  | .failed _ => .disabled

/-- Register `h` with channel `ch` and flush what is cached for it. -/
@[simps] def flushTo (ch : MasterChannel) (h : OpenReqHandler) (s : Session) : Session :=
  { s with
    masterChannel := some { ch with
      openReqHandler := some h
      cached := ch.cached.filter (fun m => !ch.answers m.body) }
    queue := s.queue ++ (ch.cached.filter (fun m => ch.answers m.body)).map (h.task ch.id) }

/-- `expect_msgs(OPEN_CHANNEL_TO_…_REQ)`. -/
def expectOpenChannelReqs (h : OpenReqHandler) (r : Ret) (s : Session) :
    Outcome Failure (Bool × Session) := do
  let (ok, s) ← s.callNoError r
  match ok, s.masterChannel with
  | true, some ch => return (true, s.flushTo ch h)
  | _, _ => return (false, s)

/-- `undo_expect_msgs(OPEN_CHANNEL_TO_…_REQ)`. -/
def undoExpectOpenChannelReqs (r : Ret) (s : Session) : Outcome Failure (Bool × Session) := do
  let (ok, s) ← s.callNoError r
  match ok, s.masterChannel with
  | true, some ch => return (true, s.setChannel { ch with openReqHandler := none })
  | _, _ => return (false, s)

/-! ### What the channel does on its own -/

/-- An in-message that answers request `req` of ours. -/
def deliverRsp (ch : MasterChannel) (req : Nat) (m : Msg) (s : Session) : Session :=
  match ch.expectsLogInRsp with
  | some (id, attempt) =>
    if id = req then
      (s.setChannel { ch with expectsLogInRsp := none }).post (.logInRsp ch.id m attempt)
    else s
  | none =>
    match s.w with
    | .inSyncRequest k id none =>
      if id = req then s.setW (.inSyncRequest k id (some m)) else s
    | _ => s  -- nobody waits for it any more

/-- An in-message that answers nothing: to its handler, or to the cache. -/
def deliverUnsolicited (ch : MasterChannel) (m : Msg) (s : Session) : Session :=
  -- A message that nobody expects yet waits in the channel.
  let cache := s.setChannel { ch with cached := ch.cached ++ [m] }
  match m.body with
  | .logInReq _ =>
    if ch.expectsLogInReq then
      (s.setChannel { ch with expectsLogInReq := false }).post (.logInReq ch.id m)
    else cache
  | .gracefulSessionEnd =>
    if ch.expectsGracefulEnd then
      (s.setChannel { ch with expectsGracefulEnd := false }).post (.gracefulSessionEnd ch.id)
    else cache
  | b =>
    -- What is left are the requests for channels; the expectation is open-ended and stays.
    match ch.answers b, ch.openReqHandler with
    | true, some h => s.post (h.task ch.id m)
    | _, _ => cache

/-- Message `m` of the peer arrives.  A hosed channel runs no message handler. -/
def deliver (m : Msg) (s : Session) : Outcome Failure Session := do
  match s.masterChannel with
  | none => .disabled
  | some ch =>
    Outcome.require (!ch.hosed)
    match m.rspTo with
    | some req => return s.deliverRsp ch req m
    | none => return s.deliverUnsolicited ch m

/-- The channel finds an error on its own. -/
def channelError (e : Err) (s : Session) : Outcome Failure Session := do
  match s.masterChannel with
  | none => .disabled
  | some ch =>
    Outcome.require (!ch.hosed)
    return s.emitError ch e

/-- Thread W takes its next task. -/
def takeTask (s : Session) : Outcome Failure (Task × Session) := do
  Outcome.require (s.w = .idle)
  match s.queue with
  | [] => .disabled
  | t :: ts => return (t, { s with queue := ts })

/-- `mdt_builder()` returns `b` to the user, who keeps it under the name `call`. -/
@[simps] def giveBuilder (call : Nat) (b : Option Builder) (s : Session) : Session :=
  { s with
    builders := (call, b) :: s.builders
    log := s.log ++ [.mdtBuilderReturned call b.isSome] }

/-- Take the builder that the user holds under the name `call`. -/
def takeBuilder (call : Nat) (s : Session) : Outcome Failure (Option Builder × Session) :=
  match s.builders.find? (fun p => p.1 = call) with
  | none => .disabled
  | some (_, b) =>
    .done (b, { s with builders := s.builders.eraseP (fun p => p.1 = call) })

/-! ### What the calls can do -/

section Spec

variable {s s' : Session} {ch : MasterChannel} {r : Ret} {c : Called} {ok : Bool}
  {h : OpenReqHandler} {rspTo : Option Nat} {hndl : Option NativeHandle} {body : Body}

/-- The results of a call on channel `ch` that is given `r`. -/
inductive CallResult (s : Session) (ch : MasterChannel) : Ret → Called → Session → Prop
  | ok (hh : ch.hosed = false) : CallResult s ch .ok (.ok ch.nextMsgId) s
  | refusedOld (hh : ch.hosed = true) (e : Err) : CallResult s ch (.refused e) .refused s
  | refusedNew (hh : ch.hosed = false) (e : Err) :
      CallResult s ch (.refused e) .refused (s.emitError ch e)
  | failed (hh : ch.hosed = false) (e : Err) :
      CallResult s ch (.failed e) (.failed e) (s.failCall ch e)

/-- A call on the channel is one of the cases of `CallResult`. -/
theorem call_done (hd : s.call r = .done (c, s')) :
    ∃ ch, s.masterChannel = some ch ∧ CallResult s ch r c s' := by
  cases hm : s.masterChannel with
  | none => simp [call, hm] at hd
  | some ch =>
    refine ⟨ch, rfl, ?_⟩
    cases hh : ch.hosed <;> cases r <;> simp [call, hm, hh] at hd <;>
      obtain ⟨rfl, rfl⟩ := hd
    · exact .ok hh
    · exact .refusedNew hh _
    · exact .failed hh _
    · exact .refusedOld hh _

/-- The results of `send()` on channel `ch`. -/
inductive SendResult (s : Session) (ch : MasterChannel) (m : Nat → Msg) :
    Ret → Called → Session → Prop
  | ok (hh : ch.hosed = false) :
      SendResult s ch m .ok (.ok ch.nextMsgId) (s.transmit ch (m ch.nextMsgId))
  | refusedOld (hh : ch.hosed = true) (e : Err) : SendResult s ch m (.refused e) .refused s
  | refusedNew (hh : ch.hosed = false) (e : Err) :
      SendResult s ch m (.refused e) .refused (s.emitError ch e)
  | failed (hh : ch.hosed = false) (e : Err) :
      SendResult s ch m (.failed e) (.failed e) (s.failCall ch e)

/-- `send()` is one of the cases of `SendResult`. -/
theorem send_done (hd : s.send rspTo hndl body r = .done (c, s')) :
    ∃ ch, s.masterChannel = some ch ∧
      SendResult s ch (fun id => ⟨id, rspTo, hndl, body⟩) r c s' := by
  simp only [send, Outcome.bind_eq_done, Prod.exists] at hd
  obtain ⟨c₁, s₁, hc, hd⟩ := hd
  obtain ⟨ch, hm, hr⟩ := call_done hc
  refine ⟨ch, hm, ?_⟩
  cases hr with
  | ok hh => simp [hm] at hd; obtain ⟨rfl, rfl⟩ := hd; exact .ok hh
  | refusedOld hh e => simp at hd; obtain ⟨rfl, rfl⟩ := hd; exact .refusedOld hh e
  | refusedNew hh e => simp at hd; obtain ⟨rfl, rfl⟩ := hd; exact .refusedNew hh e
  | failed hh e => simp at hd; obtain ⟨rfl, rfl⟩ := hd; exact .failed hh e

/-- The results of a call that has no error of its own; `t` is the state if it works. -/
inductive NoErrorResult (s : Session) (ch : MasterChannel) (t : Session) :
    Bool → Session → Prop
  | ok (hh : ch.hosed = false) : NoErrorResult s ch t true t
  | refusedOld (hh : ch.hosed = true) : NoErrorResult s ch t false s
  | refusedNew (hh : ch.hosed = false) (e : Err) : NoErrorResult s ch t false (s.emitError ch e)

/-- A call that emits no error leaves the session as it found it, or as its effect says. -/
theorem callNoError_done (hd : s.callNoError r = .done (ok, s')) :
    ∃ ch, s.masterChannel = some ch ∧ NoErrorResult s ch s ok s' := by
  simp only [callNoError, Outcome.bind_eq_done, Prod.exists] at hd
  obtain ⟨c₁, s₁, hc, hd⟩ := hd
  obtain ⟨ch, hm, hr⟩ := call_done hc
  refine ⟨ch, hm, ?_⟩
  cases hr with
  | ok hh => simp at hd; obtain ⟨rfl, rfl⟩ := hd; exact .ok hh
  | refusedOld hh e => simp at hd; obtain ⟨rfl, rfl⟩ := hd; exact .refusedOld hh
  | refusedNew hh e => simp at hd; obtain ⟨rfl, rfl⟩ := hd; exact .refusedNew hh e
  | failed hh e => simp at hd

/-- `expect_msgs()` registers the handler, which the messages kept for it go to, or does nothing. -/
theorem expectOpenChannelReqs_done (hd : s.expectOpenChannelReqs h r = .done (ok, s')) :
    ∃ ch, s.masterChannel = some ch ∧ NoErrorResult s ch (s.flushTo ch h) ok s' := by
  simp only [expectOpenChannelReqs, Outcome.bind_eq_done, Prod.exists] at hd
  obtain ⟨ok₁, s₁, hc, hd⟩ := hd
  obtain ⟨ch, hm, hr⟩ := callNoError_done hc
  refine ⟨ch, hm, ?_⟩
  cases hr with
  | ok hh => simp [hm] at hd; obtain ⟨rfl, rfl⟩ := hd; exact .ok hh
  | refusedOld hh => simp at hd; obtain ⟨rfl, rfl⟩ := hd; exact .refusedOld hh
  | refusedNew hh e => simp at hd; obtain ⟨rfl, rfl⟩ := hd; exact .refusedNew hh e

/-- `undo_expect_msgs()` removes the handler, or does nothing. -/
theorem undoExpectOpenChannelReqs_done (hd : s.undoExpectOpenChannelReqs r = .done (ok, s')) :
    ∃ ch, s.masterChannel = some ch ∧
      NoErrorResult s ch (s.setChannel { ch with openReqHandler := none }) ok s' := by
  simp only [undoExpectOpenChannelReqs, Outcome.bind_eq_done, Prod.exists] at hd
  obtain ⟨ok₁, s₁, hc, hd⟩ := hd
  obtain ⟨ch, hm, hr⟩ := callNoError_done hc
  refine ⟨ch, hm, ?_⟩
  cases hr with
  | ok hh => simp [hm] at hd; obtain ⟨rfl, rfl⟩ := hd; exact .ok hh
  | refusedOld hh => simp at hd; obtain ⟨rfl, rfl⟩ := hd; exact .refusedOld hh
  | refusedNew hh e => simp at hd; obtain ⟨rfl, rfl⟩ := hd; exact .refusedNew hh e

/-- Such a call returns `true` only if the channel is fine with it. -/
theorem callNoError_true (hd : s.callNoError r = .done (true, s')) : r = .ok := by
  simp only [callNoError, Outcome.bind_eq_done, Prod.exists] at hd
  obtain ⟨c₁, s₁, hc, hd⟩ := hd
  obtain ⟨ch, -, hr⟩ := call_done hc
  cases hr with
  | ok => rfl
  | refusedOld => simp at hd
  | refusedNew => simp at hd
  | failed => simp at hd

/-- A handler is registered only if the channel is fine with it. -/
theorem expectOpenChannelReqs_true (hd : s.expectOpenChannelReqs h r = .done (true, s')) :
    r = .ok := by
  simp only [expectOpenChannelReqs, Outcome.bind_eq_done, Prod.exists] at hd
  obtain ⟨ok, s₁, hc, hd⟩ := hd
  cases ok with
  | true => exact callNoError_true hc
  | false => simp at hd

/-- A handler is removed only if the channel is fine with it. -/
theorem undoExpectOpenChannelReqs_true (hd : s.undoExpectOpenChannelReqs r = .done (true, s')) :
    r = .ok := by
  simp only [undoExpectOpenChannelReqs, Outcome.bind_eq_done, Prod.exists] at hd
  obtain ⟨ok, s₁, hc, hd⟩ := hd
  cases ok with
  | true => exact callNoError_true hc
  | false => simp at hd

/-- Only a channel that has not emitted its error yet can emit one. -/
theorem channelError_done {e : Err} (hd : s.channelError e = .done s') :
    ∃ ch, s.masterChannel = some ch ∧ ch.hosed = false ∧ s' = s.emitError ch e := by
  cases hm : s.masterChannel with
  | none => simp [channelError, hm] at hd
  | some ch =>
    simp [channelError, hm] at hd
    exact ⟨ch, rfl, hd.1, hd.2.symm⟩

/-- A message comes in as a response that is asked for, or unsolicited. -/
theorem deliver_done {m : Msg} (hd : s.deliver m = .done s') :
    ∃ ch, s.masterChannel = some ch ∧ ch.hosed = false ∧
      ((∃ req, m.rspTo = some req ∧ s' = s.deliverRsp ch req m) ∨
       (m.rspTo = none ∧ s' = s.deliverUnsolicited ch m)) := by
  cases hm : s.masterChannel with
  | none => simp [deliver, hm] at hd
  | some ch =>
    cases hr : m.rspTo with
    | none =>
      simp [deliver, hm, hr] at hd
      exact ⟨ch, rfl, hd.1, .inr ⟨rfl, hd.2.symm⟩⟩
    | some req =>
      simp [deliver, hm, hr] at hd
      exact ⟨ch, rfl, hd.1, .inl ⟨req, rfl, hd.2.symm⟩⟩

/-- Thread W takes the first task of its queue, when it is idle. -/
theorem takeTask_done {t : Task} (hd : s.takeTask = .done (t, s')) :
    s.w = .idle ∧ s.queue = t :: s'.queue ∧ s' = { s with queue := s'.queue } := by
  cases hq : s.queue with
  | nil => simp [takeTask, hq] at hd
  | cons t₁ ts =>
    simp [takeTask, hq] at hd
    obtain ⟨hw, rfl, rfl⟩ := hd
    exact ⟨hw, rfl, rfl⟩

/-- A builder is used up by the call that it is given to. -/
theorem takeBuilder_done {call : Nat} {b : Option Builder}
    (hd : s.takeBuilder call = .done (b, s')) :
    (∃ k, (k, b) ∈ s.builders) ∧
      s' = { s with builders := s.builders.eraseP (fun p => p.1 = call) } := by
  cases hf : s.builders.find? (fun p => p.1 = call) with
  | none => simp [takeBuilder, hf] at hd
  | some p =>
    obtain ⟨k, b₁⟩ := p
    simp [takeBuilder, hf] at hd
    obtain ⟨rfl, rfl⟩ := hd
    exact ⟨⟨k, List.mem_of_find?_eq_some hf⟩, rfl⟩

end Spec

end Session

end IpcSession
