import IpcSession.Base.Session

namespace IpcSession

/-!
# The code that both sides of a session run alike

`Session_base` (`set_srv_namespace()`, `hose()`, `Graceful_finisher`, …) and the parts of
`open_channel()`, `on_master_channel_open_channel_req()`, `on_master_channel_error()` and
`dtor_async_worker_stop()` that `Client_session_impl` and `Server_session_impl` spell out twice.
What differs is passed in: whether the side is in PEER state, what it reads out of a response,
what it prepares for one.
-/

namespace Session

/-! ### `Session_base` -/

/-- Take over the server namespace. -/
@[simps] def putSrvNamespace (name : SharedName) (s : Session) : Session :=
  { s with srvNamespace := name }

/-- Take over the client namespace. -/
@[simps] def putCliNamespace (name : SharedName) (s : Session) : Session :=
  { s with cliNamespace := name }

/-- `set_srv_namespace()`. -/
def setSrvNamespace (srvNamespaceNew : SharedName) (s : Session) : Outcome Failure Session := do
  Outcome.check .setSrvNamespace (srvNamespaceNew ≠ [])
  Outcome.check .setSrvNamespace (srvNamespaceNew ≠ SharedName.sentinel)
  Outcome.check .setSrvNamespace (s.srvNamespace = [])
  return s.putSrvNamespace srvNamespaceNew

/-- `set_cli_namespace()`. -/
def setCliNamespace (cliNamespaceNew : SharedName) (s : Session) : Outcome Failure Session := do
  Outcome.check .setCliNamespace (cliNamespaceNew ≠ [])
  Outcome.check .setCliNamespace (cliNamespaceNew ≠ SharedName.sentinel)
  Outcome.check .setCliNamespace (s.cliNamespace = [])
  return s.putCliNamespace cliNamespaceNew

/-- `hosed()`. -/
def hosed (s : Session) : Outcome Failure Bool := do
  Outcome.check .hosedBeforePeer s.onErrFuncSet
  return s.peerStateErrCodeOrOk.isSome

/-- Remember the error and run the on-error handler. -/
@[simps] def emitHosed (e : Err) (site : HoseSite) (s : Session) : Session :=
  { s with peerStateErrCodeOrOk := some e, log := s.log ++ [.onErr e site] }

/-- `hose()`. -/
def hose (e : Err) (site : HoseSite) (s : Session) : Outcome Failure Session := do
  let hosed ← s.hosed
  Outcome.check .hoseTwice (!hosed)
  return s.emitHosed e site

/-- `if (!hosed()) { hose(err_code); }`. -/
def hoseIfNot (e : Err) (site : HoseSite) (s : Session) : Outcome Failure Session := do
  let hosed ← s.hosed
  if hosed then return s else s.hose e site

/-- The nickname of the next channel of its kind; the counters are `unsigned int`. -/
def nextNickname (active : Bool) (s : Session) : Nickname × Session :=
  if active then
    let id := (s.lastActivelyOpenedChannelId + 1) % 2 ^ 32
    (⟨true, id⟩, { s with lastActivelyOpenedChannelId := id })
  else
    let id := (s.lastPassivelyOpenedChannelId + 1) % 2 ^ 32
    (⟨false, id⟩, { s with lastPassivelyOpenedChannelId := id })

/-! ### `Graceful_finisher` -/

/-- The constructor: expect the peer's `GracefulSessionEnd`, which may be cached already. -/
def emplaceGracefulFinisher (r : Ret) (s : Session) : Outcome Failure Session := do
  let (ok, s) ← s.callNoError r
  let s := s.setFinisher false
  match ok, s.masterChannel with
  | true, some ch =>
    if ch.cached.any (fun m => m.body = .gracefulSessionEnd) then
      return (s.setChannel { ch with
        cached := ch.cached.eraseP (fun m => m.body = .gracefulSessionEnd) }).post
          (.gracefulSessionEnd ch.id)
    else return s.setChannel { ch with expectsGracefulEnd := true }
  | _, _ => return s

/-- The thread-W half of the handler of `GracefulSessionEnd`. -/
def onGracefulSessionEnd (s : Session) : Outcome Failure Session := do
  match s.gracefulFinisher with
  | none => .failed .finisherNotEngaged
  | some satisfied =>
    Outcome.check .promiseAlreadySatisfied (!satisfied)
    (s.setFinisher true).hoseIfNot .sessionFinished .gracefulSessionEnd

/-- `Graceful_finisher::on_master_channel_hosed()`. -/
def onMasterChannelHosed (s : Session) : Outcome Failure Session :=
  match s.gracefulFinisher with
  | none => .failed .finisherNotEngaged
  | some _ => .done (s.setFinisher true)

/-! ### `on_master_channel_error()` in PEER state -/

/-- The part of `on_master_channel_error()` that is for PEER state. -/
def onMasterChannelErrorPeer (cfg : Cfg) (e : Err) (s : Session) : Outcome Failure Session := do
  let s ← s.hoseIfNot e .masterChannelError
  if cfg.gracefulFinishRequired then s.onMasterChannelHosed else return s

/-! ### `open_channel()` -/

/-- `open_channel()` returns. -/
@[simps] def returned (call : Nat) (req : Option Nat) (ret : Bool) (err : ErrorCode)
    (target : Option ChannelObj) (s : Session) : Session :=
  { s with log := s.log ++ [.openChannelReturned call req ret err target] }

/-- `sync_request()` of `open_channel()` has emitted an error: a time-out is reported to the
    caller, anything else hoses the session. -/
def openChannelSyncError (call : Nat) (req : Option Nat) (e : Err) (s : Session) :
    Outcome Failure Session := do
  if e = .transportTimeout then
    return s.returned call req true (some .sessionOpenChannelActiveTimeout) none
  else
    let s ← s.hose e .openChannel
    return s.returned call req false none none

/-- The thread-W body of `open_channel()`, up to where `sync_request()` waits. -/
def openChannelBody (inPeer : Bool) (call : Nat) (b : Builder) (r : Ret) (s : Session) :
    Outcome Failure Session := do
  Outcome.check .badState inPeer
  -- A session that is hosed already refuses the call, without a code.
  let hosed ← s.hosed
  if hosed then return s.returned call none false none none
  Outcome.check .badBuilder (!b.forLogIn)
  -- Sending never times out; only the wait for the response does.
  Outcome.require (r ≠ .failed .transportTimeout)
  let (c, s) ← s.send none b.hndl b.body r
  match c with
  | .ok req => return s.setW (.inSyncRequest (.openChannel call b.openedChannel) req none)
  | .refused => return s.returned call none false none none
  | .failed e => s.openChannelSyncError call none e

/-- How `sync_request()` ends. -/
inductive SyncRes where
  | response
  | timeout
  /-- It returns null, and the channel's on-error handler has the error. -/
  | refused (e : Err)
  /-- It emits the channel-hosing error itself. -/
  | failed (e : Err)
  deriving DecidableEq, Repr

/-- Thread W returns from a `sync_request()` that was not answered. -/
def syncReturnNoResponse (r : SyncRes) (rsp : Option Msg) (s : Session) :
    Outcome Failure (Option Err × Session) := do
  Outcome.require rsp.isNone
  let s := s.setW .idle
  match r with
  | .response => .disabled
  -- The channel is unharmed by a timeout: the code is sync_request()'s own.
  | .timeout => return (some .transportTimeout, s)
  -- Null without a code: the channel's error handler has it or will have it.
  | .refused e =>
    let (_, s) ← s.callNoError (.refused e)
    return (none, s)
  | .failed e =>
    Outcome.require (e ≠ .transportTimeout)
    let (c, s) ← s.call (.failed e)
    match c with
    | .failed e => return (some e, s)
    | _ => .disabled

/-- `open_channel()` after its `sync_request()`; `onRsp` is what it does with a response. -/
def openChannelSyncReturn (onRsp : Msg → Session → Outcome Failure Session) (call req : Nat)
    (rsp : Option Msg) (r : SyncRes) (s : Session) : Outcome Failure Session := do
  match rsp, r with
  | some m, .response => onRsp m (s.setW .idle)
  | _, _ =>
    let (e, s) ← s.syncReturnNoResponse r rsp
    match e with
    | none => return s.returned call (some req) false none none
    | some e => s.openChannelSyncError call (some req) e

/-! ### `on_master_channel_open_channel_req()` -/

/-- What a side has ready for its response to request `req`. -/
structure Prepared where
  result : OpenChannelResult
  opened : Option ChannelObj
  hndl : Option NativeHandle
  rsp : Body
  deriving DecidableEq, Repr

/-- Respond to request `m` and, if it is accepted, run the passive-open handler. -/
def openChannelReqRespond (m : Msg) (p : Prepared) (r : Ret) (s : Session) :
    Outcome Failure Session := do
  let (c, s) ← s.send (some m.id) p.hndl p.rsp r
  match c with
  | .refused => return s
  | .failed e => s.hose e .openChannelReq
  | .ok _ =>
    if p.result = .accepted then return s.record (.passiveOpen m.id p.opened m.body.mdt)
    else return s

/-! ### The accessors -/

/-- `session_token()`: nil or not; the assertion is about the channel. -/
def sessionToken (s : Session) : Outcome Failure Session := do
  let hosed ← s.hosed
  if hosed then return s.record (.sessionTokenReturned true)
  Outcome.check .nullMasterChannel s.masterChannel.isSome
  return s.record (.sessionTokenReturned false)

/-! ### The destructor -/

/-- The destructor starts. -/
def dtorStart (cfg : Cfg) (s : Session) : Outcome Failure Session := do
  Outcome.require (s.dtor = .notStarted)
  if cfg.gracefulFinishRequired then
    return (s.post .dtorFinisherQuery).setDtor .querying
  else
    return (s.post .dtorFlush).setDtor .flushing

/-- Thread W looks up the finisher. -/
def dtorFinisherQuery (s : Session) : Session :=
  s.setDtor (.queried s.gracefulFinisher.isSome)

/-- The thread-W half of `on_dtor_start()`, a method of the finisher: the result of the `send()` is
    ignored. -/
def dtorSendEnd (r : Ret) (s : Session) : Outcome Failure Session := do
  Outcome.check .finisherNotEngaged s.gracefulFinisher.isSome
  let (_, s) ← s.send none none .gracefulSessionEnd r
  return s.setDtor .awaitingPeer

/-- Thread W starts the final flush; `willRun` says whether `async_end_sending()` will run its
    handler. -/
def dtorFlush (willRun : Bool) (s : Session) : Session :=
  match s.masterChannel with
  | none => s.setDtor .flushed
  | some _ => s.setW (.flushing willRun)

/-- The handler of `async_end_sending()` runs, and thread W is released. -/
def dtorFlushDone (s : Session) : Outcome Failure Session := do
  Outcome.require (s.w = .flushing true)
  return (s.setW .idle).setDtor .flushed

/-- Thread U goes on in the destructor. -/
def dtorStep (s : Session) : Outcome Failure Session := do
  match s.dtor with
  | .queried true => return (s.post .dtorSendEnd).setDtor .sendingEnd
  | .queried false => return (s.post .dtorFlush).setDtor .flushing
  | .awaitingPeer =>
    Outcome.require (s.gracefulFinisher = some true)
    return (s.post .dtorFlush).setDtor .flushing
  | .flushed =>
    Outcome.require (s.w = .idle)
    return (s.setW .stopped).setDtor .stopped
  | _ => .disabled

/-! ### What these functions can do -/

section Spec

variable {s s' : Session} {cfg : Cfg} {e : Err} {site : HoseSite} {r : Ret} {b : Builder}
  {call req : Nat}

/-- `hosed()` asserts that the on-error handler is set, and says whether the session has got an
    error. -/
theorem hosed_done {h : Bool} (hd : s.hosed = .done h) :
    s.onErrFuncSet = true ∧ h = s.peerStateErrCodeOrOk.isSome := by
  simp [hosed] at hd
  exact ⟨hd.1, hd.2.symm⟩

/-- `set_srv_namespace()` sets the namespace once, to what a namespace can be. -/
theorem setSrvNamespace_done {name : SharedName} (hd : s.setSrvNamespace name = .done s') :
    name ≠ [] ∧ name ≠ SharedName.sentinel ∧ s.srvNamespace = [] ∧ s' = s.putSrvNamespace name := by
  simp [setSrvNamespace] at hd
  exact ⟨hd.1, hd.2.1, hd.2.2.1, hd.2.2.2.symm⟩

/-- `set_cli_namespace()` sets the namespace once, to what a namespace can be. -/
theorem setCliNamespace_done {name : SharedName} (hd : s.setCliNamespace name = .done s') :
    name ≠ [] ∧ name ≠ SharedName.sentinel ∧ s.cliNamespace = [] ∧ s' = s.putCliNamespace name := by
  simp [setCliNamespace] at hd
  exact ⟨hd.1, hd.2.1, hd.2.2.1, hd.2.2.2.symm⟩

/-- `hose()` reports the first error, and is not to be called for another. -/
theorem hose_done (hd : s.hose e site = .done s') :
    s.onErrFuncSet = true ∧ s.peerStateErrCodeOrOk = none ∧ s' = s.emitHosed e site := by
  simp only [hose, Outcome.bind_eq_done] at hd
  obtain ⟨h, hh, _, hc, hd⟩ := hd
  obtain ⟨hs, rfl⟩ := hosed_done hh
  simp at hc hd
  exact ⟨hs, hc, hd.symm⟩

/-- An error after the first is dropped. -/
theorem hoseIfNot_done (hd : s.hoseIfNot e site = .done s') :
    s.onErrFuncSet = true ∧
      ((s.peerStateErrCodeOrOk.isSome = true ∧ s' = s) ∨
        (s.peerStateErrCodeOrOk = none ∧ s' = s.emitHosed e site)) := by
  simp only [hoseIfNot, Outcome.bind_eq_done] at hd
  obtain ⟨h, hh, hd⟩ := hd
  obtain ⟨hs, rfl⟩ := hosed_done hh
  cases hp : s.peerStateErrCodeOrOk with
  | some e' => simp [hp] at hd; exact ⟨hs, .inl ⟨rfl, hd.symm⟩⟩
  | none =>
    simp [hp] at hd
    obtain ⟨-, -, rfl⟩ := hose_done hd
    exact ⟨hs, .inr ⟨rfl, rfl⟩⟩

/-- The results of `Graceful_finisher`'s constructor. -/
inductive FinisherResult (s : Session) (ch : MasterChannel) : Session → Prop
  | cached (hh : ch.hosed = false) (hc : ch.cached.any (fun m => m.body = .gracefulSessionEnd)) :
      FinisherResult s ch
        (((s.setFinisher false).setChannel { ch with
          cached := ch.cached.eraseP (fun m => m.body = .gracefulSessionEnd) }).post
            (.gracefulSessionEnd ch.id))
  | expected (hh : ch.hosed = false)
      (hc : ch.cached.any (fun m => m.body = .gracefulSessionEnd) = false) :
      FinisherResult s ch
        ((s.setFinisher false).setChannel
          { ch with expectsGracefulEnd := true })
  | refusedOld (hh : ch.hosed = true) :
      FinisherResult s ch (s.setFinisher false)
  | refusedNew (hh : ch.hosed = false) (e : Err) :
      FinisherResult s ch ((s.emitError ch e).setFinisher false)

/-- Engaging the finisher is one of the cases of `FinisherResult`. -/
theorem emplaceGracefulFinisher_done (hd : s.emplaceGracefulFinisher r = .done s') :
    ∃ ch, s.masterChannel = some ch ∧ FinisherResult s ch s' := by
  simp only [emplaceGracefulFinisher, Outcome.bind_eq_done, Prod.exists] at hd
  obtain ⟨ok, s₁, hc, hd⟩ := hd
  obtain ⟨ch, hm, hr⟩ := callNoError_done hc
  refine ⟨ch, hm, ?_⟩
  cases hr with
  | ok hh =>
    simp only [setFinisher_masterChannel, hm] at hd
    cases hc : ch.cached.any (fun m => m.body = .gracefulSessionEnd) with
    | true => simp only [hc, if_true] at hd; cases hd; exact .cached hh hc
    | false => simp only [hc, Bool.false_eq_true, if_false] at hd; cases hd; exact .expected hh hc
  | refusedOld hh => simp at hd; subst hd; exact .refusedOld hh
  | refusedNew hh e => simp at hd; subst hd; exact .refusedNew hh e

/-- The peer's `GracefulSessionEnd` fulfils the promise, once, and hoses the session if nothing has
    yet. -/
theorem onGracefulSessionEnd_done (hd : s.onGracefulSessionEnd = .done s') :
    s.gracefulFinisher = some false ∧ s.onErrFuncSet = true ∧
      ((s.peerStateErrCodeOrOk.isSome = true ∧ s' = s.setFinisher true) ∨
        (s.peerStateErrCodeOrOk = none ∧ s' =
          (s.setFinisher true).emitHosed
            .sessionFinished .gracefulSessionEnd)) := by
  simp only [onGracefulSessionEnd] at hd
  split at hd
  · cases hd
  · rename_i satisfied hg
    simp only [Outcome.bind_eq_done, Outcome.check_eq_done] at hd
    obtain ⟨-, hsat, hd⟩ := hd
    simp at hsat
    subst hsat
    obtain ⟨hs, hd⟩ := hoseIfNot_done hd
    exact ⟨hg, hs, hd⟩

/-- The finisher is told of the error only if there is one engaged. -/
theorem onMasterChannelHosed_done (hd : s.onMasterChannelHosed = .done s') :
    s.gracefulFinisher.isSome = true ∧ s' = s.setFinisher true := by
  simp only [onMasterChannelHosed] at hd
  split at hd
  · cases hd
  · simp at hd
    exact ⟨by simp [*], hd.symm⟩

/-- The results of `on_master_channel_error()` in PEER state. -/
theorem onMasterChannelErrorPeer_done (hd : s.onMasterChannelErrorPeer cfg e = .done s') :
    ∃ s₁, ((s.peerStateErrCodeOrOk.isSome = true ∧ s₁ = s) ∨
        (s.peerStateErrCodeOrOk = none ∧ s₁ = s.emitHosed e .masterChannelError)) ∧
      ((cfg.gracefulFinishRequired = true ∧ s.gracefulFinisher.isSome = true ∧
          s' = s₁.setFinisher true) ∨
        (cfg.gracefulFinishRequired = false ∧ s' = s₁)) := by
  simp only [onMasterChannelErrorPeer, Outcome.bind_eq_done] at hd
  obtain ⟨s₁, h₁, hd⟩ := hd
  obtain ⟨-, h₁⟩ := hoseIfNot_done h₁
  refine ⟨s₁, h₁, ?_⟩
  cases hg : cfg.gracefulFinishRequired with
  | false => simp [hg] at hd; exact .inr ⟨rfl, hd.symm⟩
  | true =>
    simp [hg] at hd
    obtain ⟨hf, rfl⟩ := onMasterChannelHosed_done hd
    refine .inl ⟨rfl, ?_, rfl⟩
    rcases h₁ with ⟨-, rfl⟩ | ⟨-, rfl⟩ <;> exact hf

/-- The results of an error out of the `sync_request()` of `open_channel()`. -/
theorem openChannelSyncError_done {req : Option Nat}
    (hd : s.openChannelSyncError call req e = .done s') :
    (e = .transportTimeout ∧
        s' = s.returned call req true (some .sessionOpenChannelActiveTimeout) none) ∨
      (e ≠ .transportTimeout ∧ (s.onErrFuncSet = true ∧ s.peerStateErrCodeOrOk = none) ∧
        s' = (s.emitHosed e .openChannel).returned call req false none none) := by
  simp only [openChannelSyncError] at hd
  split at hd
  · simp at hd; exact .inl ⟨‹_›, hd.symm⟩
  · simp only [Outcome.bind_eq_done] at hd
    obtain ⟨s₁, h₁, hd⟩ := hd
    obtain ⟨hs, hp, rfl⟩ := hose_done h₁
    simp at hd
    exact .inr ⟨‹_›, ⟨hs, hp⟩, hd.symm⟩

/-- The results of the thread-W body of `open_channel()`, up to where `sync_request()` waits. -/
inductive OpenChannelBodyResult (s : Session) (call : Nat) (b : Builder) : Ret → Session → Prop
  | hosed (hp : s.peerStateErrCodeOrOk.isSome = true) (r : Ret) :
      OpenChannelBodyResult s call b r (s.returned call none false none none)
  | sent (hp : s.peerStateErrCodeOrOk = none) (ch : MasterChannel)
      (hm : s.masterChannel = some ch) (hh : ch.hosed = false) :
      OpenChannelBodyResult s call b .ok
        ((s.transmit ch ⟨ch.nextMsgId, none, b.hndl, b.body⟩).setW
          (.inSyncRequest (.openChannel call b.openedChannel) ch.nextMsgId none))
  | refusedOld (hp : s.peerStateErrCodeOrOk = none) (ch : MasterChannel)
      (hm : s.masterChannel = some ch) (hh : ch.hosed = true) (e : Err) :
      OpenChannelBodyResult s call b (.refused e) (s.returned call none false none none)
  | refusedNew (hp : s.peerStateErrCodeOrOk = none) (ch : MasterChannel)
      (hm : s.masterChannel = some ch) (hh : ch.hosed = false) (e : Err) :
      OpenChannelBodyResult s call b (.refused e)
        ((s.emitError ch e).returned call none false none none)
  | failed (hp : s.peerStateErrCodeOrOk = none) (ch : MasterChannel)
      (hm : s.masterChannel = some ch) (hh : ch.hosed = false) (e : Err) :
      OpenChannelBodyResult s call b (.failed e)
        (((s.failCall ch e).emitHosed e .openChannel).returned call none false none none)

/-- Thread W's part of `open_channel()` is one of the cases of `OpenChannelBodyResult`. -/
theorem openChannelBody_done {inPeer : Bool}
    (hd : s.openChannelBody inPeer call b r = .done s') :
    inPeer = true ∧ s.onErrFuncSet = true ∧ OpenChannelBodyResult s call b r s' := by
  simp only [openChannelBody, Outcome.bind_eq_done, Outcome.check_eq_done] at hd
  obtain ⟨-, hin, h, hh, hd⟩ := hd
  obtain ⟨hs, rfl⟩ := hosed_done hh
  refine ⟨hin, hs, ?_⟩
  cases hp : s.peerStateErrCodeOrOk with
  | some e => simp [hp] at hd; subst hd; exact .hosed (by simp [hp]) r
  | none =>
    simp only [hp, Option.isSome_none, Bool.false_eq_true, if_false, Outcome.bind_eq_done,
      Outcome.check_eq_done, Outcome.require_eq_done, Prod.exists] at hd
    obtain ⟨-, -, -, hr, c, s₁, hc, hd⟩ := hd
    obtain ⟨ch, hm, hc⟩ := send_done hc
    cases hc with
    | ok hh => simp at hd; subst hd; exact .sent hp ch hm hh
    | refusedOld hh e => simp at hd; subst hd; exact .refusedOld hp ch hm hh e
    | refusedNew hh e => simp at hd; subst hd; exact .refusedNew hp ch hm hh e
    | failed hh e =>
      have he : e ≠ .transportTimeout := by simpa using hr
      rcases openChannelSyncError_done hd with ⟨h, -⟩ | ⟨-, -, rfl⟩
      · exact absurd h he
      · exact .failed hp ch hm hh e

/-- The results of a `sync_request()` of `open_channel()` that was not answered. -/
inductive NoResponseResult (s : Session) (call req : Nat) : SyncRes → Session → Prop
  | timeout : NoResponseResult s call req .timeout
      ((s.setW .idle).returned call (some req) true
        (some .sessionOpenChannelActiveTimeout) none)
  | refusedOld (ch : MasterChannel) (hm : s.masterChannel = some ch) (hh : ch.hosed = true)
      (e : Err) : NoResponseResult s call req (.refused e)
        ((s.setW .idle).returned call (some req) false none none)
  | refusedNew (ch : MasterChannel) (hm : s.masterChannel = some ch) (hh : ch.hosed = false)
      (e : Err) : NoResponseResult s call req (.refused e)
        (((s.setW .idle).emitError ch e).returned
          call (some req) false none none)
  | failed (ch : MasterChannel) (hm : s.masterChannel = some ch) (hh : ch.hosed = false)
      (hp : s.onErrFuncSet = true ∧ s.peerStateErrCodeOrOk = none) (e : Err) :
      NoResponseResult s call req (.failed e)
        ((((s.setW .idle).failCall ch e).emitHosed e .openChannel).returned
          call (some req) false none none)

/-- How an unanswered `sync_request()` returns. -/
inductive SyncNoResponse (s : Session) : SyncRes → Option Err → Session → Prop
  | timeout : SyncNoResponse s .timeout (some .transportTimeout) (s.setW .idle)
  | refusedOld (ch : MasterChannel) (hm : s.masterChannel = some ch) (hh : ch.hosed = true)
      (e : Err) : SyncNoResponse s (.refused e) none (s.setW .idle)
  | refusedNew (ch : MasterChannel) (hm : s.masterChannel = some ch) (hh : ch.hosed = false)
      (e : Err) :
      SyncNoResponse s (.refused e) none ((s.setW .idle).emitError ch e)
  | failed (ch : MasterChannel) (hm : s.masterChannel = some ch) (hh : ch.hosed = false)
      (e : Err) (he : e ≠ .transportTimeout) :
      SyncNoResponse s (.failed e) (some e) ((s.setW .idle).failCall ch e)

/-- A `sync_request()` without a response is one of the cases of `SyncNoResponse`. -/
theorem syncReturnNoResponse_done {r : SyncRes} {rsp : Option Msg} {e : Option Err}
    (hd : s.syncReturnNoResponse r rsp = .done (e, s')) :
    rsp = none ∧ SyncNoResponse s r e s' := by
  simp only [syncReturnNoResponse, Outcome.bind_eq_done, Outcome.require_eq_done] at hd
  obtain ⟨-, hrsp, hd⟩ := hd
  refine ⟨by simpa using hrsp, ?_⟩
  cases r with
  | response => simp at hd
  | timeout => simp at hd; obtain ⟨rfl, rfl⟩ := hd; exact .timeout
  | refused e' =>
    simp only [Outcome.bind_eq_done, Prod.exists] at hd
    obtain ⟨ok, s₁, hc, hd⟩ := hd
    simp at hd
    obtain ⟨rfl, rfl⟩ := hd
    simp only [callNoError, Outcome.bind_eq_done, Prod.exists] at hc
    obtain ⟨c, s₁, hc, hd⟩ := hc
    obtain ⟨ch, hm, hr⟩ := call_done hc
    have hm : s.masterChannel = some ch := hm
    cases hr with
    | refusedOld hh => simp at hd; obtain ⟨-, rfl⟩ := hd; exact .refusedOld ch hm hh e'
    | refusedNew hh => simp at hd; obtain ⟨-, rfl⟩ := hd; exact .refusedNew ch hm hh e'
  | failed e' =>
    simp only [Outcome.bind_eq_done, Outcome.require_eq_done, Prod.exists] at hd
    obtain ⟨-, he, c, s₁, hc, hd⟩ := hd
    obtain ⟨ch, hm, hr⟩ := call_done hc
    have hm : s.masterChannel = some ch := hm
    cases hr with
    | failed hh =>
      simp at hd
      obtain ⟨rfl, rfl⟩ := hd
      exact .failed ch hm hh e' (by simpa using he)

/-- `open_channel()` returns from its `sync_request()`: with a response, or without one. -/
theorem openChannelSyncReturn_done {onRsp : Msg → Session → Outcome Failure Session}
    {rsp : Option Msg} {r : SyncRes}
    (hd : s.openChannelSyncReturn onRsp call req rsp r = .done s') :
    (∃ m, rsp = some m ∧ r = .response ∧ onRsp m (s.setW .idle) = .done s') ∨
      (rsp = none ∧ NoResponseResult s call req r s') := by
  have key : ∀ hd : (s.syncReturnNoResponse r rsp >>= fun (e, s) => match e with
      | none => return s.returned call (some req) false none none
      | some e => s.openChannelSyncError call (some req) e) = .done s',
      rsp = none ∧ NoResponseResult s call req r s' := by
    intro hd
    simp only [Outcome.bind_eq_done, Prod.exists] at hd
    obtain ⟨e, s₁, hc, hd⟩ := hd
    obtain ⟨hrsp, hc⟩ := syncReturnNoResponse_done hc
    refine ⟨hrsp, ?_⟩
    cases hc with
    | timeout => simp [openChannelSyncError] at hd; subst hd; exact .timeout
    | refusedOld ch hm hh e => simp at hd; subst hd; exact .refusedOld ch hm hh e
    | refusedNew ch hm hh e => simp at hd; subst hd; exact .refusedNew ch hm hh e
    | failed ch hm hh e he =>
      rcases openChannelSyncError_done hd with ⟨h, -⟩ | ⟨-, hp, rfl⟩
      · exact absurd h he
      · exact .failed ch hm hh hp e
  cases rsp with
  | none => exact .inr (key (by cases r <;> exact hd))
  | some m =>
    cases r with
    | response => exact .inl ⟨m, rfl, rfl, hd⟩
    | timeout => exact .inr (key hd)
    | refused e => exact .inr (key hd)
    | failed e => exact .inr (key hd)

/-- The results of responding to request `m`. -/
inductive RespondResult (s : Session) (m : Msg) (p : Prepared) (ch : MasterChannel) :
    Ret → Session → Prop
  | accepted (hh : ch.hosed = false) (ha : p.result = .accepted) :
      RespondResult s m p ch .ok
        ((s.transmit ch ⟨ch.nextMsgId, some m.id, p.hndl, p.rsp⟩).record
          (.passiveOpen m.id p.opened m.body.mdt))
  | rejected (hh : ch.hosed = false) (ha : p.result ≠ .accepted) :
      RespondResult s m p ch .ok (s.transmit ch ⟨ch.nextMsgId, some m.id, p.hndl, p.rsp⟩)
  | refusedOld (hh : ch.hosed = true) (e : Err) : RespondResult s m p ch (.refused e) s
  | refusedNew (hh : ch.hosed = false) (e : Err) :
      RespondResult s m p ch (.refused e) (s.emitError ch e)
  | failed (hh : ch.hosed = false) (hp : s.onErrFuncSet = true ∧ s.peerStateErrCodeOrOk = none)
      (e : Err) :
      RespondResult s m p ch (.failed e) ((s.failCall ch e).emitHosed e .openChannelReq)

/-- The answer to the peer's request is one of the cases of `RespondResult`. -/
theorem openChannelReqRespond_done {m : Msg} {p : Prepared}
    (hd : s.openChannelReqRespond m p r = .done s') :
    ∃ ch, s.masterChannel = some ch ∧ RespondResult s m p ch r s' := by
  simp only [openChannelReqRespond, Outcome.bind_eq_done, Prod.exists] at hd
  obtain ⟨c, s₁, hc, hd⟩ := hd
  obtain ⟨ch, hm, hc⟩ := send_done hc
  refine ⟨ch, hm, ?_⟩
  cases hc with
  | ok hh =>
    by_cases ha : p.result = .accepted
    · simp [ha] at hd; subst hd; exact .accepted hh ha
    · simp [ha] at hd; subst hd; exact .rejected hh ha
  | refusedOld hh e => simp at hd; subst hd; exact .refusedOld hh e
  | refusedNew hh e => simp at hd; subst hd; exact .refusedNew hh e
  | failed hh e =>
    obtain ⟨hs, hp, rfl⟩ := hose_done hd
    have hp : s.onErrFuncSet = true ∧ s.peerStateErrCodeOrOk = none := ⟨hs, hp⟩
    exact .failed hh hp e

/-- The destructor's `GracefulSessionEnd` is sent on the channel as any other message. -/
theorem dtorSendEnd_done (hd : s.dtorSendEnd r = .done s') :
    ∃ ch c s₁, s.masterChannel = some ch ∧ s.gracefulFinisher.isSome = true ∧
      SendResult s ch (fun id => ⟨id, none, none, .gracefulSessionEnd⟩) r c s₁ ∧
      s' = s₁.setDtor .awaitingPeer := by
  simp only [dtorSendEnd, Outcome.bind_eq_done, Outcome.check_eq_done, Prod.exists] at hd
  obtain ⟨-, hf, c, s₁, hc, hd⟩ := hd
  obtain ⟨ch, hm, hc⟩ := send_done hc
  simp at hd
  exact ⟨ch, c, s₁, hm, hf, hc, hd.symm⟩

/-- `session_token()` returns, and does nothing else. -/
theorem sessionToken_done (hd : s.sessionToken = .done s') :
    ∃ nil, s' = s.record (.sessionTokenReturned nil) := by
  simp only [sessionToken, Outcome.bind_eq_done] at hd
  obtain ⟨h, -, hd⟩ := hd
  cases h with
  | true => simp at hd; exact ⟨true, hd.symm⟩
  | false => simp at hd; exact ⟨false, hd.2.symm⟩

end Spec

end Session

end IpcSession
