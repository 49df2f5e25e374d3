import IpcSession.Client.Model

namespace IpcSession

/-!
# `Server_session_impl`

The server has no state variable: while the log-in is outstanding `m_log_in_on_done_func` is
non-empty, in almost-PEER state it is empty and no handlers are set, in PEER state they are set.

* `Server.acceptLogIn`, `onLogInReq`, `initChannelsLoop` — `async_accept_log_in()`, from the first
  task of thread W to the last init-channel.
* `Server.initHandlers` — the user's way from almost-PEER to PEER state.
* `Server.createChannelAndResources` — the resources of a channel, which only the server makes.
* `Server.mdtBuilder`, `openChannel`, `onMasterChannelOpenChannelReq`, `onMasterChannelError` —
  PEER state.
* `Server.step` — one step of any of the threads involved.
-/

/-- `Server_session_impl`, with what `async_accept_log_in()` captures. -/
structure Server extends Session where
  /-- `m_log_in_on_done_func` is non-empty. -/
  logInOnDoneFuncSet : Bool
  preInitErrCode : ErrorCode
  lastChannelMqId : Nat
  cliAppPtr : Option ClientApp
  protocolNegotiator : Option Int
  protocolNegotiatorAux : Option Int
  /-- The credentials of the opposing process as the OS reports them, and its invoked-as name. -/
  osProcCreds : ProcessCredentials
  osProcInvokedAs : List Char
  /-- The user's variables that the out-arguments of `async_accept()` point to. -/
  out : OutArgs
  /-- The handler has handed the session to the user. -/
  accepted : Bool
  /-- The number of socket pairs made so far; names the next one. -/
  nextPair : Nat
  deriving DecidableEq, Repr

/-- What the environment decides while the resources of one channel are made. -/
structure ResourceOracle where
  mqC2s : ErrorCode := none
  mqS2c : ErrorCode := none
  connectPair : ErrorCode := none
  /-- Asking the master channel for the credentials of the opposing process; this can fail once the
      channel has got an error, be its report still queued. -/
  peerCreds : ErrorCode := none
  /-- Constructing the `Channel_obj` out of MQs. -/
  channel : ErrorCode := none
  deriving DecidableEq, Repr

/-- What the environment decides in one round of the init-channel loop. -/
structure InitOracle where
  res : ResourceOracle := {}
  send : Ret := .ok
  deriving DecidableEq, Repr

/-- What the environment decides in one task of the server. -/
structure ServerOracle where
  procCreds : ErrorCode := none
  invokedAs : ErrorCode := none
  osProcCreds : ProcessCredentials := ⟨0, 0, 0⟩
  osProcInvokedAs : List Char := []
  /-- What `cli_namespace_func()` yields. -/
  cliNamespace : SharedName := ['1']
  preRspSetup : ErrorCode := none
  nInitChannelsBySrvReq : Nat := 0
  mdtFromSrv : Mdt := []
  expect : Ret := .ok
  /-- Expecting the peer's `GracefulSessionEnd`. -/
  expectEnd : Ret := .ok
  send : Ret := .ok
  res : ResourceOracle := {}
  /-- There is memory for the vector of all init-channels. -/
  reserve : Bool := true
  init : List InitOracle := []
  flushRuns : Bool := true
  deriving DecidableEq, Repr

/-- What the environment decides where the init-channels are emitted: whether there is memory for
    each of the user's containers. -/
structure EmitOracle where
  byCli : Bool := true
  bySrv : Bool := true
  deriving DecidableEq, Repr

/-- What `create_channel_and_resources()` returns and leaves in its out-arguments. -/
structure Resources where
  ok : Bool
  opened : Option ChannelObj
  remoteHndl : Option NativeHandle
  mqNameC2s : SharedName
  mqNameS2c : SharedName
  deriving DecidableEq, Repr

namespace Server

/-- A server session as constructed by a session server that has this namespace. -/
def constructed (srvNamespace : SharedName) : Server :=
  { srvNamespace, cliNamespace := [], onErrFuncSet := false, onPassiveOpenSet := false,
    peerStateErrCodeOrOk := none, lastPassivelyOpenedChannelId := 0,
    lastActivelyOpenedChannelId := 0, masterChannel := none, gracefulFinisher := none,
    queue := [], w := .idle, dtor := .notStarted, builders := [], outbox := [], log := [],
    logInOnDoneFuncSet := false, preInitErrCode := none, lastChannelMqId := 0, cliAppPtr := none,
    protocolNegotiator := none, protocolNegotiatorAux := none, osProcCreds := ⟨0, 0, 0⟩,
    osProcInvokedAs := [], out := ⟨none, none, none⟩, accepted := false, nextPair := 0 }

/-- Put the session part back. -/
@[simps toSession logInOnDoneFuncSet preInitErrCode lastChannelMqId cliAppPtr out accepted nextPair]
def setSession (b : Session) (s : Server) : Server := { s with toSession := b }

/-- Run session code inside the server. -/
def lift {α : Type} (f : Session → Outcome Failure (α × Session)) (s : Server) :
    Outcome Failure (α × Server) := do
  let (a, b) ← f s.toSession
  return (a, s.setSession b)

/-- Run session code that has no result inside the server. -/
def liftUnit (f : Session → Outcome Failure Session) (s : Server) : Outcome Failure Server := do
  let b ← f s.toSession
  return s.setSession b

/-- Add to the record of events. -/
def record (e : Event) (s : Server) : Server := s.setSession (s.toSession.record e)

/-- Post a task to thread W. -/
def post (t : Task) (s : Server) : Server := s.setSession (s.toSession.post t)

/-- `m_master_channel.reset()`. -/
def resetChannel (s : Server) : Server := s.setSession s.dropChannel

/-- `async_accept_log_in()`, as called by the session server. -/
def asyncAcceptLogIn (out : OutArgs) (s : Server) : Server :=
  { s with toSession := s.toSession.post .acceptLogIn, logInOnDoneFuncSet := true, out }

/-- A server session whose log-in has been asked for. -/
def fresh (srvNamespace : SharedName) (out : OutArgs) : Server :=
  (constructed srvNamespace).asyncAcceptLogIn out

/-! ### Channel resources -/

/-- `m_master_channel->owned_channel().remote_peer_process_credentials(&err_code)`, with the
    assertion that follows it.  The comment there takes the channel for the local socket just made,
    and the query for one that cannot fail. -/
def assertPeerCreds (e : ErrorCode) (s : Session) : Outcome Failure Unit := do
  Outcome.check .nullMasterChannel s.masterChannel.isSome
  Outcome.check .noPeerCreds e.isNone

/-- `make_sock_stm_func()`: the two ends that `connect_pair()` makes, the local one first. -/
def makeSockStm (o : ResourceOracle) (s : Server) :
    Outcome Failure (Option (NativeHandle × NativeHandle) × Server) :=
  match o.connectPair with
  | some _ => .done (none, s)
  | none => do
    assertPeerCreds o.peerCreds s.toSession
    return (some (⟨s.nextPair, false⟩, ⟨s.nextPair, true⟩),
      { s with toSession := s.toSession.record (.pairMade s.nextPair), nextPair := s.nextPair + 1 })

/-- `make_channel_mqs()`: the names, c2s first.  `m_last_channel_mq_id` is an `unsigned int`; after
    an error it is put back. -/
def makeChannelMqs (cfg : Cfg) (o : ResourceOracle) (s : Server) :
    Option (SharedName × SharedName) × Server :=
  let id := (s.lastChannelMqId + 1) % 2 ^ 32
  let cliAppName := (s.cliAppPtr.map (·.name)).getD []
  let c2s := SharedName.channelMqName cfg s.srvNamespace cliAppName s.cliNamespace true id
  let s2c := SharedName.channelMqName cfg s.srvNamespace cliAppName s.cliNamespace false id
  let s := s.record (.mqTried true c2s)
  match o.mqC2s with
  | some _ => (none, s)
  | none =>
    let s := (s.record (.mqCreated c2s)).record (.mqTried false s2c)
    match o.mqS2c with
    -- The first queue is removed again, and the id is not used up.
    | some _ => (none, s.record (.mqRemoved c2s))
    | none => (some (c2s, s2c), { s.record (.mqCreated s2c) with lastChannelMqId := id })

/-- `create_channel_and_resources()` once both MQs are there: the socket pair, if there is to be
    one, and the `Channel_obj`, or the clean-up. -/
def constructMqsChannel (cfg : Cfg) (nickname : Nickname) (c2s s2c : SharedName)
    (o : ResourceOracle) (s : Server) : Outcome Failure (Resources × Server) := do
  let (socks, s) ← (if cfg.socketStreamEnabled then s.makeSockStm o else pure (none, s))
  if (cfg.socketStreamEnabled && socks.isNone) || o.channel.isSome then
    -- the names and the handle stay in the out-arguments
    return (⟨false, none, socks.map (·.2), c2s, s2c⟩,
      (s.record (.mqRemoved c2s)).record (.mqRemoved s2c))
  else
    let ch : ChannelObj :=
      { nickname, mqOut := some s2c, mqIn := some c2s, sock := socks.map (·.1) }
    return (⟨true, some ch, socks.map (·.2), c2s, s2c⟩,
      s.record (.resourcesCreated ch (socks.map (·.2)) c2s s2c))

/-- `create_channel_and_resources()` with a socket pair alone. -/
def constructSockChannel (nickname : Nickname) (o : ResourceOracle) (s : Server) :
    Outcome Failure (Resources × Server) := do
  let (socks, s) ← s.makeSockStm o
  match socks with
  | none => return (⟨false, none, none, [], []⟩, s)
  | some (localHndl, remoteHndl) =>
    let ch : ChannelObj := { nickname, mqOut := none, mqIn := none, sock := some localHndl }
    return (⟨true, some ch, some remoteHndl, [], []⟩,
      s.record (.resourcesCreated ch (some remoteHndl) [] []))

/-- `create_channel_and_resources()`. -/
def createChannelAndResources (cfg : Cfg) (active : Bool) (o : ResourceOracle) (s : Server) :
    Outcome Failure (Resources × Server) :=
  let (nickname, b) := s.nextNickname active
  let s := s.setSession b
  if cfg.mqsEnabled then
    match s.makeChannelMqs cfg o with
    | (none, s) => .done (⟨false, none, none, [], []⟩, s)
    | (some (c2s, s2c), s) => s.constructMqsChannel cfg nickname c2s s2c o
  else s.constructSockChannel nickname o

/-! ### The log-in -/

/-- `m_log_in_on_done_func(err_code); m_log_in_on_done_func.clear();`. -/
def logInDone (e : ErrorCode) (site : LogInSite) (s : Server) : Outcome Failure Server := do
  Outcome.check .emptyFunction s.logInOnDoneFuncSet
  return { s with
    toSession := s.toSession.record (.logInDone e site s.out)
    logInOnDoneFuncSet := false
    accepted := e.isNone }

/-- The first thread-W body of `async_accept_log_in()`. -/
def acceptLogIn (o : ServerOracle) (s : Server) : Outcome Failure Server :=
  -- The two queries about the opposing process, in this order.
  match o.procCreds, o.invokedAs with
  | some e, _ => s.logInDone (some e) .accept
  | none, some e => s.logInDone (some e) .accept
  | none, none => do
    Outcome.check .masterChannelInUse s.masterChannel.isNone
    let s := { s with
      toSession := s.setChannel (.fresh 0 true)
      osProcCreds := o.osProcCreds
      osProcInvokedAs := o.osProcInvokedAs }
    let (ok, s) ← s.lift (·.callNoError o.expect)
    match ok, s.masterChannel with
    | true, some ch => return s.setSession (s.setChannel { ch with expectsLogInReq := true })
    | _, _ => return s  -- the error handler will run the completion handler

/-- The error that the log-in request earns, if any, before the response is made. -/
def checkLogInReq (cfg : Cfg) (r : LogInReq) (o : ServerOracle) (s : Server) :
    Outcome Failure (ErrorCode × Server) :=
  -- The session's protocol first, then the auxiliary one.
  let (e, v) := computeNegotiatedProtoVer cfg.negotiate s.protocolNegotiator r.maxProtoVer
  let s := { s with protocolNegotiator := v }
  match e with
  | some e => .done (some e, s)
  | none =>
    let (e, v) :=
      computeNegotiatedProtoVer cfg.negotiateAux s.protocolNegotiatorAux r.maxProtoVerAux
    let s := { s with protocolNegotiatorAux := v }
    match e with
    | some e => .done (some e, s)
    | none =>
      -- Both sides must be of the same session type.
      if r.shmTypeOrNone ≠ cfg.shmType ∨ r.mqTypeOrNone ≠ cfg.mqTypeOrNone ∨
          r.nativeHandleTransmissionEnabled ≠ cfg.transmitNativeHandles then
        .done (some .serverMasterLogInRequestConfigMismatch, s)
      else if r.numInitChannelsByCliReq ≠ 0 ∧ s.out.initChannelsByCliReq = none then
        .done (some .invalidArgument, s)
      else
        -- A client states its credentials; the code asserts it rather than handle it.
        match r.claimedOwnProcessCredentials, cfg.cliAppLookup r.ownApp with
        | none, _ => .failed .noClaimedCreds
        | some _, none =>
          .done (some .serverMasterLogInRequestClientAppDisallowedOrUnknown, s)
        | some claimed, some app =>
          if r.ownApp ∉ cfg.srvApp.allowedClientApps then
            .done (some .serverMasterLogInRequestClientAppDisallowedOrUnknown, s)
          else do
            Outcome.check .setCliAppPtr s.cliAppPtr.isNone
            let s := { s with cliAppPtr := some app }
            -- What is claimed, what the OS says and what the application is registered with must
            -- agree.
            if claimed ≠ s.osProcCreds ∨ app.execPath ≠ s.osProcInvokedAs ∨
                app.userId ≠ claimed.userId ∨ app.groupId ≠ claimed.groupId then
              return (some .serverMasterLogInRequestClientAppInconsistentCreds, s)
            else
              -- Only now is a namespace used up.
              let s := s.record (.cliNamespaceTaken o.cliNamespace)
              let s ← s.liftUnit (·.setCliNamespace o.cliNamespace)
              return (o.preRspSetup, s.record .preRspSetupRan)

/-- The number of init-channels, a `size_t`. -/
def nInitChannels (r : LogInReq) (o : ServerOracle) (s : Server) : Nat :=
  (r.numInitChannelsByCliReq +
    if s.out.initChannelsBySrvReq.isSome then o.nInitChannelsBySrvReq else 0) % 2 ^ 64

/-- The log-in response. -/
def logInRsp (cfg : Cfg) (r : LogInReq) (o : ServerOracle) (s : Server) : Body :=
  .logInRsp {
    maxProtoVer := cfg.localMaxProtoVer
    maxProtoVerAux := cfg.localMaxProtoVerAux
    clientNamespace := s.cliNamespace
    metadata := o.mdtFromSrv
    numInitChannelsBySrvReq :=
      (nInitChannels r o s + 2 ^ 64 - r.numInitChannelsByCliReq) % 2 ^ 64 }

/-- An error at the log-in: close the channel, run the handler. -/
def logInFailed (e : Err) (site : LogInSite) (s : Server) : Outcome Failure Server :=
  s.resetChannel.logInDone (some e) site

/-- `reserve()` of a vector of channels, which throws if there can be no such vector, or if there is
    no memory for it. -/
def reserve (cfg : Cfg) (n : Nat) (mem : Bool) : Outcome Failure Unit := do
  Outcome.check .lengthError (n ≤ cfg.maxVecSize)
  Outcome.check .badAlloc (n = 0 || mem)

/-- The init-channel loop with `k` rounds to go, once the channels `chans` are opened; the last
    round waits in `sync_request()`. -/
def initChannelsLoop (cfg : Cfg) (nByCli : Nat) (mdtFromCli : Mdt) :
    Nat → List InitOracle → Channels → Server → Outcome Failure Server
  | 0, _, _, s => .done s
  | k + 1, os, chans, s => do
    let o := os.headD {}
    -- The resources of one init-channel; the names and the handle go to the client.
    let (r, s) ← s.createChannelAndResources cfg true o.res
    if !r.ok then
      s.logInFailed .sessionOpenChannelServerCannotProceedResourceUnavailable .initChannels
    else
      let chans := chans ++ [r.opened]
      let (c, s) ← s.lift
        (·.send none r.remoteHndl (.openChannelToClientReq r.mqNameC2s r.mqNameS2c []) o.send)
      match c with
      | .refused => return s  -- the error handler will run the completion handler
      | .failed e => s.logInFailed e .initChannels
      | .ok id =>
        let s := s.record (.initChannelSent id)
        -- The last of them is a `sync_request()`: its response says that the client has all.
        if k = 0 then
          return s.setSession
            (s.setW (.inSyncRequest (.initChannels chans nByCli mdtFromCli) id none))
        else initChannelsLoop cfg nByCli mdtFromCli k os.tail chans s

/-- The handler of the log-in request. -/
def onLogInReq (cfg : Cfg) (m : Msg) (o : ServerOracle) (s : Server) : Outcome Failure Server := do
  Outcome.check .nullMasterChannel s.masterChannel.isSome
  match m.body with
  | .logInReq r =>
    let (e, s) ← s.checkLogInReq cfg r o
    match e with
    | some e => s.logInFailed e .request
    | none =>
      -- The number includes the channels that this side asks for, as the hook has set it.
      let n := nInitChannels r o s
      let (c, s) ← s.lift (·.send (some m.id) none (logInRsp cfg r o s) o.send)
      match c with
      | .refused => return s  -- the error handler will run the completion handler
      | .failed e => s.logInFailed e .request
      | .ok _ =>
        if n = 0 then
          ({ s with out := { s.out with
            mdt := s.out.mdt.map (fun _ => some r.metadata) } } : Server).logInDone none .request
        else
          -- The vector of local channels is sized before the first of them is made.
          reserve cfg n o.reserve
          initChannelsLoop cfg r.numInitChannelsByCliReq r.metadata n o.init [] s
  | _ => .failed .badUnionAccess

/-- Emission of the init-channels and of the metadata into the out-arguments.  Each container is
    cleared and sized first. -/
def emitInitChannels (cfg : Cfg) (chans : Channels) (nByCli : Nat) (mdtFromCli : Mdt)
    (o : EmitOracle) (s : Server) : Outcome Failure Server := do
  let idx := if s.out.initChannelsByCliReq.isSome then nByCli else 0
  (if s.out.initChannelsByCliReq.isSome then reserve cfg nByCli o.byCli else pure ())
  Outcome.check .initChannelCount (idx ≤ chans.length)
  (if s.out.initChannelsBySrvReq.isSome then reserve cfg (chans.length - idx) o.bySrv else pure ())
  Outcome.check .initChannelCount (s.out.initChannelsBySrvReq.isSome || idx = chans.length)
  return { s with out := {
    initChannelsByCliReq := s.out.initChannelsByCliReq.map (fun _ => chans.take idx)
    initChannelsBySrvReq := s.out.initChannelsBySrvReq.map (fun _ => chans.drop idx)
    mdt := s.out.mdt.map (fun _ => some mdtFromCli) } }

/-- The handler of the log-in request after its `sync_request()`, which has no time-out. -/
def initChannelsSyncReturn (cfg : Cfg) (chans : Channels) (nByCli : Nat) (mdtFromCli : Mdt)
    (rsp : Option Msg) (r : Session.SyncRes) (o : EmitOracle) (s : Server) :
    Outcome Failure Server :=
  match rsp, r with
  -- The client has all of them: distribute and report.
  | some _, .response => do
    let s ← (s.setSession (s.setW .idle)).emitInitChannels cfg chans nByCli mdtFromCli o
    s.logInDone none .initChannels
  | _, _ => do
    -- This `sync_request()` has no timeout.
    Outcome.require (r ≠ .timeout)
    let (e, s) ← s.lift (·.syncReturnNoResponse r rsp)
    match e with
    | none => return s  -- the error handler will run the completion handler
    | some e => s.logInFailed e .initChannels

/-! ### To PEER state -/

/-- `init_handlers_impl()`. -/
def initHandlers (cfg : Cfg) (passiveOpen : Bool) (o : ServerOracle) (s : Server) :
    Outcome Failure Server := do
  -- A second call only warns.
  if s.onErrFuncSet then return s.record (.initHandlersReturned false)
  Outcome.check .handlerSetTwice (!s.onPassiveOpenSet)
  let s := s.setSession
    { s.toSession with onErrFuncSet := true, onPassiveOpenSet := passiveOpen }
  -- An error came in almost-PEER state: it is delivered by a task of its own.
  if s.preInitErrCode.isSome then
    Outcome.check .hoseTwice s.peerStateErrCodeOrOk.isNone
    return (s.post .preInitError).record (.initHandlersReturned true)
  else
    let (_, s) ← s.lift (·.expectOpenChannelReqs .openChannelReq o.expect)
    let s ← if cfg.gracefulFinishRequired then s.liftUnit (·.emplaceGracefulFinisher o.expectEnd)
      else .done s
    return s.record (.initHandlersReturned true)

/-- The task that `init_handlers_impl()` posts where an error has been cached. -/
def preInitError (s : Server) : Outcome Failure Server :=
  match s.preInitErrCode with
  | some e => s.liftUnit (·.hoseIfNot e .preInit)
  | none => .failed .badState

/-- `on_master_channel_error()`. -/
def onMasterChannelError (cfg : Cfg) (e : Err) (s : Server) : Outcome Failure Server :=
  if s.masterChannel.isNone then .done s
  else if s.logInOnDoneFuncSet then s.logInFailed e .masterChannelError
  else if !s.onErrFuncSet then do
    Outcome.check .secondChannelError s.preInitErrCode.isNone
    return { s with preInitErrCode := some e }
  else s.liftUnit (·.onMasterChannelErrorPeer cfg e)

/-! ### PEER state -/

/-- `mdt_builder()`: the resources are made here already; if they cannot be had, the local channel
    stays blank. -/
def mdtBuilder (cfg : Cfg) (call : Nat) (mdt : Mdt) (o : ResourceOracle) (s : Server) :
    Outcome Failure Server :=
  if !s.onErrFuncSet then .done (s.setSession (s.giveBuilder call none))
  else do
    -- The builder's request is filled in now, with the resources made for it.
    let hosed ← s.hosed
    Outcome.check .nullMasterChannel s.masterChannel.isSome
    if hosed then
      return s.setSession
        (s.giveBuilder call (some ⟨false, .openChannelToClientReq [] [] mdt, none, none⟩))
    else
      let (r, s) ← s.createChannelAndResources cfg true o
      Outcome.check .badResources (r.ok || r.remoteHndl.isNone)
      -- Without resources the builder is handed out all the same: open_channel() will say so.
      let body := if r.ok then .openChannelToClientReq r.mqNameC2s r.mqNameS2c mdt
        else .openChannelToClientReq [] [] mdt
      return s.setSession
        (s.giveBuilder call (some ⟨false, body, r.remoteHndl, if r.ok then r.opened else none⟩))

/-- Thread U calls `open_channel()`; a blank channel in the builder is reported right here. -/
def openChannel (call : Nat) (s : Session) : Outcome Failure Session := do
  let (b, s) ← s.takeBuilder call
  match b with
  | none => return s.returned call none false none none
  | some b =>
    if b.openedChannel.isNone then
      return s.returned call none true
        (some .sessionOpenChannelServerCannotProceedResourceUnavailable) none
    else return s.post (.openChannel call b)

/-- What `open_channel()` does with the response. -/
def openChannelRsp (call req : Nat) (opened : Option ChannelObj) (m : Msg) (s : Session) :
    Outcome Failure Session :=
  match m.body with
  | .openChannelToClientRsp .accepted => do
    -- The local end was made by mdt_builder(); an accepted request needs it.
    Outcome.check .badResources opened.isSome
    return s.returned call (some req) true none opened
  | .openChannelToClientRsp .rejectedPassiveOpen =>
    .done (s.returned call (some req) true
      (some .sessionOpenChannelRemotePeerRejectedPassiveOpen) none)
  -- A client has no resources to run out of.
  | .openChannelToClientRsp .rejectedResourceUnavailable => .failed .badOpenChannelResult
  | .openChannelToClientRsp .endSentinel => .failed .badOpenChannelResult
  | _ => .failed .badUnionAccess

/-- What the server has ready for its response to request `m`. -/
def prepare (cfg : Cfg) (m : Msg) (o : ResourceOracle) (s : Server) :
    Outcome Failure (Session.Prepared × Server) := do
  if s.onPassiveOpenSet then
    let (r, s) ← s.createChannelAndResources cfg false o
    if !r.ok then
      return (⟨.rejectedResourceUnavailable, none, none,
        .openChannelToServerRsp .rejectedResourceUnavailable [] []⟩, s)
    else
      Outcome.check .badResources
        (r.remoteHndl.isSome || (!r.mqNameC2s.isEmpty && !r.mqNameS2c.isEmpty))
      match m.body with
      | .openChannelToServerReq _ =>
        -- the response is initialised again, so that its result is the first enumerant
        return (⟨.accepted, r.opened, r.remoteHndl,
          .openChannelToServerRsp .accepted r.mqNameC2s r.mqNameS2c⟩, s)
      | _ => .failed .badUnionAccess
  else
    return (⟨.rejectedPassiveOpen, none, none,
      .openChannelToServerRsp .rejectedPassiveOpen [] []⟩, s)

/-- `on_master_channel_open_channel_req()`. -/
def onMasterChannelOpenChannelReq (cfg : Cfg) (m : Msg) (o : ServerOracle) (s : Server) :
    Outcome Failure Server := do
  let s := s.record (.openChannelReqRan m.id)
  let hosed ← s.hosed
  if hosed then return s
  Outcome.check .nullMasterChannel s.masterChannel.isSome
  let (p, s) ← s.prepare cfg m o.res
  s.liftUnit (·.openChannelReqRespond m p o.send)

/-! ### The machine -/

/-- Thread W runs a task. -/
def runTask (cfg : Cfg) (o : ServerOracle) (t : Task) (s : Server) : Outcome Failure Server :=
  match t with
  | .masterChannelError _ e => s.onMasterChannelError cfg e
  | .openChannelReq _ m => s.onMasterChannelOpenChannelReq cfg m o
  | .gracefulSessionEnd _ => s.liftUnit (·.onGracefulSessionEnd)
  | .logInReq _ m => s.onLogInReq cfg m o
  | .acceptLogIn => s.acceptLogIn o
  | .initHandlers passiveOpen => s.initHandlers cfg passiveOpen o
  | .preInitError => s.preInitError
  | .mdtBuilder call mdt => s.mdtBuilder cfg call mdt o.res
  | .openChannel call b => s.liftUnit (·.openChannelBody s.onErrFuncSet call b o.send)
  | .sessionToken => s.liftUnit (·.sessionToken)
  | .dtorFinisherQuery => .done (s.setSession s.dtorFinisherQuery)
  | .dtorSendEnd => s.liftUnit (·.dtorSendEnd o.send)
  | .dtorFlush => .done (s.setSession (s.dtorFlush o.flushRuns))
  | .logInRsp .. => .disabled
  | .initOpenChannel .. => .disabled
  | .asyncConnect .. => .disabled

/-- A step of thread U, of thread W or of the channel. -/
inductive Act where
  /-- Thread U calls `init_handlers()`, with a passive-open handler or without. -/
  | initHandlers (passiveOpen : Bool)
  /-- Thread U calls `mdt_builder()`, and will fill in `mdt`. -/
  | mdtBuilder (call : Nat) (mdt : Mdt)
  /-- Thread U calls `open_channel()` with a builder. -/
  | openChannel (call : Nat)
  | sessionToken
  /-- Thread W runs its next task. -/
  | run (o : ServerOracle)
  /-- Thread W returns from `sync_request()`. -/
  | syncReturn (r : Session.SyncRes) (o : EmitOracle)
  /-- The channel hands over an in-message. -/
  | deliver (m : Msg)
  /-- The channel finds an error. -/
  | channelError (e : Err)
  | dtorStart
  | dtorStep
  | flushDone
  /-- Thread U, with thread W joined, runs the handler if it is still pending, and returns. -/
  | dtorFinish
  deriving DecidableEq, Repr

/-- The last part of the destructor. -/
def dtorFinish (s : Server) : Outcome Failure Server := do
  Outcome.require (s.dtor = .stopped)
  let s := s.setSession (s.setDtor .returned)
  if s.logInOnDoneFuncSet then
    return s.record (.logInDone (some .objectShutdownAbortedCompletionHandler) .destructor s.out)
  else return s

/-- One step of the server.  Thread U has the session only once it is accepted, and calls nothing
    once the destructor runs. -/
def step (cfg : Cfg) (s : Server) (a : Act) : Outcome Failure Server :=
  let user := s.accepted && s.dtor = .notStarted
  match a with
  | .initHandlers passiveOpen => do
    Outcome.require user
    return s.post (.initHandlers passiveOpen)
  | .mdtBuilder call mdt => do
    Outcome.require user
    return s.post (.mdtBuilder call mdt)
  | .openChannel call => do
    Outcome.require user
    s.liftUnit (openChannel call)
  | .sessionToken => do
    Outcome.require user
    return s.post .sessionToken
  | .run o => do
    let (t, s) ← s.lift (·.takeTask)
    s.runTask cfg o t
  -- Thread W comes back from one of the two blocking requests.
  | .syncReturn r o =>
    match s.w with
    | .inSyncRequest (.openChannel call opened) req rsp =>
      s.liftUnit (·.openChannelSyncReturn (openChannelRsp call req opened) call req rsp r)
    | .inSyncRequest (.initChannels chans nByCli mdtFromCli) _ rsp =>
      s.initChannelsSyncReturn cfg chans nByCli mdtFromCli rsp r o
    | _ => .disabled
  | .deliver m => s.liftUnit (·.deliver m)
  | .channelError e => s.liftUnit (·.channelError e)
  | .dtorStart => s.liftUnit (·.dtorStart cfg)
  | .dtorStep => s.liftUnit (·.dtorStep)
  | .flushDone => s.liftUnit (·.dtorFlushDone)
  | .dtorFinish => s.dtorFinish

end Server

end IpcSession
