import IpcSession.Base.Peer

namespace IpcSession

/-!
# `Client_session_impl`

The client's state machine: NULL, CONNECTING, PEER.

* `Client.asyncConnect`, `onMasterChannelLogInRsp`, `onMasterChannelInitOpenChannel` — the three
  stages of a connect attempt; the end of each attempt goes through `invokeConnOnDoneFunc`.
* `Client.cancelPeerStateToNull`, `cancelPeerStateToConnecting`,
  `completeAsyncConnectAfterCancelingPeerState` — what a sub-class can do from its handler.
* `Client.openChannel…`, `createChannelObj`, `onMasterChannelOpenChannelReq`,
  `onMasterChannelError` — PEER state.
* `Client.step` — one step of any of the threads involved.
-/

/-- `Client_session_impl::State`. -/
inductive ClientState where
  | null | connecting | peer
  deriving DecidableEq, Repr

/-- Whose handler completes a connect attempt. -/
inductive OnDoneKind where
  | user
  /-- The wrapper that a sub-class substitutes for the user's handler. -/
  | wrapper
  /-- What the sub-class has given to `cancel_peer_state_to_connecting()`. -/
  | takenOver
  deriving DecidableEq, Repr

/-- `m_conn_on_done_func_or_empty`, when non-empty: whose handler it is, and the connect attempt
    that it completes. -/
structure OnDone where
  kind : OnDoneKind
  attempt : Nat
  deriving DecidableEq, Repr

/-- `Client_session_impl`. -/
structure Client extends Session where
  state : ClientState
  connOnDoneFuncOrEmpty : Option OnDone
  /-- The opposing versions that the negotiators have seen since they were last reset. -/
  protocolNegotiator : Option Int
  protocolNegotiatorAux : Option Int
  /-- The number of channels made so far; names the next one. -/
  nextChan : Nat
  /-- The `init_channels` vectors that the init-channel handlers share. -/
  vecs : List (Nat × Channels)
  /-- The user's variables that the out-arguments of connect attempts point to. -/
  mem : List (Nat × OutArgs)
  deriving DecidableEq, Repr

/-- What the sub-class's wrapper does when it is run with success. -/
inductive Hook where
  | passOn
  /-- Call `cancel_peer_state_to_null()` and report `e`. -/
  | toNull (e : Err)
  /-- Call `cancel_peer_state_to_connecting()`. -/
  | toConnecting
  deriving DecidableEq, Repr

/-- What the environment decides in one task of the client. -/
structure ClientOracle where
  /-- Opening the mutex. -/
  mutex : ErrorCode := none
  /-- Opening the CNS file. -/
  cnsOpen : ErrorCode := none
  /-- Its content. -/
  cns : List Char := []
  sockConnect : ErrorCode := none
  send : Ret := .ok
  undo : Ret := .ok
  expect : Ret := .ok
  mqOpen : ErrorCode := none
  hook : Hook := .passOn
  flushRuns : Bool := true
  deriving DecidableEq, Repr

/-! ### The CNS file -/

/-- The first line of the file, without its newline; `none` if there is no newline. -/
def readLine (content : List Char) : Option (List Char) :=
  if '\n' ∈ content then some (content.takeWhile (· ≠ '\n')) else none

/-- A non-empty string of digits as a number. -/
def parseDigits (cs : List Char) : Option Nat :=
  if cs ≠ [] ∧ cs.all Char.isDigit then
    some (cs.foldl (fun n c => 10 * n + (c.toNat - '0'.toNat)) 0)
  else none

/-- `lexical_cast<process_id_t>`: an optional sign and digits, within 32 bits. -/
def parsePid (cs : List Char) : Option Int :=
  let n : Option Int := match cs with
    | '-' :: ds => (parseDigits ds).map (fun n => -(n : Int))
    | '+' :: ds => (parseDigits ds).map (fun n => (n : Int))
    | ds => (parseDigits ds).map (fun n => (n : Int))
  n.filter (fun i => -2 ^ 31 ≤ i ∧ i < 2 ^ 31)

/-- `to_string(pid)`. -/
def pidToString (pid : Int) : List Char :=
  if pid < 0 then '-' :: Nat.toDigits 10 pid.natAbs else Nat.toDigits 10 pid.natAbs

/-- The server namespace that the CNS yields, or the error. -/
def readCns (o : ClientOracle) : Except Err Int :=
  match o.mutex, o.cnsOpen with
  | some e, _ => .error e
  | none, some e => .error e
  | none, none =>
    match (readLine o.cns).bind parsePid with
    | none => .error .clientNamespaceStoreBadFormat
    | some pid => .ok pid

/-- The reset negotiator takes the opposing version; one that has taken a version ignores
    any other. -/
def computeNegotiatedProtoVer (negotiate : Int → ErrorCode) (negotiator : Option Int)
    (opposing : Int) : ErrorCode × Option Int :=
  match negotiator with
  | some v => (none, some v)
  | none => (negotiate opposing, some opposing)

namespace Client

/-- A client session as constructed; `passiveOpen` says whether a passive-open handler is given. -/
def fresh (passiveOpen : Bool) : Client :=
  { srvNamespace := [], cliNamespace := [], onErrFuncSet := true, onPassiveOpenSet := passiveOpen,
    peerStateErrCodeOrOk := none, lastPassivelyOpenedChannelId := 0,
    lastActivelyOpenedChannelId := 0, masterChannel := none, gracefulFinisher := none,
    queue := [], w := .idle, dtor := .notStarted, builders := [], outbox := [], log := [],
    state := .null, connOnDoneFuncOrEmpty := none, protocolNegotiator := none,
    protocolNegotiatorAux := none, nextChan := 0, vecs := [], mem := [] }

/-- Put the session part back. -/
@[simps toSession state connOnDoneFuncOrEmpty vecs mem nextChan]
def setSession (b : Session) (s : Client) : Client := { s with toSession := b }

/-- Set `m_state`. -/
@[simps toSession state connOnDoneFuncOrEmpty vecs mem nextChan]
def setState (st : ClientState) (s : Client) : Client := { s with state := st }

/-- Set `m_conn_on_done_func_or_empty`. -/
@[simps toSession state connOnDoneFuncOrEmpty vecs mem nextChan]
def setOnDone (f : Option OnDone) (s : Client) : Client :=
  { s with connOnDoneFuncOrEmpty := f }

/-- `m_master_channel.reset(); m_state = State::S_NULL;`. -/
@[simps toSession state connOnDoneFuncOrEmpty vecs mem nextChan]
def backToNull (s : Client) : Client :=
  { s with toSession := s.dropChannel, state := .null }

/-- Set the intermediate vector `vec`. -/
@[simps toSession state connOnDoneFuncOrEmpty vecs mem nextChan]
def setVec (vec : Nat) (chans : Channels) (s : Client) : Client :=
  { s with vecs := (vec, chans) :: s.vecs }

/-- Run session code inside the client. -/
def lift {α : Type} (f : Session → Outcome Failure (α × Session)) (s : Client) :
    Outcome Failure (α × Client) := do
  let (a, b) ← f s.toSession
  return (a, s.setSession b)

/-- Run session code that has no result inside the client. -/
def liftUnit (f : Session → Outcome Failure Session) (s : Client) : Outcome Failure Client := do
  let b ← f s.toSession
  return s.setSession b

/-- Add to the record of events. -/
def record (e : Event) (s : Client) : Client := s.setSession (s.toSession.record e)

/-- Post a task to thread W. -/
def post (t : Task) (s : Client) : Client := s.setSession (s.toSession.post t)

/-- The variables of attempt `attempt`. -/
def out (attempt : Nat) (s : Client) : OutArgs := (s.mem.lookup attempt).getD ⟨none, none, none⟩

/-- Write the variables of attempt `attempt`. -/
@[simps toSession state connOnDoneFuncOrEmpty vecs mem nextChan]
def setOut (attempt : Nat) (out : OutArgs) (s : Client) : Client :=
  { s with mem := (attempt, out) :: s.mem }

/-! ### The end of a connect attempt -/

/-- `cancel_peer_state_to_null()`. -/
def cancelPeerStateToNull (s : Client) : Client := s.backToNull

/-- `cancel_peer_state_to_connecting()`. -/
def cancelPeerStateToConnecting (onDone : OnDone) (s : Client) : Client :=
  (s.setState .connecting).setOnDone (some onDone)

/-- `invoke_conn_on_done_func()`: the member is emptied before the handler runs. -/
def invokeConnOnDoneFunc (e : ErrorCode) (hook : Hook) (s : Client) : Outcome Failure Client :=
  match s.connOnDoneFuncOrEmpty with
  | none => .failed .emptyFunction
  | some f =>
    -- The function is moved out before it is called.
    let s := s.setOnDone none
    match f.kind, e, hook with
    -- A sub-class's wrapper may take the success back, to NULL state or to CONNECTING.
    | .wrapper, none, .toNull e =>
      let s := s.cancelPeerStateToNull
      .done (s.record (.connectDone (some e) (s.out f.attempt)))
    | .wrapper, none, .toConnecting =>
      .done (s.cancelPeerStateToConnecting ⟨.takenOver, f.attempt⟩)
    | _, e, _ => .done (s.record (.connectDone e (s.out f.attempt)))

/-- The way back to NULL state from inside `async_connect()`. -/
def connectFailed (e : Err) (s : Client) : Outcome Failure Client := do
  Outcome.check .badState (s.state = .connecting)
  Outcome.check .emptyFunction s.connOnDoneFuncOrEmpty.isSome
  (s.setState .null).invokeConnOnDoneFunc (some e) .passOn

/-- To PEER state: the common end of the two successful ways to connect. -/
def connectSucceeded (cfg : Cfg) (hook : Hook) (s : Client) : Outcome Failure Client := do
  let s ← (s.setState .peer).invokeConnOnDoneFunc none hook
  if cfg.gracefulFinishRequired then
    Outcome.check .peerWithoutFinisher (s.state ≠ .peer)
  return s

/-- In PEER state at last: engage the finisher if the session type has one. -/
def engageFinisher (cfg : Cfg) (r : Ret) (s : Client) : Outcome Failure Client :=
  if cfg.gracefulFinishRequired then s.liftUnit (·.emplaceGracefulFinisher r) else .done s

/-- `complete_async_connect_after_canceling_peer_state()`. -/
def completeAsyncConnectAfterCancelingPeerState (cfg : Cfg) (e : ErrorCode) (r : Ret)
    (s : Client) : Outcome Failure Client := do
  let (hosed, s) ← s.lift (fun b => do let h ← b.hosed; return (h, b))
  Outcome.check .badState (!hosed)
  match e with
  | some _ => s.backToNull.invokeConnOnDoneFunc e .passOn
  | none =>
    let s := s.setState .peer
    let s ← s.engageFinisher cfg r
    s.invokeConnOnDoneFunc none .passOn

/-! ### Connecting -/

/-- The log-in request, with the metadata that the builder has. -/
def logInReq (cfg : Cfg) (out : OutArgs) (mdt : Mdt) : Body :=
  .logInReq {
    maxProtoVer := cfg.localMaxProtoVer
    maxProtoVerAux := cfg.localMaxProtoVerAux
    mqTypeOrNone := cfg.mqTypeOrNone
    nativeHandleTransmissionEnabled := cfg.transmitNativeHandles
    claimedOwnProcessCredentials := some cfg.ownCreds
    ownApp := cfg.cliApp.name
    shmTypeOrNone := cfg.shmType
    metadata := mdt
    numInitChannelsByCliReq := (out.initChannelsByCliReq.getD []).length }

/-- To CONNECTING state, with the handler stored. -/
def begin (attempt : Nat) (subClass : Bool) (s : Client) : Client :=
  (s.setState .connecting).setOnDone (some ⟨if subClass then .wrapper else .user, attempt⟩)

/-- A new master channel, and negotiators that know nothing of an earlier one. -/
@[simps toSession state connOnDoneFuncOrEmpty vecs mem nextChan]
def makeChannel (s : Client) : Client :=
  { s with
    toSession := s.setChannel (.fresh s.nextChan false)
    nextChan := s.nextChan + 1
    protocolNegotiator := none
    protocolNegotiatorAux := none }

/-- `m_master_channel.reset()`. -/
@[simps toSession state connOnDoneFuncOrEmpty vecs mem nextChan]
def resetChannel (s : Client) : Client := { s with toSession := s.dropChannel }

/-- The thread-W body of `async_connect()`. -/
def asyncConnect (cfg : Cfg) (attempt : Nat) (subClass : Bool) (b : Builder) (o : ClientOracle)
    (s : Client) : Outcome Failure Client := do
  -- A connect in any other state is ignored.
  if s.state ≠ .null then return s.record .connectIgnored
  let s := s.begin attempt subClass
  match readCns o with
  | .error e => s.connectFailed e
  -- The namespace is set for good here, also if the attempt fails further down.
  | .ok pid =>
    let s ← s.liftUnit (·.setSrvNamespace (pidToString pid))
    match o.sockConnect with
    | some e => s.connectFailed e
    | none =>
      Outcome.check .masterChannelInUse s.masterChannel.isNone
      let s := s.makeChannel
      let (c, s) ← s.lift (·.send none none (logInReq cfg (s.out attempt) b.body.mdt) o.send)
      match c, s.masterChannel with
      | .failed e, _ => s.resetChannel.connectFailed e
      | .ok id, some ch =>
        return s.setSession (s.setChannel { ch with expectsLogInRsp := some (id, attempt) })
      | _, _ => return s  -- the error handler will complete the attempt

/-- What `on_master_channel_log_in_rsp()` reads out of the response: the number of
    init-channels. -/
def readLogInRsp (cfg : Cfg) (attempt : Nat) (m : Msg) (s : Client) :
    Outcome Failure (Except Err (Nat × Mdt) × Client) := do
  match m.body with
  -- The session's protocol first, then the auxiliary one.
  | .logInRsp r =>
    let (e, v) := computeNegotiatedProtoVer cfg.negotiate s.protocolNegotiator r.maxProtoVer
    let s := { s with protocolNegotiator := v }
    match e with
    | some e => return (.error e, s)
    | none =>
      let (e, v) :=
        computeNegotiatedProtoVer cfg.negotiateAux s.protocolNegotiatorAux r.maxProtoVerAux
      let s := { s with protocolNegotiatorAux := v }
      match e with
      | some e => return (.error e, s)
      | none =>
        let out := s.out attempt
        -- The peer wants init-channels and there is no container for them.
        if r.numInitChannelsBySrvReq ≠ 0 ∧ out.initChannelsBySrvReq = none then
          return (.error .invalidArgument, s)
        else if r.clientNamespace = [] ∨ r.clientNamespace = SharedName.sentinel then
          return (.error .clientMasterLogInResponseBad, s)
        else
          let s ← s.liftUnit (·.setCliNamespace r.clientNamespace)
          -- `size_t` arithmetic.
          let n := r.numInitChannelsBySrvReq + (out.initChannelsByCliReq.getD []).length
          return (.ok (n % 2 ^ 64, r.metadata), s)
  | _ => return (.error .clientMasterLogInResponseBad, s)

/-- `on_master_channel_log_in_rsp()`. -/
def onMasterChannelLogInRsp (cfg : Cfg) (chan : Nat) (m : Msg) (attempt : Nat) (o : ClientOracle)
    (s : Client) : Outcome Failure Client := do
  let (res, s) ← s.readLogInRsp cfg attempt m
  Outcome.check .badState (s.state = .connecting)
  Outcome.check .emptyFunction s.connOnDoneFuncOrEmpty.isSome
  match res with
  -- The channel goes with the failed attempt.
  | .error e => s.backToNull.invokeConnOnDoneFunc (some e) .passOn
  | .ok (n, mdt) =>
    let out := s.out attempt
    if n = 0 then
      Outcome.check .initChannelCount (out.initChannelsByCliReq.getD [] = [])
      -- No init-channels: the out-arguments are written before `expect_msgs()` may find the channel
      -- hosed.
      let s := s.setOut attempt { out with
        initChannelsBySrvReq := out.initChannelsBySrvReq.map (fun _ => [])
        mdt := out.mdt.map (fun _ => some mdt) }
      let (ok, s) ← s.lift (·.expectOpenChannelReqs .openChannelReq o.expect)
      if ok then s.connectSucceeded cfg o.hook else return s
    else
      -- The vector is made with its final size in mind.
      Outcome.check .lengthError (n ≤ cfg.maxVecSize)
      let s := s.setVec chan []
      let cap : InitCapture :=
        { nInitChannels := n, vec := chan, attempt, mdtFromSrv := out.mdt.map (fun _ => mdt) }
      let (_, s) ← s.lift (·.expectOpenChannelReqs (.initOpenChannel cap) o.expect)
      return s

end Client

/-- `Client_session_impl::create_channel_obj()`: hook up to the resources that the server made.
    Its callers assert that it does not fail.  (The source checks the emptiness of the c2s name
    twice, of the s2c name never; an empty name cannot be opened.) -/
def Session.createChannelObj (cfg : Cfg) (mqC2s mqS2c : SharedName) (hndl : Option NativeHandle)
    (active : Bool) (mqOpen : ErrorCode) (s : Session) :
    Outcome Failure (ChannelObj × Session) := do
  let (nickname, s) := s.nextNickname active
  Outcome.check .badResources (cfg.socketStreamEnabled = hndl.isSome)
  Outcome.check .badResources (!cfg.mqsEnabled = mqC2s.isEmpty)
  Outcome.check .badResources (!cfg.mqsEnabled || mqOpen.isNone && !mqS2c.isEmpty)
  let mq := fun name => if cfg.mqsEnabled then some name else none
  return ({ nickname, mqOut := mq mqC2s, mqIn := mq mqS2c, sock := hndl }, s)

namespace Client

/-- Emission of the init-channels and of the metadata into the out-arguments. -/
def emitInitChannels (cap : InitCapture) (chans : Channels) (s : Client) :
    Outcome Failure Client := do
  let out := s.out cap.attempt
  let nByCli := (out.initChannelsByCliReq.getD []).length
  Outcome.check .initChannelCount (nByCli ≤ chans.length)
  Outcome.check .initChannelCount (out.initChannelsBySrvReq.isSome || nByCli = cap.nInitChannels)
  Outcome.check .initChannelCount (out.mdt.isSome = cap.mdtFromSrv.isSome)
  return s.setOut cap.attempt {
    initChannelsByCliReq := out.initChannelsByCliReq.map (fun _ => chans.take nByCli)
    initChannelsBySrvReq := out.initChannelsBySrvReq.map (fun _ => chans.drop nByCli)
    mdt := out.mdt.map (fun _ => cap.mdtFromSrv) }

/-- The last part of `on_master_channel_init_open_channel()`, once all of `chans` are there:
    swap handlers, acknowledge, emit. -/
def initChannelsComplete (cfg : Cfg) (m : Msg) (cap : InitCapture) (chans : Channels)
    (o : ClientOracle) (s : Client) : Outcome Failure Client := do
  let (ok, s) ← s.lift (·.undoExpectOpenChannelReqs o.undo)
  -- Whenever one of these finds the channel hosed, the error handler completes the attempt.
  if !ok then return s
  let (ok, s) ← s.lift (·.expectOpenChannelReqs .openChannelReq o.expect)
  if !ok then return s
  let (c, s) ← s.lift (·.send (some m.id) none (.openChannelToClientRsp .accepted) o.send)
  match c with
  | .refused => return s
  -- NULL state, but `m_master_channel` is kept.
  | .failed e => (s.setState .null).invokeConnOnDoneFunc (some e) .passOn
  | .ok _ =>
    let s ← s.emitInitChannels cap chans
    s.connectSucceeded cfg o.hook

/-- `on_master_channel_init_open_channel()`. -/
def onMasterChannelInitOpenChannel (cfg : Cfg) (m : Msg) (cap : InitCapture) (o : ClientOracle)
    (s : Client) : Outcome Failure Client := do
  let s := s.record (.initOpenChannelRan m.id)
  Outcome.check .badState (s.state = .connecting)
  Outcome.check .emptyFunction s.connOnDoneFuncOrEmpty.isSome
  match m.body with
  | .openChannelToClientReq mqC2s mqS2c _ =>
    let (ch, s) ← s.lift (·.createChannelObj cfg mqC2s mqS2c m.hndl false o.mqOpen)
    let chans := (s.vecs.lookup cap.vec).getD []
    Outcome.check .tooManyInitChannels (chans.length < cap.nInitChannels)
    let chans := chans ++ [some ch]
    let s := s.setVec cap.vec chans
    -- The last one completes the log-in.
    if chans.length ≠ cap.nInitChannels then return s
    else s.initChannelsComplete cfg m cap chans o
  | _ => .failed .badUnionAccess

/-! ### PEER state -/

/-- `on_master_channel_error()`. -/
def onMasterChannelError (cfg : Cfg) (chan : Nat) (e : Err) (s : Client) :
    Outcome Failure Client := do
  -- the observer can be locked only while the channel that it observes exists
  if s.masterChannel.map (·.id) ≠ some chan then return s
  match s.state with
  | .null => .failed .badState
  | .connecting =>
    Outcome.check .emptyFunction s.connOnDoneFuncOrEmpty.isSome
    s.backToNull.invokeConnOnDoneFunc (some e) .passOn
  | .peer => s.liftUnit (·.onMasterChannelErrorPeer cfg e)

/-- What `open_channel()` does with the response. -/
def openChannelRsp (cfg : Cfg) (call req : Nat) (mqOpen : ErrorCode) (m : Msg) (s : Session) :
    Outcome Failure Session := do
  match m.body with
  | .openChannelToServerRsp .accepted mqC2s mqS2c =>
    let (ch, s) ← s.createChannelObj cfg mqC2s mqS2c m.hndl true mqOpen
    return s.returned call (some req) true none (some ch)
  | .openChannelToServerRsp .rejectedPassiveOpen _ _ =>
    return s.returned call (some req) true
      (some .sessionOpenChannelRemotePeerRejectedPassiveOpen) none
  | .openChannelToServerRsp .rejectedResourceUnavailable _ _ =>
    return s.returned call (some req) true
      (some .sessionOpenChannelServerCannotProceedResourceUnavailable) none
  -- The one result that `assert(false)` rules out here.
  | .openChannelToServerRsp .endSentinel _ _ => .failed .badOpenChannelResult
  | _ => .failed .badUnionAccess

/-- What the client has ready for its response to request `m`. -/
def prepare (cfg : Cfg) (m : Msg) (mqOpen : ErrorCode) (s : Session) :
    Outcome Failure (Session.Prepared × Session) := do
  if s.onPassiveOpenSet then
    match m.body with
    | .openChannelToClientReq mqC2s mqS2c _ =>
      let (ch, s) ← s.createChannelObj cfg mqC2s mqS2c m.hndl false mqOpen
      return (⟨.accepted, some ch, none, .openChannelToClientRsp .accepted⟩, s)
    | _ => .failed .badUnionAccess
  else
    return (⟨.rejectedPassiveOpen, none, none, .openChannelToClientRsp .rejectedPassiveOpen⟩, s)

/-- `on_master_channel_open_channel_req()`. -/
def onMasterChannelOpenChannelReq (cfg : Cfg) (m : Msg) (o : ClientOracle) (s : Session) :
    Outcome Failure Session := do
  let s := s.record (.openChannelReqRan m.id)
  let hosed ← s.hosed
  if hosed then return s
  Outcome.check .nullMasterChannel s.masterChannel.isSome
  let (p, s) ← prepare cfg m o.mqOpen s
  s.openChannelReqRespond m p o.send

/-- The thread-W body of `mdt_builder()`. -/
def mdtBuilder (call : Nat) (mdt : Mdt) (s : Client) : Client :=
  let give := fun b => s.setSession (s.giveBuilder call b)
  match s.state with
  | .connecting => give none
  | .null => give (some ⟨true, .openChannelToServerReq mdt, none, none⟩)
  | .peer => give (some ⟨false, .openChannelToServerReq mdt, none, none⟩)

/-- `session_token()`. -/
def sessionToken (s : Client) : Outcome Failure Client :=
  if s.state ≠ .peer then .done (s.record (.sessionTokenReturned true))
  else s.liftUnit (·.sessionToken)

/-! ### The machine -/

/-- Thread W runs a task. -/
def runTask (cfg : Cfg) (o : ClientOracle) (t : Task) (s : Client) : Outcome Failure Client :=
  match t with
  | .masterChannelError chan e => s.onMasterChannelError cfg chan e
  | .logInRsp chan m attempt => s.onMasterChannelLogInRsp cfg chan m attempt o
  | .initOpenChannel _ m cap => s.onMasterChannelInitOpenChannel cfg m cap o
  | .openChannelReq _ m => s.liftUnit (onMasterChannelOpenChannelReq cfg m o)
  | .gracefulSessionEnd _ => s.liftUnit (·.onGracefulSessionEnd)
  | .asyncConnect attempt subClass b => s.asyncConnect cfg attempt subClass b o
  | .mdtBuilder call mdt => .done (s.mdtBuilder call mdt)
  | .openChannel call b => s.liftUnit (·.openChannelBody (s.state = .peer) call b o.send)
  | .sessionToken => s.sessionToken
  | .dtorFinisherQuery => .done (s.setSession s.dtorFinisherQuery)
  | .dtorSendEnd => s.liftUnit (·.dtorSendEnd o.send)
  | .dtorFlush => .done (s.setSession (s.dtorFlush o.flushRuns))
  | .logInReq .. => .disabled
  | .acceptLogIn => .disabled
  | .initHandlers _ => .disabled
  | .preInitError => .disabled

/-- A step of thread U, of thread W or of the channel. -/
inductive Act where
  /-- Thread U calls `mdt_builder()`, and will fill in `mdt`. -/
  | mdtBuilder (call : Nat) (mdt : Mdt)
  /-- Thread U calls `sync_connect()` with a builder; `attempt` names its out-arguments. -/
  | connect (call attempt : Nat) (out : OutArgs) (subClass : Bool)
  /-- Thread U calls `open_channel()` with a builder. -/
  | openChannel (call : Nat)
  | sessionToken
  /-- Thread W runs its next task. -/
  | run (o : ClientOracle)
  /-- Thread W returns from `sync_request()`. -/
  | syncReturn (r : Session.SyncRes) (mqOpen : ErrorCode)
  /-- A sub-class sends a message of its own while it has the connect taken over. -/
  | subClassSend (r : Ret)
  /-- A sub-class completes the connect that it has taken over. -/
  | complete (e : ErrorCode) (r : Ret)
  /-- The channel hands over an in-message. -/
  | deliver (m : Msg)
  /-- The channel finds an error. -/
  | channelError (e : Err)
  | dtorStart
  | dtorStep
  | flushDone
  deriving DecidableEq, Repr

/-- Thread U calls `sync_connect()`: it must have a builder, and one for the log-in. -/
def connect (call attempt : Nat) (out : OutArgs) (subClass : Bool) (s : Client) :
    Outcome Failure Client := do
  let (b, s) ← s.lift (·.takeBuilder call)
  match b with
  | none => .failed .badBuilder
  | some b =>
    Outcome.check .badBuilder b.forLogIn
    let s := s.setOut attempt out
    return s.post (.asyncConnect attempt subClass b)

/-- Thread U calls `open_channel()`. -/
def openChannel (call : Nat) (s : Session) : Outcome Failure Session := do
  let (b, s) ← s.takeBuilder call
  match b with
  | none => return s.returned call none false none none
  | some b => return s.post (.openChannel call b)

/-- A sub-class has taken the connect over, and thread W is free for what it does next. -/
def takenOver (s : Client) : Bool :=
  s.w = .idle && s.state = .connecting &&
    s.connOnDoneFuncOrEmpty.any (fun f => f.kind = .takenOver)

/-- One step of the client.  Thread U calls nothing once the destructor runs; a sub-class acts
    only on a connect that it has taken over, and completes it only while not hosed. -/
def step (cfg : Cfg) (s : Client) (a : Act) : Outcome Failure Client :=
  match a with
  | .mdtBuilder call mdt => do
    Outcome.require (s.dtor = .notStarted)
    return s.post (.mdtBuilder call mdt)
  | .connect call attempt out subClass => do
    Outcome.require (s.dtor = .notStarted)
    s.connect call attempt out subClass
  | .openChannel call => do
    Outcome.require (s.dtor = .notStarted)
    s.liftUnit (openChannel call)
  | .sessionToken => do
    Outcome.require (s.dtor = .notStarted)
    return s.post .sessionToken
  -- Thread W takes the task at the head.
  | .run o => do
    let (t, s) ← s.lift (·.takeTask)
    s.runTask cfg o t
  | .syncReturn r mqOpen =>
    match s.w with
    | .inSyncRequest (.openChannel call _) req rsp =>
      s.liftUnit (·.openChannelSyncReturn (openChannelRsp cfg call req mqOpen) call req rsp r)
    | _ => .disabled
  -- A sub-class that took over sends its own set-up message and completes the attempt later.
  | .subClassSend r => do
    Outcome.require s.takenOver
    let (_, s) ← s.lift (·.send none none .jemallocShmSetup r)
    return s
  | .complete e r => do
    Outcome.require (s.takenOver && s.peerStateErrCodeOrOk.isNone)
    s.completeAsyncConnectAfterCancelingPeerState cfg e r
  | .deliver m => s.liftUnit (·.deliver m)
  | .channelError e => s.liftUnit (·.channelError e)
  | .dtorStart => s.liftUnit (·.dtorStart cfg)
  | .dtorStep => s.liftUnit (·.dtorStep)
  | .flushDone => s.liftUnit (·.dtorFlushDone)

/-! ### What these functions can do -/

section Spec

variable {cfg : Cfg} {s s' : Client} {o : ClientOracle} {e : ErrorCode} {hook : Hook}

/-- Session code with a result, run by a client. -/
theorem lift_done {α : Type} {f : Session → Outcome Failure (α × Session)} {a : α}
    (hd : s.lift f = .done (a, s')) :
    ∃ b, f s.toSession = .done (a, b) ∧ s' = s.setSession b := by
  simp [lift] at hd
  obtain ⟨b, hf, rfl⟩ := hd
  exact ⟨b, hf, rfl⟩

/-- Session code without a result, run by a client. -/
theorem liftUnit_done {f : Session → Outcome Failure Session} (hd : s.liftUnit f = .done s') :
    ∃ b, f s.toSession = .done b ∧ s' = s.setSession b := by
  simp [liftUnit] at hd
  obtain ⟨b, hf, rfl⟩ := hd
  exact ⟨b, hf, rfl⟩

/-- The three ways a completion handler can go. -/
inductive InvokeResult (s : Client) (f : OnDone) : ErrorCode → Client → Prop
  | plain (e : ErrorCode) : InvokeResult s f e
      ((s.setOnDone none).record (.connectDone e (s.out f.attempt)))
  | toNull (hf : f.kind = .wrapper) (e : Err) : InvokeResult s f none
      ((s.setOnDone none).backToNull.record (.connectDone (some e) (s.out f.attempt)))
  | toConnecting (hf : f.kind = .wrapper) : InvokeResult s f none
      (((s.setOnDone none).setState .connecting).setOnDone (some ⟨.takenOver, f.attempt⟩))

/-- The handler that is run is the one of the attempt. -/
theorem invokeConnOnDoneFunc_done (hd : s.invokeConnOnDoneFunc e hook = .done s') :
    ∃ f, s.connOnDoneFuncOrEmpty = some f ∧ InvokeResult s f e s' := by
  cases hf : s.connOnDoneFuncOrEmpty with
  | none => simp [invokeConnOnDoneFunc, hf] at hd
  | some f =>
    refine ⟨f, rfl, ?_⟩
    obtain ⟨kind, attempt⟩ := f
    simp only [invokeConnOnDoneFunc, hf] at hd
    split at hd
    · cases hd; exact .toNull rfl _
    · cases hd; exact .toConnecting rfl
    · cases hd; exact .plain e

/-- A handler that is run outside the sub-class's wrapper's say. -/
theorem invokeConnOnDoneFunc_passOn_done (hd : s.invokeConnOnDoneFunc e .passOn = .done s') :
    ∃ f, s.connOnDoneFuncOrEmpty = some f ∧
      s' = (s.setOnDone none).record (.connectDone e (s.out f.attempt)) := by
  cases hf : s.connOnDoneFuncOrEmpty with
  | none => simp [invokeConnOnDoneFunc, hf] at hd
  | some f =>
    obtain ⟨kind, attempt⟩ := f
    simp only [invokeConnOnDoneFunc, hf] at hd
    cases kind <;> cases e <;> cases hd <;> exact ⟨_, rfl, rfl⟩

/-- An attempt fails in CONNECTING state, and leaves NULL state to its handler. -/
theorem connectFailed_done {e : Err} (hd : s.connectFailed e = .done s') :
    s.state = .connecting ∧
      ∃ f, s.connOnDoneFuncOrEmpty = some f ∧
        InvokeResult (s.setState .null) f (some e) s' := by
  simp only [connectFailed, Outcome.bind_eq_done, Outcome.check_eq_done] at hd
  obtain ⟨-, hs, -, -, hd⟩ := hd
  exact ⟨by simpa using hs, invokeConnOnDoneFunc_done hd⟩

/-- An attempt succeeds: its handler runs in PEER state, and may keep the session from it. -/
theorem connectSucceeded_done (hd : s.connectSucceeded cfg hook = .done s') :
    (cfg.gracefulFinishRequired = true → s'.state ≠ .peer) ∧
      ∃ f, s.connOnDoneFuncOrEmpty = some f ∧ InvokeResult (s.setState .peer) f none s' := by
  simp only [connectSucceeded, Outcome.bind_eq_done] at hd
  obtain ⟨s₁, h₁, hd⟩ := hd
  cases hg : cfg.gracefulFinishRequired with
  | false =>
    simp [hg] at hd
    subst hd
    exact ⟨by simp, invokeConnOnDoneFunc_done h₁⟩
  | true =>
    simp [hg] at hd
    obtain ⟨hs, rfl⟩ := hd
    exact ⟨fun _ => hs, invokeConnOnDoneFunc_done h₁⟩

/-- The results of `async_connect()`. -/
inductive AsyncConnectResult (cfg : Cfg) (attempt : Nat) (subClass : Bool) (b : Builder)
    (o : ClientOracle) (s : Client) : Client → Prop
  | ignored (hs : s.state ≠ .null) :
      AsyncConnectResult cfg attempt subClass b o s (s.record .connectIgnored)
  /-- No PID in the CNS. -/
  | cnsFailed (hs : s.state = .null) (e : Err) (hc : readCns o = .error e) :
      AsyncConnectResult cfg attempt subClass b o s
        (((s.setState .null).setOnDone none).record (.connectDone (some e) (s.out attempt)))
  /-- No socket connection. -/
  | sockFailed (hs : s.state = .null) (pid : Int) (hc : readCns o = .ok pid)
      (hn : pidToString pid ≠ []) (hf : s.srvNamespace = []) (e : Err)
      (hsock : o.sockConnect = some e) :
      AsyncConnectResult cfg attempt subClass b o s
        ((((s.setSession (s.putSrvNamespace (pidToString pid))).setState .null).setOnDone
          none).record (.connectDone (some e) (s.out attempt)))
  /-- The log-in request could not be sent. -/
  | sendFailed (hs : s.state = .null) (pid : Int) (hc : readCns o = .ok pid)
      (hn : pidToString pid ≠ []) (hf : s.srvNamespace = []) (hm : s.masterChannel = none)
      (t : Client)
      (ht : t = ((s.begin attempt subClass).setSession
        (s.putSrvNamespace (pidToString pid))).makeChannel)
      (ch : MasterChannel) (hch : t.masterChannel = some ch) (e : Err)
      (hsend : o.send = .failed e) :
      AsyncConnectResult cfg attempt subClass b o s
        ((((t.setSession (t.failCall ch e)).backToNull).setOnDone none).record
          (.connectDone (some e) (s.out attempt)))
  /-- The channel has reported an error by the time the request is sent. -/
  | refused (hs : s.state = .null) (pid : Int) (hc : readCns o = .ok pid)
      (hn : pidToString pid ≠ []) (hf : s.srvNamespace = []) (hm : s.masterChannel = none)
      (t : Client)
      (ht : t = ((s.begin attempt subClass).setSession
        (s.putSrvNamespace (pidToString pid))).makeChannel)
      (ch : MasterChannel) (hch : t.masterChannel = some ch) (e : Err)
      (hsend : o.send = .refused e) :
      AsyncConnectResult cfg attempt subClass b o s (t.setSession (t.emitError ch e))
  /-- The log-in request is on its way. -/
  | sent (hs : s.state = .null) (pid : Int) (hc : readCns o = .ok pid)
      (hn : pidToString pid ≠ []) (hf : s.srvNamespace = []) (hm : s.masterChannel = none)
      (t : Client)
      (ht : t = ((s.begin attempt subClass).setSession
        (s.putSrvNamespace (pidToString pid))).makeChannel)
      (ch : MasterChannel) (hch : t.masterChannel = some ch) (hsend : o.send = .ok) :
      AsyncConnectResult cfg attempt subClass b o s
        (t.setSession ((t.transmit ch ⟨ch.nextMsgId, none, none,
          logInReq cfg (s.out attempt) b.body.mdt⟩).setChannel
            { ch with nextMsgId := ch.nextMsgId + 1
                      expectsLogInRsp := some (ch.nextMsgId, attempt) }))

/-- `async_connect()` is one of the cases of `AsyncConnectResult`. -/
theorem asyncConnect_done {attempt : Nat} {subClass : Bool} {b : Builder}
    (hd : s.asyncConnect cfg attempt subClass b o = .done s') :
    AsyncConnectResult cfg attempt subClass b o s s' := by
  -- An attempt in another state is ignored with a warning.
  by_cases hs : s.state = .null
  · simp only [asyncConnect, hs, ne_eq, not_true_eq_false, if_false] at hd
    -- The CNS file is read before anything is written.
    cases hc : readCns o with
    | error e =>
      simp only [hc] at hd
      obtain ⟨-, f, hf, hr⟩ := connectFailed_done hd
      cases hf
      cases hr
      exact .cnsFailed hs e hc
    | ok pid =>
      simp only [hc, Outcome.bind_eq_done] at hd
      obtain ⟨s₁, h₁, hd⟩ := hd
      obtain ⟨b₁, hb₁, rfl⟩ := liftUnit_done h₁
      obtain ⟨hn, -, hsrv, rfl⟩ := Session.setSrvNamespace_done hb₁
      have hsrv : s.srvNamespace = [] := hsrv
      -- The namespace is set by now, whatever the socket says.
      cases hsock : o.sockConnect with
      | some e =>
        simp only [hsock] at hd
        obtain ⟨-, f, hf, hr⟩ := connectFailed_done hd
        cases hf
        cases hr
        exact .sockFailed hs pid hc hn hsrv e hsock
      | none =>
        simp only [hsock, Outcome.bind_eq_done, Outcome.check_eq_done, Prod.exists] at hd
        obtain ⟨-, hm, c, s₂, h₂, hd⟩ := hd
        have hm : s.masterChannel = none := Option.isNone_iff_eq_none.mp hm
        obtain ⟨b₂, hb₂, rfl⟩ := lift_done h₂
        obtain ⟨ch, hch, hr⟩ := Session.send_done hb₂
        generalize hsend : o.send = r at hr
        -- The request may be sent, refused with the channel hosed, or fail at once; a fresh channel
        -- was not hosed before.
        cases hr with
        | ok hh =>
          cases hd
          exact .sent hs pid hc hn hsrv hm _ rfl ch hch hsend
        | refusedOld hh e =>
          cases hch
          cases hh
        | refusedNew hh e =>
          cases hd
          exact .refused hs pid hc hn hsrv hm _ rfl ch hch e hsend
        | failed hh e =>
          obtain ⟨-, f, hf, hr⟩ := connectFailed_done hd
          cases hf
          cases hr
          exact .sendFailed hs pid hc hn hsrv hm _ rfl ch hch e hsend
  · simp only [asyncConnect, ne_eq, hs, not_false_eq_true, if_true] at hd
    cases hd
    exact .ignored hs

/-- What reading the log-in response leaves behind, and what it yields. -/
theorem readLogInRsp_done {attempt : Nat} {m : Msg} {res : Except Err (Nat × Mdt)}
    (hd : s.readLogInRsp cfg attempt m = .done (res, s')) :
    (∃ v w name, s' = { s with
      toSession := s.putCliNamespace name, protocolNegotiator := v, protocolNegotiatorAux := w }) ∧
    ∀ n mdt, res = .ok (n, mdt) → ∃ r, m.body = .logInRsp r ∧ mdt = r.metadata ∧
      n = (r.numInitChannelsBySrvReq + ((s.out attempt).initChannelsByCliReq.getD []).length)
        % 2 ^ 64 ∧
      (r.numInitChannelsBySrvReq ≠ 0 → (s.out attempt).initChannelsBySrvReq ≠ none) := by
  simp only [readLogInRsp] at hd
  split at hd
  · rename_i r hr
    split at hd
    · cases hd; exact ⟨⟨_, _, s.cliNamespace, rfl⟩, nofun⟩
    · split at hd
      · cases hd; exact ⟨⟨_, _, s.cliNamespace, rfl⟩, nofun⟩
      · split at hd
        · cases hd; exact ⟨⟨_, _, s.cliNamespace, rfl⟩, nofun⟩
        · rename_i hnull
          split at hd
          · cases hd; exact ⟨⟨_, _, s.cliNamespace, rfl⟩, nofun⟩
          · simp only [Outcome.bind_eq_done] at hd
            obtain ⟨s₁, h₁, hd⟩ := hd
            obtain ⟨b, hb, rfl⟩ := liftUnit_done h₁
            obtain ⟨-, -, -, rfl⟩ := Session.setCliNamespace_done hb
            cases hd
            refine ⟨⟨_, _, r.clientNamespace, rfl⟩, ?_⟩
            rintro n mdt ⟨⟩
            exact ⟨r, hr, rfl, rfl, fun h0 h1 => hnull ⟨h0, h1⟩⟩
  · cases hd; exact ⟨⟨_, _, s.cliNamespace, rfl⟩, nofun⟩

end Spec

end Client

end IpcSession
