import IpcSession.Machine.Run
import Mathlib.Algebra.Group.Int.Defs
import Mathlib.Algebra.Group.Nat.Defs
import Mathlib.Data.List.Basic

namespace IpcSession

/-!
# Data of the session layer

The values that both sides of a session exchange and keep:

* `Err`, `ErrorCode` — the codes the session layer emits or looks at; all others are `Err.other`.
* `Failure` — how a thread can end the program: a failed assertion, undefined behaviour, an
  uncaught exception.
* `Cfg` — the template parameters shared by the two sides and the local configuration of each.
* `ChannelObj`, `NativeHandle`, `SharedName` — an opened channel and its resources.
* `Body`, `Msg` — the messages of the session master channel.
* `Event` — what a session does that others can see; a session keeps a record of them.
-/

/-! ### Error codes and failures -/

/-- The error codes named in `ipc::session::error::Code`, the time-out code of the transport
    layer, and all others. -/
inductive Err where
  | objectShutdownAbortedCompletionHandler
  | invalidArgument
  | sessionFinished
  | mutexBipcMiscLibraryError
  | clientNamespaceStoreBadFormat
  | clientMasterLogInResponseBad
  | serverMasterLogInRequestConfigMismatch
  | serverMasterLogInRequestClientAppDisallowedOrUnknown
  | serverMasterLogInRequestClientAppInconsistentCreds
  | sessionOpenChannelActiveTimeout
  | sessionOpenChannelRemotePeerRejectedPassiveOpen
  | sessionOpenChannelServerCannotProceedResourceUnavailable
  | transportTimeout
  | other (code : Nat)
  deriving DecidableEq, Repr

/-- `Error_code`: truthy (`some`) or success. -/
abbrev ErrorCode := Option Err

/-- The ways a step ends the program. -/
inductive Failure where
  /-- `set_srv_namespace()`: the new value is the sentinel, or the namespace is already set. -/
  | setSrvNamespace
  /-- `set_cli_namespace()`: likewise. -/
  | setCliNamespace
  /-- `set_cli_app_ptr()`: already set. -/
  | setCliAppPtr
  /-- A handler asserts a state that is not the current one. -/
  | badState
  /-- A completion handler that must be pending is empty. -/
  | emptyFunction
  /-- `hosed()` before the on-error handler is set. -/
  | hosedBeforePeer
  /-- `hose()` while already hosed. -/
  | hoseTwice
  /-- `m_master_channel` is used while null. -/
  | nullMasterChannel
  /-- `m_master_channel` is non-null where a new one is about to be made, or is not the channel
      that reported the error. -/
  | masterChannelInUse
  /-- The metadata builder is null or of the wrong kind. -/
  | badBuilder
  /-- A union getter is used on a message of another kind. -/
  | badUnionAccess
  /-- A response carries a result that this side rules out. -/
  | badOpenChannelResult
  /-- The resources in a message do not match the channel configuration, or cannot be opened. -/
  | badResources
  /-- More init-channels than announced. -/
  | tooManyInitChannels
  /-- Emission of init-channels ran out of them. -/
  | initChannelCount
  /-- The finisher is used while not engaged. -/
  | finisherNotEngaged
  /-- In PEER state without the finisher that the session type requires. -/
  | peerWithoutFinisher
  /-- A promise is fulfilled twice. -/
  | promiseAlreadySatisfied
  /-- A handler is set twice. -/
  | handlerSetTwice
  /-- A log-in request without claimed credentials. -/
  | noClaimedCreds
  /-- A second error of one channel. -/
  | secondChannelError
  /-- The master channel cannot tell the credentials of the opposing process. -/
  | noPeerCreds
  /-- `std::length_error` from sizing a vector. -/
  | lengthError
  /-- `std::bad_alloc` from sizing a vector. -/
  | badAlloc
  deriving DecidableEq, Repr

/-! ### Names, handles, channels -/

/-- `util::Shared_name`. -/
abbrev SharedName := List Char

/-- Names are compared as the lists that they are. -/
instance SharedName.lawfulBEq : LawfulBEq SharedName := inferInstance

/-- `Shared_name::S_SENTINEL`. -/
def SharedName.sentinel : SharedName := ['0']

/-- `util::Native_handle`: one of the two ends of a pair that `connect_pair()` made. -/
structure NativeHandle where
  pair : Nat
  remote : Bool
  deriving DecidableEq, Repr

/-- The nickname of a channel: how it was opened, and the running number. -/
structure Nickname where
  active : Bool
  id : Nat
  deriving DecidableEq, Repr

/-- A `Channel_obj` in PEER state: the MQ it sends into, the MQ it receives from, its end of
    the socket stream.  A blank `Channel_obj()` is `none : Option ChannelObj`. -/
structure ChannelObj where
  nickname : Nickname
  mqOut : Option SharedName
  mqIn : Option SharedName
  sock : Option NativeHandle
  deriving DecidableEq, Repr

/-- `Session::Channels`: a vector of channels, blank ones included. -/
abbrev Channels := List (Option ChannelObj)

/-- A serialised metadata payload. -/
abbrev Mdt := List UInt8

/-! ### Configuration -/

/-- `schema::MqType`. -/
inductive MqType where
  | none | posix | bipc
  deriving DecidableEq, Repr

/-- `schema::ShmType`. -/
inductive ShmType where
  | none | classic | jemalloc
  deriving DecidableEq, Repr

/-- `util::Process_credentials`. -/
structure ProcessCredentials where
  processId : Int
  userId : Nat
  groupId : Nat
  deriving DecidableEq, Repr

/-- `Client_app`. -/
structure ClientApp where
  name : SharedName
  execPath : List Char
  userId : Nat
  groupId : Nat
  deriving DecidableEq, Repr

/-- `Server_app`, as far as a session reads it. -/
structure ServerApp where
  name : SharedName
  allowedClientApps : List SharedName
  deriving DecidableEq, Repr

/-- The compile-time configuration that both sides must share, and what each side is given.
    `negotiate` and `negotiateAux` are what `compute_negotiated_proto_ver()` of the two
    negotiators yields for an opposing version; `separator`, `rootMagic` and `mqResourceType` are
    constants of `util::Shared_name` and of the MQ type; `maxVecSize` is `Channels::max_size()`. -/
structure Cfg where
  mqTypeOrNone : MqType
  transmitNativeHandles : Bool
  shmType : ShmType
  gracefulFinishRequired : Bool
  localMaxProtoVer : Int
  localMaxProtoVerAux : Int
  negotiate : Int → ErrorCode
  negotiateAux : Int → ErrorCode
  maxVecSize : Nat
  separator : Char
  rootMagic : SharedName
  mqResourceType : SharedName
  cliApp : ClientApp
  ownCreds : ProcessCredentials
  srvApp : ServerApp
  cliAppLookup : SharedName → Option ClientApp

namespace Cfg

/-- `S_MQS_ENABLED`. -/
def mqsEnabled (cfg : Cfg) : Bool := cfg.mqTypeOrNone ≠ .none

/-- `S_SOCKET_STREAM_ENABLED`: handles are transmitted, or there is nothing else. -/
def socketStreamEnabled (cfg : Cfg) : Bool := cfg.transmitNativeHandles || !cfg.mqsEnabled

/-- A configuration for concrete runs: channels are socket streams, no SHM, version 1 of the
    protocol on both layers, one client application. -/
def sample : Cfg :=
  let app : ClientApp := ⟨['c'], ['/', 'c'], 1, 1⟩
  { mqTypeOrNone := .none, transmitNativeHandles := true, shmType := .none,
    gracefulFinishRequired := false, localMaxProtoVer := 1, localMaxProtoVerAux := 1,
    negotiate := fun v => if v < 1 then some (.other 0) else none
    negotiateAux := fun v => if v < 1 then some (.other 0) else none
    maxVecSize := 2 ^ 56, separator := '_', rootMagic := ['l'], mqResourceType := ['m']
    cliApp := app, ownCreds := ⟨5, 1, 1⟩, srvApp := ⟨['s'], [['c']]⟩
    cliAppLookup := fun name => if name = ['c'] then some app else none }

/-- The same with POSIX MQs in the channels, too. -/
def sampleWithMqs : Cfg := { sample with mqTypeOrNone := .posix }

end Cfg

/-! ### Messages -/

/-- `schema::detail::OpenChannelResult`. -/
inductive OpenChannelResult where
  | accepted | rejectedPassiveOpen | rejectedResourceUnavailable | endSentinel
  deriving DecidableEq, Repr

/-- The message that starts the log-in. -/
structure LogInReq where
  maxProtoVer : Int
  maxProtoVerAux : Int
  mqTypeOrNone : MqType
  nativeHandleTransmissionEnabled : Bool
  claimedOwnProcessCredentials : Option ProcessCredentials
  ownApp : SharedName
  shmTypeOrNone : ShmType
  metadata : Mdt
  numInitChannelsByCliReq : Nat
  deriving DecidableEq, Repr

/-- The answer to it. -/
structure LogInRsp where
  maxProtoVer : Int
  maxProtoVerAux : Int
  clientNamespace : SharedName
  metadata : Mdt
  numInitChannelsBySrvReq : Nat
  deriving DecidableEq, Repr

/-- `SessionMasterChannelMessageBody`. -/
inductive Body where
  | logInReq (r : LogInReq)
  | logInRsp (r : LogInRsp)
  | jemallocShmSetup
  | openChannelToClientReq (mqC2s mqS2c : SharedName) (mdt : Mdt)
  | openChannelToClientRsp (r : OpenChannelResult)
  | openChannelToServerReq (mdt : Mdt)
  | openChannelToServerRsp (r : OpenChannelResult) (mqC2s mqS2c : SharedName)
  | gracefulSessionEnd
  deriving DecidableEq, Repr

namespace Body

/-- The requests to open a channel, in either direction. -/
def isOpenChannelReq : Body → Bool
  | openChannelToClientReq .. => true
  | openChannelToServerReq .. => true
  | _ => false

/-- The metadata of a request to open a channel. -/
def mdt : Body → Mdt
  | openChannelToClientReq _ _ mdt => mdt
  | openChannelToServerReq mdt => mdt
  | _ => []

end Body

/-- A structured message: its number on the sender's side, the request it answers, the native
    handle in it, its body. -/
structure Msg where
  id : Nat
  rspTo : Option Nat
  hndl : Option NativeHandle
  body : Body
  deriving DecidableEq, Repr

/-! ### The record of events -/

/-- Where the session was hosed. -/
inductive HoseSite where
  /-- `on_master_channel_error()`. -/
  | masterChannelError
  /-- `open_channel()`, at its `sync_request()`. -/
  | openChannel
  /-- `on_master_channel_open_channel_req()`, at its `send()`. -/
  | openChannelReq
  /-- A `GracefulSessionEnd` came in. -/
  | gracefulSessionEnd
  /-- The error cached in almost-PEER state. -/
  | preInit
  deriving DecidableEq, Repr

/-- Who ran the handler of `async_accept_log_in()`. -/
inductive LogInSite where
  /-- The first thread-W body of `async_accept_log_in()`. -/
  | accept
  /-- The handler of the log-in request, up to the log-in response or with no init-channels. -/
  | request
  /-- The same handler, at the init-channels. -/
  | initChannels
  /-- `on_master_channel_error()`. -/
  | masterChannelError
  /-- The destructor. -/
  | destructor
  deriving DecidableEq, Repr

/-- The out-arguments of a connect or an accept: for each pointer, `none` if it is null, else
    what it points to. -/
structure OutArgs where
  initChannelsByCliReq : Option Channels
  initChannelsBySrvReq : Option Channels
  mdt : Option (Option Mdt)
  deriving DecidableEq, Repr

/-- What a session does that its user or its peer can see. -/
inductive Event where
  /-- A message was sent. -/
  | sent (m : Msg)
  /-- The master channel emitted its hosing error, through its on-error handler or through one
      of the calls made on it. -/
  | channelError (viaHandler : Bool) (e : Err)
  /-- `sync_connect()` returned `true` with this code; `out` is what its out-arguments hold. -/
  | connectDone (e : ErrorCode) (out : OutArgs)
  /-- `sync_connect()` returned `false`. -/
  | connectIgnored
  /-- The handler of `async_accept_log_in()` ran with this code. -/
  | logInDone (e : ErrorCode) (site : LogInSite) (out : OutArgs)
  /-- `cli_namespace_func()` yielded this name. -/
  | cliNamespaceTaken (name : SharedName)
  /-- `pre_rsp_setup_func()` ran. -/
  | preRspSetupRan
  /-- `async_accept_log_in()` sent message `id`, which opens an init-channel. -/
  | initChannelSent (id : Nat)
  /-- The on-error handler ran. -/
  | onErr (e : Err) (site : HoseSite)
  /-- The passive-open handler ran for request `req` of the peer. -/
  | passiveOpen (req : Nat) (ch : Option ChannelObj) (mdt : Mdt)
  /-- `init_handlers()` returned. -/
  | initHandlersReturned (ok : Bool)
  /-- `mdt_builder()` returned, null or not. -/
  | mdtBuilderReturned (call : Nat) (ok : Bool)
  /-- `open_channel()` returned; `req` is the request it sent, if any; `target` is what
      `*target_channel` was set to, if it was. -/
  | openChannelReturned (call : Nat) (req : Option Nat) (ret : Bool) (err : ErrorCode)
      (target : Option ChannelObj)
  /-- `session_token()` returned, nil or not. -/
  | sessionTokenReturned (nil : Bool)
  /-- `on_master_channel_init_open_channel()` ran for message `id` of the peer. -/
  | initOpenChannelRan (id : Nat)
  /-- `on_master_channel_open_channel_req()` ran for message `id` of the peer. -/
  | openChannelReqRan (id : Nat)
  /-- A `CREATE_ONLY` construction of an MQ in this direction was given this name. -/
  | mqTried (c2s : Bool) (name : SharedName)
  /-- An MQ was created under this name. -/
  | mqCreated (name : SharedName)
  /-- The MQ of this name was removed. -/
  | mqRemoved (name : SharedName)
  /-- `connect_pair()` made this pair. -/
  | pairMade (pair : Nat)
  /-- `create_channel_and_resources()` returned `true`: the local channel, the handle and the
      names for the peer. -/
  | resourcesCreated (ch : ChannelObj) (hndl : Option NativeHandle) (mqC2s mqS2c : SharedName)
  deriving DecidableEq, Repr

end IpcSession
