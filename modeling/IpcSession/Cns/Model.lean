import IpcSession.Client.Cns
import IpcSession.Machine.Shared
import IpcSession.Names.Decompose

namespace IpcSession

/-!
# The Current Namespace Store

The file that the constructor of a session server writes its PID to, and that the connect attempts
of clients read, under a named mutex.

* `ensureResourceOwnerIsApp` — both overloads of `ensure_resource_owner_is_app()`.
* `OFStream` — the writer's stream: what it has not written yet, and whether it is good.
* `Ctor` — `Session_server_impl::Session_server_impl()`, from the check of the own credentials on.
* `Connect` — `Client_session_impl::async_connect()`, up to the name of the acceptor.
* `Cns.step` — one step of any of them; a process can die before any step of its own.
-/

/-! ### Ownership -/

/-- `App::m_user_id` and `App::m_group_id`, or those of a resource. -/
structure Owner where
  userId : Nat
  groupId : Nat
  deriving DecidableEq, Repr

/-- The codes of the constructor: `S_RESOURCE_OWNER_UNEXPECTED`, and those of the libraries. -/
inductive CtorErr where
  | resourceOwnerUnexpected
  | library (e : Err)
  deriving DecidableEq, Repr

/-- What the constructor reports: truthy (`some`) or success. -/
abbrev CtorCode := Option CtorErr

/-- `ensure_resource_owner_is_app()`, overload 2: of an open descriptor; `fstat` is what the call
    yields. -/
def ensureResourceOwnerIsApp₂ (app : Owner) (fstat : Except Err Owner) : CtorCode :=
  match fstat with
  | .error e => some (.library e)
  | .ok stats =>
    if stats.userId ≠ app.userId ∨ stats.groupId ≠ app.groupId then some .resourceOwnerUnexpected
    else none

/-- `ensure_resource_owner_is_app()`, overload 1: of a path, which `open()` may fail to open. -/
def ensureResourceOwnerIsApp (app : Owner) (opened : ErrorCode) (fstat : Except Err Owner) :
    CtorCode :=
  match opened with
  | some e => some (.library e)
  | none => ensureResourceOwnerIsApp₂ app fstat

/-- The check passes what the application owns, and nothing else. -/
theorem ensureResourceOwnerIsApp_eq_none_iff {app : Owner} {opened : ErrorCode}
    {fstat : Except Err Owner} :
    ensureResourceOwnerIsApp app opened fstat = none ↔ opened = none ∧ fstat = .ok app := by
  obtain ⟨user, group⟩ := app
  unfold ensureResourceOwnerIsApp ensureResourceOwnerIsApp₂
  cases opened with
  | some e => simp
  | none =>
    cases fstat with
    | error e => simp
    | ok stats =>
      obtain ⟨user', group'⟩ := stats
      by_cases h : user' = user ∧ group' = group
      · simp [h.1, h.2]
      · simp only [ne_eq, Except.ok.injEq, Owner.mk.injEq, true_and, ite_eq_right_iff, reduceCtorEq,
          imp_false, h, iff_false, not_not]
        by_cases hu : user' = user
        · exact .inr fun hg => h ⟨hu, hg⟩
        · exact .inl hu

/-! ### The name of the acceptor -/

/-- `Session_base::session_master_socket_stream_acceptor_absolute_name()`; `acceptorType` is the
    type ID of the acceptor. -/
def sessionMasterSocketStreamAcceptorAbsoluteName (cfg : Cfg)
    (acceptorType srvNamespace : SharedName) :
    SharedName :=
  SharedName.div cfg (SharedName.buildConventionalSharedName₂ cfg acceptorType cfg.srvApp.name
    srvNamespace)
    SharedName.sentinel

/-! ### The file and the writer's stream -/

/-- The file, if there is one, and the named mutex. -/
structure CnsFile where
  disk : Option (List Char)
  locked : Bool
  deriving DecidableEq, Repr

/-- `ofstream`: what is written stays in `buf` until the stream is flushed or closed. -/
structure OFStream where
  isOpen : Bool
  good : Bool
  buf : List Char
  deriving DecidableEq, Repr

namespace OFStream

/-- Before the constructor, or where it could not open the file. -/
def unopened : OFStream := ⟨false, false, []⟩

/-- `<<`: a stream that is not good takes nothing. -/
def put (s : OFStream) (cs : List Char) : OFStream :=
  if s.good then { s with buf := s.buf ++ cs } else s

/-- Of the buffer the first `k` characters get to the disk. -/
def spill (s : OFStream) (k : Nat) (disk : Option (List Char)) : Option (List Char) :=
  if s.isOpen then disk.map (· ++ s.buf.take k) else disk

/-- `flush()`: the buffer is gone, whether it got to the disk or not; then the stream is no longer
    good. -/
def flushed (s : OFStream) (ok : Bool) : OFStream := { s with buf := [], good := s.good && ok }

end OFStream

/-! ### The constructor of the session server -/

/-- What the constructor does next. -/
inductive CtorStage where
  | ownCreds | openMutex | lock | openFile | flush | checkOwner | setPermissions | write | close
  | unlock | listen
  /-- It has returned, or thrown the error that it has. -/
  | returned
  /-- The process has died; `holding` says that it had the mutex. -/
  | dead (holding : Bool)
  deriving DecidableEq, Repr

/-- The constructor in the process of this ID. -/
structure Ctor where
  ownProcessId : Nat
  stage : CtorStage
  ourErrCode : CtorCode
  weCreatedCns : Bool
  cnsFile : OFStream
  deriving DecidableEq, Repr

/-- What the environment decides in one step of the constructor. -/
structure CtorOracle where
  ownCreds : Owner
  mutex : ErrorCode := none
  /-- Whether `fs::exists()` finds a file that exists. -/
  found : Bool := true
  fileOpen : ErrorCode := none
  /-- How much of the buffer a flush writes, and whether it works. -/
  written : Nat := 0
  flushOk : Bool := true
  probe : ErrorCode := none
  fstat : Except Err Owner
  permissions : ErrorCode := none
  errno : Err := .other 0
  /-- Creating the acceptor. -/
  acceptor : ErrorCode := none

/-- The constructor has the mutex. -/
def CtorStage.holds : CtorStage → Bool
  | openFile | flush | checkOwner | setPermissions | write | close | unlock => true
  | dead holding => holding
  | _ => false

namespace Ctor

/-- A process starts. -/
def fresh (ownProcessId : Nat) : Ctor :=
  { ownProcessId, stage := .ownCreds, ourErrCode := none, weCreatedCns := false,
    cnsFile := .unopened }

/-- It has returned success: the server listens. -/
def succeeded (c : Ctor) : Bool := c.stage = .returned && c.ourErrCode.isNone

/-- Nothing more comes of it. -/
def ended (c : Ctor) : Bool :=
  match c.stage with
  | .returned => true
  | .dead _ => true
  | _ => false

/-- The name that the server listens on. -/
def listensOn (cfg : Cfg) (acceptorType : SharedName) (c : Ctor) : SharedName :=
  sessionMasterSocketStreamAcceptorAbsoluteName cfg acceptorType (ownSrvNamespace c.ownProcessId)

/-- One step of the constructor. -/
def step (app : Owner) (c : Ctor) (f : CnsFile) (o : CtorOracle) :
    Outcome Failure (Ctor × CnsFile) :=
  match c.stage with
  | .ownCreds =>
    if o.ownCreds ≠ app then
      return ({ c with ourErrCode := some .resourceOwnerUnexpected, stage := .listen }, f)
    else return ({ c with stage := .openMutex }, f)
  | .openMutex =>
    match o.mutex with
    | some e => return ({ c with ourErrCode := some (.library e), stage := .listen }, f)
    | none => return ({ c with stage := .lock }, f)
  | .lock => do
    Outcome.require !f.locked
    return ({ c with stage := .openFile }, { f with locked := true })
  | .openFile =>
    -- An error of `fs::exists()` counts as its finding nothing.
    let c := { c with weCreatedCns := !(f.disk.isSome && o.found), stage := .flush }
    match o.fileOpen with
    | some _ => return ({ c with cnsFile := .unopened }, f)
    | none => return ({ c with cnsFile := ⟨true, true, []⟩ }, { f with disk := some [] })
  | .flush =>
    return ({ c with cnsFile := c.cnsFile.flushed o.flushOk, stage := .checkOwner },
      { f with disk := c.cnsFile.spill o.written f.disk })
  | .checkOwner =>
    return ({ c with ourErrCode := ensureResourceOwnerIsApp app o.probe o.fstat
                     stage := .setPermissions }, f)
  | .setPermissions =>
    let code := if c.ourErrCode.isNone && c.weCreatedCns then o.permissions.map .library
      else c.ourErrCode
    return ({ c with ourErrCode := code, stage := .write }, f)
  | .write =>
    if c.ourErrCode.isSome then return ({ c with stage := .close }, f)
    else
      let file := c.cnsFile.put (cnsContent c.ownProcessId)
      let code := if file.good then none else some (.library o.errno)
      return ({ c with cnsFile := file, ourErrCode := code, stage := .close }, f)
  | .close =>
    -- Nobody looks at whether the destructor could flush.
    return ({ c with cnsFile := .unopened, stage := .unlock },
      { f with disk := c.cnsFile.spill o.written f.disk })
  | .unlock => return ({ c with stage := .listen }, { f with locked := false })
  | .listen =>
    let code := if c.ourErrCode.isNone then o.acceptor.map .library else c.ourErrCode
    return ({ c with ourErrCode := code, stage := .returned }, f)
  | .returned => .disabled
  | .dead _ => .disabled

end Ctor

/-! ### A connect attempt -/

/-- What the attempt does next. -/
inductive ConnectStage where
  | openMutex | lock | read
  /-- It has this line, or an error. -/
  | unlock (line : Except Err (List Char))
  | parse (line : Except Err (List Char))
  /-- It is to connect to this name. -/
  | finished (acceptor : Except Err SharedName)
  | dead (holding : Bool)
  deriving DecidableEq, Repr

/-- What the environment decides in one step of the attempt. -/
structure ConnectOracle where
  mutex : ErrorCode := none
  cnsOpen : ErrorCode := none
  /-- How much of the file can be read. -/
  readable : Nat := 0
  deriving DecidableEq, Repr

/-- The attempt has the mutex. -/
def ConnectStage.holds : ConnectStage → Bool
  | read => true
  | unlock _ => true
  | dead holding => holding
  | _ => false

namespace Connect

/-- `getline()`: the newline is required. -/
def getline (content : List Char) : Except Err (List Char) :=
  match readLine content with
  | none => .error .clientNamespaceStoreBadFormat
  | some line => .ok line

/-- The PID in the line. -/
def parse (line : List Char) : Except Err Int :=
  match parsePid line with
  | none => .error .clientNamespaceStoreBadFormat
  | some pid => .ok pid

/-- One step of the attempt. -/
def step (cfg : Cfg) (acceptorType : SharedName) (c : ConnectStage) (f : CnsFile)
    (o : ConnectOracle) :
    Outcome Failure (ConnectStage × CnsFile) :=
  match c with
  | .openMutex =>
    match o.mutex with
    | some e => return (.finished (.error e), f)
    | none => return (.lock, f)
  | .lock => do
    Outcome.require !f.locked
    return (.read, { f with locked := true })
  | .read =>
    match o.cnsOpen, f.disk with
    | some e, _ => return (.unlock (.error e), f)
    | none, some content => return (.unlock (getline (content.take o.readable)), f)
    | none, none => .disabled
  | .unlock line => return (.parse line, { f with locked := false })
  | .parse (.error e) => return (.finished (.error e), f)
  | .parse (.ok line) =>
    match parse line with
    | .error e => return (.finished (.error e), f)
    | .ok pid => do
      -- `set_srv_namespace()`
      Outcome.check .setSrvNamespace (pidToString pid ≠ [] && pidToString pid ≠ SharedName.sentinel)
      let name := sessionMasterSocketStreamAcceptorAbsoluteName cfg acceptorType (pidToString pid)
      return (.finished (.ok name), f)
  | .finished _ => .disabled
  | .dead _ => .disabled

/-- The steps of the attempt come to what `async_connect()` makes of the file in one go. -/
theorem getline_parse_eq_readCns (o : ClientOracle) (hm : o.mutex = none) (ho : o.cnsOpen = none) :
    (getline o.cns >>= parse) = readCns o := by
  simp only [getline, readCns, hm, ho]
  cases readLine o.cns with
  | none => rfl
  | some line =>
    show parse line = _
    rw [Option.bind_some]
    unfold parse
    cases parsePid line <;> rfl

end Connect

/-! ### All of them -/

/-- Who uses the file. -/
inductive CnsParty where
  | server (c : Ctor)
  | client (c : ConnectStage)
  deriving DecidableEq, Repr

/-- The file and all who use it, or have used it. -/
abbrev Cns := Machine.System CnsParty CnsFile

/-- What the environment decides in one step of a party. -/
inductive CnsTurn where
  | server (o : CtorOracle)
  | client (o : ConnectOracle)
  /-- The process dies. -/
  | die

namespace CnsParty

/-- The party has the mutex. -/
def holds : CnsParty → Bool
  | server c => c.stage.holds
  | client c => c.holds

/-- The party's next step, or its death, which gives no mutex back and writes no buffer. -/
def step (cfg : Cfg) (app : Owner) (acceptorType : SharedName) (p : CnsParty) (f : CnsFile)
    (t : CnsTurn) :
    Outcome Failure (CnsParty × CnsFile) :=
  match p, t with
  | server c, .server o => do
    let (c, f) ← c.step app f o
    return (server c, f)
  | client c, .client o => do
    let (c, f) ← Connect.step cfg acceptorType c f o
    return (client c, f)
  | server c, .die => return (server { c with stage := .dead c.stage.holds }, f)
  | client c, .die => return (client (.dead c.holds), f)
  | _, _ => .disabled

end CnsParty

namespace Cns

/-- The steps that are taken. -/
inductive Act where
  /-- A process with this ID starts, and constructs a session server. -/
  | startServer (ownProcessId : Nat)
  /-- A client starts a connect attempt. -/
  | startConnect
  | turn (i : Nat) (t : CnsTurn)

/-- Nothing has happened since the system was booted. -/
def boot : Cns := ⟨[], ⟨none, false⟩⟩

/-- One step. -/
def step (cfg : Cfg) (app : Owner) (acceptorType : SharedName) (w : Cns) : Act → Outcome Failure Cns
  | .startServer pid => do
    -- What the kernel gives out as IDs of processes.
    Outcome.require (0 < pid && pid < 2 ^ 31)
    return w.join (.server (.fresh pid))
  | .startConnect => return w.join (.client .openMutex)
  | .turn i t => w.turn (CnsParty.step cfg app acceptorType) i t

end Cns

end IpcSession
