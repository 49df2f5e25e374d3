import IpcSession.Server.Model

namespace IpcSession

/-!
# The session server

A model of `Session_server_impl` with the sessions it makes.  Each session is a `Server` of its own,
with its thread Ws; besides there are thread Wa of the acceptor, the graveyard thread, and thread U,
which calls `async_accept()` and at last the destructor.  A `Server_session_dtl` object lives as
long as something holds a pointer to it; whoever lets go of the last one runs its destructor.

* `LogInHandler` — the handler that `async_accept()` gives to `async_accept_log_in()`, step by step.
* `Accepted` — a session that `async_accept()` has made.
* `SessionServer` — `Session_server_impl` and its `State`.
* `SessionServer.release` — letting go of a pointer to a session.
* `SessionServer.step` — one step of any of the threads.
-/

/-- The threads that can come to destroy a session. -/
inductive Thread where
  /-- Thread U, in the destructor of the session server. -/
  | user
  /-- Thread Wa. -/
  | accept
  /-- `m_incomplete_session_graveyard`. -/
  | graveyard
  deriving DecidableEq, Repr

/-- A `Server_session_dtl` object: somebody holds a pointer to it; or its destructor runs in this
    thread; or it has run. -/
inductive Life where
  | alive
  | dying (t : Thread)
  | dead (t : Thread)
  deriving DecidableEq, Repr

/-- How far the handler of `async_accept_log_in()` is, run with this code. -/
inductive LogInHandler where
  /-- It has not been run. -/
  | pending
  /-- It is about to lock its weak pointer. -/
  | entered (e : ErrorCode)
  /-- It holds the session, and is about to erase it from `m_incomplete_sessions`. -/
  | locked (e : ErrorCode)
  /-- It is about to hand the session over, to the graveyard or to the user. -/
  | erased (e : ErrorCode)
  /-- It is about to run the user's handler. -/
  | settled (e : ErrorCode)
  | returned (e : ErrorCode)
  deriving DecidableEq, Repr

namespace LogInHandler

/-- The local pointer of the handler is to the session. -/
def holds : LogInHandler → Bool
  | locked _ => true
  | erased _ => true
  | settled none => true
  | _ => false

/-- The handler is being run. -/
def inProgress : LogInHandler → Bool
  | pending => false
  | returned _ => false
  | _ => true

/-- The code that the handler was run with. -/
def code : LogInHandler → Option ErrorCode
  | pending => none
  | entered e => some e
  | locked e => some e
  | erased e => some e
  | settled e => some e
  | returned e => some e

end LogInHandler

/-- A session that `async_accept()` has made for this request. -/
structure Accepted where
  server : Server
  request : Nat
  handler : LogInHandler
  life : Life
  /-- The session was moved into `*target_session`; what is left of the object is nothing. -/
  moved : Bool
  deriving DecidableEq, Repr

/-- A session as `async_accept()` makes it. -/
def Accepted.made (srvNamespace : SharedName) (request : Nat) : Accepted :=
  { server := Server.constructed srvNamespace, request, handler := .pending, life := .alive
    moved := false }

/-- Thread Wa in the handler of the socket accept. -/
inductive AcceptThread where
  | idle
  /-- The session is made and inserted; its log-in is about to be started. -/
  | starting (i : Nat)
  /-- The log-in has been started; the pointer to the session is about to go. -/
  | returning (i : Nat)
  deriving DecidableEq, Repr

/-- The pointer of thread Wa is to this session. -/
def AcceptThread.holds (i : Nat) : AcceptThread → Bool
  | idle => false
  | starting j => j = i
  | returning j => j = i

/-- How far `~Session_server_impl()` is in `m_state.reset()`, which destroys the members of `State`
    from the last to the first. -/
inductive ServerDtor where
  | notStarted
  /-- `m_incomplete_session_graveyard` is joined. -/
  | joiningGraveyard
  /-- The tasks left in it are destroyed. -/
  | emptyingGraveyard
  /-- `m_mutex` is gone.  `m_master_sock_acceptor` joins thread Wa, and runs the handlers left. -/
  | joiningAccept
  /-- The elements of `m_incomplete_sessions` are destroyed. -/
  | droppingSessions
  | returned
  deriving DecidableEq, Repr

/-- Thread Wa may be running. -/
def ServerDtor.hasAcceptor : ServerDtor → Bool
  | droppingSessions => false
  | returned => false
  | _ => true

/-- `Session_server_impl` and its `State`. -/
structure SessionServer where
  srvNamespace : SharedName
  lastCliNamespace : Nat
  incompleteSessions : List Nat
  /-- The tasks of the graveyard thread: the sessions they hold. -/
  graveyard : List Nat
  graveyardStarted : Bool
  wa : AcceptThread
  /-- The calls of `async_accept()`, with their out-arguments. -/
  requests : List OutArgs
  /-- The requests that wait for a socket. -/
  waiting : List Nat
  sessions : List Accepted
  /-- The runs of the user's handlers. -/
  handled : List (Nat × ErrorCode)
  dtor : ServerDtor
  deriving DecidableEq, Repr

/-- The ways a step of the session server can end the program. -/
inductive SessionServerFailure where
  | session (e : Failure)
  /-- `m_state`, or a member of it, is used once its destruction has begun. -/
  | stateDestroyed
  /-- The session to erase is not in `m_incomplete_sessions`. -/
  | notErased
  /-- The session is gone though its log-in was not aborted. -/
  | notAborted
  /-- The session is gone though its log-in goes on. -/
  | noIncompleteSession
  deriving DecidableEq, Repr

namespace Event

/-- The code that the log-in came to. -/
def logInCode : Event → Option ErrorCode
  | logInDone e _ _ => some e
  | _ => none

/-- `cli_namespace_func()` was called. -/
def isCliNamespaceTaken : Event → Bool
  | cliNamespaceTaken _ => true
  | _ => false

/-- `pre_rsp_setup_func()` was called. -/
def isPreRspSetup : Event → Bool
  | preRspSetupRan => true
  | _ => false

end Event

namespace SessionServer

/-- A session server whose constructor has succeeded.  It was given an `err_code`, or it throws; the
    graveyard thread is started only if `err_code && (!*err_code)`. -/
def constructed (srvNamespace : SharedName) (errCodeGiven : Bool) : SessionServer :=
  { srvNamespace, lastCliNamespace := 0, incompleteSessions := [], graveyard := [],
    graveyardStarted := errCodeGiven, wa := .idle, requests := [], waiting := [], sessions := [],
    handled := [], dtor := .notStarted }

/-! ### Who holds a session -/

/-- Some pointer to the session is left. -/
def held (s : SessionServer) (i : Nat) : Bool :=
  s.incompleteSessions.contains i || s.graveyard.contains i || s.wa.holds i ||
    s.sessions[i]?.any (·.handler.holds)

/-- Change session `i`. -/
def update (i : Nat) (f : Accepted → Accepted) (s : SessionServer) : SessionServer :=
  { s with sessions := s.sessions.modify i f }

/-- A pointer to session `i` has gone, in thread `t`; if it was the last one, so does the
    session. -/
def release (t : Thread) (i : Nat) (s : SessionServer) : SessionServer :=
  if s.held i then s
  else s.update i fun c => if c.moved then c else { c with life := .dying t }

/-- Thread `t` is not in the destructor of a session. -/
def free (t : Thread) (s : SessionServer) : Bool := s.sessions.all (·.life ≠ .dying t)

/-! ### The threads -/

/-- Actions of the threads. -/
inductive Act where
  /-- Thread U calls `async_accept()`. -/
  | asyncAccept (out : OutArgs)
  /-- Thread Wa: the socket accept for this request fails. -/
  | acceptFailed (request : Nat) (e : Err)
  /-- Thread Wa: it succeeds; the session is made and inserted. -/
  | accepted (request : Nat)
  /-- Thread Wa starts the log-in. -/
  | startLogIn
  /-- Thread Wa returns from the handler of the socket accept. -/
  | acceptReturn
  /-- A step of session `i`. -/
  | session (i : Nat) (a : Server.Act)
  /-- The next step of the handler of session `i`'s log-in. -/
  | logInHandler (i : Nat)
  /-- The graveyard thread runs its next task. -/
  | graveyardRun
  /-- The destructor of session `i` returns. -/
  | sessionDestroyed (i : Nat)
  | dtorStart
  | dtorStep
  deriving DecidableEq, Repr

/-- The steps of a session for which its thread W must have returned from the handler. -/
def takesThreadW : Server.Act → Bool
  | .run _ => true
  | .syncReturn .. => true
  | .dtorStep => true
  | _ => false

/-- The calls that the user makes on a session. -/
def isUserCall : Server.Act → Bool
  | .initHandlers _ => true
  | .mdtBuilder .. => true
  | .openChannel _ => true
  | .sessionToken => true
  | _ => false

/-- The steps that a session can take: its user has it once it was moved; until then it is destroyed
    when nobody holds it. -/
def allows (c : Accepted) (a : Server.Act) : Bool :=
  (!takesThreadW a || !c.handler.inProgress) && (!isUserCall a || c.moved) &&
    match c.life with
    | .alive => decide (a ≠ .dtorStart) || c.moved
    | .dying _ => true
    | .dead _ => c.moved

/-- `cli_namespace_func()`: the namespace that the session gets if it asks for one. -/
def nextCliNamespace (s : SessionServer) : SharedName :=
  Nat.toDigits 10 ((s.lastCliNamespace + 1) % 2 ^ 64)

/-- The hooks that `async_accept()` gives to the session. -/
def withHooks (s : SessionServer) : Server.Act → Server.Act
  | .run o => .run { o with cliNamespace := s.nextCliNamespace }
  | a => a

/-- A step of session `i`; `m_last_cli_namespace` goes up by one if `cli_namespace_func()` is
    called, and the handler of the log-in is entered if its code is there. -/
def sessionStep (cfg : Cfg) (i : Nat) (a : Server.Act) (s : SessionServer) :
    Outcome SessionServerFailure SessionServer :=
  match s.sessions[i]? with
  | none => .disabled
  | some c =>
    if !allows c a then .disabled
    else
      match Server.step cfg c.server (s.withHooks a) with
      | .disabled => .disabled
      | .failed e => .failed (.session e)
      -- What the step did to the session server is read off what it logged: the two hooks and the
      -- end of the log-in.
      | .done server => do
        let new := server.log.drop c.server.log.length
        let taken := new.any Event.isCliNamespaceTaken
        Outcome.check .stateDestroyed (!taken || s.dtor = .notStarted)
        -- The hook locks an observer of the session, which must not be gone.
        Outcome.check .noIncompleteSession (!new.any Event.isPreRspSetup || c.life = .alive)
        return { s with
          lastCliNamespace :=
            if taken then (s.lastCliNamespace + 1) % 2 ^ 64 else s.lastCliNamespace
          sessions := s.sessions.set i { c with
            server
            handler := (new.findSome? Event.logInCode).elim c.handler .entered } }

/-- The next step of the handler of session `i`'s log-in. -/
def logInHandler (i : Nat) (s : SessionServer) : Outcome SessionServerFailure SessionServer :=
  match s.sessions[i]? with
  | none => .disabled
  | some c =>
    match c.handler with
    | .entered e =>
      if c.life = .alive then return s.update i fun c => { c with handler := .locked e }
      else do
        -- the weak pointer is empty
        Outcome.check .notAborted (e = some .objectShutdownAbortedCompletionHandler)
        return s.update i fun c => { c with handler := .settled e }
    | .locked e => do
      Outcome.check .stateDestroyed (s.dtor = .notStarted)
      Outcome.check .notErased (s.incompleteSessions.count i = 1)
      let s := { s with incompleteSessions := s.incompleteSessions.erase i }
      return s.update i fun c => { c with handler := .erased e }
    | .erased (some e) => do
      Outcome.check .stateDestroyed (s.dtor = .notStarted)
      let s := { s with graveyard := s.graveyard ++ [i] }
      return s.update i fun c => { c with handler := .settled (some e) }
    | .erased none => return s.update i fun c => { c with handler := .settled none, moved := true }
    | .settled e =>
      let s := { s with handled := s.handled ++ [(c.request, e)] }
      return s.update i fun c => { c with handler := .returned e }
    | _ => .disabled

/-- One part of `m_state.reset()`. -/
def dtorStep (s : SessionServer) : Outcome SessionServerFailure SessionServer :=
  match s.dtor with
  -- The graveyard thread is joined; what is left in its queue goes with the queue.
  | .joiningGraveyard => do
    Outcome.require (s.free .graveyard)
    return { s with dtor := .emptyingGraveyard }
  | .emptyingGraveyard => do
    Outcome.require (s.free .user)
    match s.graveyard with
    | i :: rest => return { s with graveyard := rest }.release .user i
    | [] => return { s with dtor := .joiningAccept }
  -- Thread Wa: the accepts still waiting are aborted.
  | .joiningAccept => do
    Outcome.require (s.wa = .idle && s.free .accept)
    match s.waiting with
    | r :: rest =>
      return { s with
        waiting := rest
        handled := s.handled ++ [(r, some .objectShutdownAbortedCompletionHandler)] }
    | [] => return { s with dtor := .droppingSessions }
  -- Last the container of incomplete sessions.
  | .droppingSessions => do
    Outcome.require (s.free .user)
    match s.incompleteSessions with
    | i :: rest => return { s with incompleteSessions := rest }.release .user i
    | [] => return { s with dtor := .returned }
  | _ => .disabled

/-- One step of the session server. -/
def step (cfg : Cfg) (s : SessionServer) : Act → Outcome SessionServerFailure SessionServer
  -- The user's request goes to the acceptor; `out` is what the out-arguments hold.
  | .asyncAccept out => do
    Outcome.require (s.dtor = .notStarted)
    return { s with
      requests := s.requests ++ [out]
      waiting := s.waiting ++ [s.requests.length] }
  -- Thread Wa: the acceptor reports an error, which is the handler's result as it is.
  | .acceptFailed request e => do
    Outcome.require (s.dtor.hasAcceptor && s.wa = .idle && s.free .accept)
    Outcome.require (s.waiting.contains request)
    return { s with
      waiting := s.waiting.erase request
      handled := s.handled ++ [(request, some e)] }
  -- Thread Wa: a stream. The lambda may not outlive the server, whose members it uses.
  | .accepted request => do
    Outcome.require (s.dtor.hasAcceptor && s.wa = .idle && s.free .accept)
    Outcome.require (s.waiting.contains request)
    Outcome.check .stateDestroyed (s.dtor = .notStarted)
    let i := s.sessions.length
    return { s with
      waiting := s.waiting.erase request
      incompleteSessions := i :: s.incompleteSessions
      wa := .starting i
      sessions := s.sessions ++ [.made s.srvNamespace request] }
  -- The new session's own async_accept_log_in(), out of any lock.
  | .startLogIn =>
    match s.wa with
    | .starting i => do
      let s := { s with wa := .returning i }
      return s.update i fun c =>
        { c with
          server := c.server.asyncAcceptLogIn (s.requests.getD c.request ⟨none, none, none⟩) }
    | _ => .disabled
  | .acceptReturn =>
    match s.wa with
    | .returning i => return { s with wa := .idle }.release .accept i
    | _ => .disabled
  | .session i a => s.sessionStep cfg i a
  | .logInHandler i => s.logInHandler i
  -- The graveyard thread destroys what was posted to it.
  | .graveyardRun => do
    Outcome.require (s.graveyardStarted && s.dtor = .notStarted && s.free .graveyard)
    match s.graveyard with
    | i :: rest => return { s with graveyard := rest }.release .graveyard i
    | [] => .disabled
  -- A session's destructor has returned and its log-in handler is not running any more.
  | .sessionDestroyed i =>
    match s.sessions[i]? with
    | none => .disabled
    | some c =>
      match c.life with
      | .dying t => do
        Outcome.require (c.server.dtor = .returned && c.handler.code.isSome &&
          !c.handler.inProgress)
        return s.update i fun c => { c with life := .dead t }
      | _ => .disabled
  | .dtorStart => do
    Outcome.require (s.dtor = .notStarted)
    return { s with dtor := .joiningGraveyard }
  | .dtorStep => s.dtorStep

/-- One `async_accept()` up to the start of the log-in; the session is number `i`. -/
def acceptPrefix (i : Nat) : List Act :=
  [.asyncAccept ⟨none, none, none⟩, .accepted i, .startLogIn, .acceptReturn]

/-- A log-in that succeeds, with no init-channels, and the handler up to the user's. -/
def logInPrefix (i : Nat) : List Act :=
  acceptPrefix i ++
    [.session i (.run { osProcCreds := ⟨5, 1, 1⟩, osProcInvokedAs := ['/', 'c'] }),
      .session i (.deliver ⟨0, none, none,
        .logInReq ⟨1, 1, .posix, true, some ⟨5, 1, 1⟩, ['c'], .none, [], 0⟩⟩),
      .session i (.run {}), .logInHandler i, .logInHandler i, .logInHandler i, .logInHandler i]

end SessionServer

end IpcSession
