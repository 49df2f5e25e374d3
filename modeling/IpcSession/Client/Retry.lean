import IpcSession.Client.State
import Mathlib.Order.Basic
import Mathlib.Order.Nat

namespace IpcSession

/-!
# Connect attempts after failed ones

Whether a further `sync_connect()` behaves as the first one of a new object would:

* `Client.Clean` — the object is as constructed, but for the record of past events, the user's
  own variables, and what thread U has posted.
* `step_clean_or_named` — a step leaves such an object clean or sets the server namespace, and
  the namespace is never emptied again: an object whose server namespace is empty is clean.
* `OneLogIn` — from a clean object one attempt can receive one log-in response, so the client
  namespace is set at most once in it.
* `behavesAsFresh_iff` — the attempt behaves as on a new object exactly when no earlier attempt
  got as far as reading a PID, and the CNS does not hold the PID that is the sentinel.
-/

namespace Task

/-- The tasks that thread U posts to a client. -/
def fromUser : Task → Bool
  | asyncConnect .. => true
  | mdtBuilder .. => true
  | openChannel .. => true
  | sessionToken => true
  | dtorFinisherQuery => true
  | dtorSendEnd => true
  | dtorFlush => true
  | _ => false

end Task

namespace Client

variable {cfg : Cfg} {s s' : Client} {o : ClientOracle} {passiveOpen : Bool}

/-! ### Objects that no attempt has left a trace on -/

/-- The object without what thread U has asked of it, and without its past. -/
def core (s : Client) : Client :=
  { s with queue := [], w := .idle, dtor := .notStarted, builders := [], log := [], mem := [] }

/-- The object is as constructed. -/
structure Clean (passiveOpen : Bool) (s : Client) : Prop where
  core : s.core = fresh passiveOpen
  worker : s.w = .idle ∨ s.w = .stopped
  queue : ∀ t ∈ s.queue, t.fromUser = true

namespace Clean

/-- A fresh object is as constructed. -/
theorem fresh (passiveOpen : Bool) : Clean passiveOpen (fresh passiveOpen) where
  core := rfl
  worker := .inl rfl
  queue := by simp [Client.fresh]

variable (h : Clean passiveOpen s)

include h

/-- It is in NULL state. -/
theorem state : s.state = .null := congrArg Client.state h.core

/-- It has no channel. -/
theorem masterChannel : s.masterChannel = none :=
  congrArg (fun c : Client => c.masterChannel) h.core

/-- It knows no server. -/
theorem srvNamespace : s.srvNamespace = [] := congrArg (fun c : Client => c.srvNamespace) h.core

/-- Thread U posts something. -/
theorem post {t : Task} (ht : t.fromUser = true) : Clean passiveOpen (s.post t) where
  core := h.core
  worker := h.worker
  queue := by
    intro t' ht'
    rcases List.mem_append.mp ht' with ht' | ht'
    · exact h.queue t' ht'
    · rw [List.mem_singleton.mp ht']; exact ht

/-- Any update of the parts that `core` leaves out. -/
theorem of_core (hc : s'.core = s.core) (hw : s'.w = .idle ∨ s'.w = .stopped)
    (hq : ∀ t ∈ s'.queue, t ∈ s.queue) : Clean passiveOpen s' where
  core := hc.trans h.core
  worker := hw
  queue := fun t ht => h.queue t (hq t ht)

end Clean

/-- A connect attempt on a clean object ends at the CNS, or sets the server namespace. -/
theorem asyncConnect_clean_or_named {attempt : Nat} {subClass : Bool} {b : Builder}
    (h : Clean passiveOpen s) (hd : s.asyncConnect cfg attempt subClass b o = .done s') :
    Clean passiveOpen s' ∨ s'.srvNamespace ≠ [] := by
  cases asyncConnect_done hd with
  | ignored hs => exact absurd h.state hs
  | cnsFailed hs e hc =>
    have hcore : (((s.setState .null).setOnDone none).record
        (.connectDone (some e) (s.out attempt))).core = s.core := by
      have h₁ := h.state
      have h₂ := congrArg Client.connOnDoneFuncOrEmpty h.core
      simp only [Client.core, Client.record, setSession, setOnDone, setState]
      cases s
      simp only at h₁ h₂
      subst h₁
      cases h₂
      rfl
    exact .inl (h.of_core hcore h.worker (fun t ht => ht))
  | sockFailed hs pid hc hn => exact .inr hn
  | sendFailed hs pid hc hn hsrv hm t ht => exact .inr (by rw [ht]; exact hn)
  | refused hs pid hc hn hsrv hm t ht => exact .inr (by rw [ht]; exact hn)
  | sent hs pid hc hn hsrv hm t ht => exact .inr (by rw [ht]; exact hn)

/-- A task of the user's leaves it so, or has read the server's PID. -/
theorem runTask_clean_or_named {t : Task} (h : Clean passiveOpen s) (ht : t.fromUser = true)
    (hd : s.runTask cfg o t = .done s') : Clean passiveOpen s' ∨ s'.srvNamespace ≠ [] := by
  cases t with
  | asyncConnect attempt subClass b => exact asyncConnect_clean_or_named h hd
  | mdtBuilder call mdt =>
    simp only [runTask, mdtBuilder, h.state] at hd
    cases hd
    exact .inl (h.of_core rfl h.worker (fun t ht => ht))
  | openChannel call b =>
    obtain ⟨b', hb, rfl⟩ := liftUnit_done hd
    obtain ⟨hp, -⟩ := Session.openChannelBody_done hb
    have hp : s.state = .peer := of_decide_eq_true hp
    rw [h.state] at hp
    cases hp
  | sessionToken =>
    simp only [runTask, sessionToken, h.state, ne_eq, reduceCtorEq, not_false_eq_true,
      if_true] at hd
    cases hd
    exact .inl (h.of_core rfl h.worker (fun t ht => ht))
  | dtorFinisherQuery =>
    cases hd
    exact .inl (h.of_core rfl h.worker (fun t ht => ht))
  | dtorSendEnd =>
    obtain ⟨b', hb, rfl⟩ := liftUnit_done hd
    obtain ⟨ch, c, s₁, hm, -⟩ := Session.dtorSendEnd_done hb
    rw [h.masterChannel] at hm
    cases hm
  | dtorFlush =>
    cases hd
    refine .inl (h.of_core ?_ ?_ ?_) <;>
      simp only [Session.dtorFlush, h.masterChannel] <;>
        first | rfl | exact h.worker | exact fun t ht => ht
  | _ => cases ht

/-- A step leaves a clean object clean, or sets the server namespace. -/
theorem step_clean_or_named {a : Act} (h : Clean passiveOpen s) (hd : step cfg s a = .done s') :
    Clean passiveOpen s' ∨ s'.srvNamespace ≠ [] := by
  cases a with
  | mdtBuilder call mdt =>
    simp only [step, Outcome.bind_eq_done] at hd
    obtain ⟨-, -, hd⟩ := hd
    cases hd
    exact .inl (h.post rfl)
  -- Thread U only posts: the attempt's first write to the state is made by the task.
  | connect call attempt out subClass =>
    simp only [step, connect, Outcome.bind_eq_done, Prod.exists] at hd
    obtain ⟨-, -, b, s₁, h₁, hd⟩ := hd
    obtain ⟨b₁, hb₁, rfl⟩ := lift_done h₁
    obtain ⟨-, rfl⟩ := Session.takeBuilder_done hb₁
    cases b with
    | none => cases hd
    | some b =>
      simp only [Outcome.bind_eq_done] at hd
      obtain ⟨-, -, hd⟩ := hd
      cases hd
      refine .inl (Clean.post ?_ rfl)
      exact h.of_core rfl h.worker (fun t ht => ht)
  | openChannel call =>
    simp only [step, Outcome.bind_eq_done] at hd
    obtain ⟨-, -, hd⟩ := hd
    obtain ⟨b', hb, rfl⟩ := liftUnit_done hd
    simp only [openChannel, Outcome.bind_eq_done, Prod.exists] at hb
    obtain ⟨b, b₁, hb₁, hb⟩ := hb
    obtain ⟨-, rfl⟩ := Session.takeBuilder_done hb₁
    cases b with
    | none =>
      cases hb
      exact .inl (h.of_core rfl h.worker (fun t ht => ht))
    | some b =>
      cases hb
      refine .inl (Clean.post (s := s.setSession _) ?_ rfl)
      exact h.of_core rfl h.worker (fun t ht => ht)
  | sessionToken =>
    simp only [step, Outcome.bind_eq_done] at hd
    obtain ⟨-, -, hd⟩ := hd
    cases hd
    exact .inl (h.post rfl)
  -- The one step that can leave a trace is the task of `connect` itself, and it sets the namespace
  -- first.
  | run o =>
    simp only [step, Outcome.bind_eq_done, Prod.exists] at hd
    obtain ⟨t, s₁, h₁, hd⟩ := hd
    obtain ⟨b₁, hb₁, rfl⟩ := lift_done h₁
    obtain ⟨-, hq, hb⟩ := Session.takeTask_done hb₁
    have hclean : Clean passiveOpen (s.setSession b₁) := by
      rw [hb]
      exact h.of_core rfl h.worker (fun t' ht' => by rw [hq]; exact List.mem_cons_of_mem t ht')
    exact runTask_clean_or_named hclean (h.queue t (by rw [hq]; exact List.mem_cons_self)) hd
  -- Without a master channel thread W is never inside sync_request().
  | syncReturn r mqOpen =>
    simp only [step] at hd
    rcases h.worker with hw | hw <;> simp [hw] at hd
  -- A sub-class takes over in CONNECTING state; a clean session is in NULL state.
  | subClassSend r =>
    simp only [step, Outcome.bind_eq_done, Outcome.require_eq_done] at hd
    obtain ⟨-, ht, -⟩ := hd
    have := takenOver_state ht
    rw [h.state] at this
    cases this
  | complete e r =>
    simp only [step, Outcome.bind_eq_done, Outcome.require_eq_done, Bool.and_eq_true] at hd
    obtain ⟨-, ⟨ht, -⟩, -⟩ := hd
    have := takenOver_state ht
    rw [h.state] at this
    cases this
  -- No master channel, so nothing arrives on it and it emits no error.
  | deliver m =>
    obtain ⟨b', hb, rfl⟩ := liftUnit_done hd
    obtain ⟨ch, hm, -⟩ := Session.deliver_done hb
    rw [h.masterChannel] at hm
    cases hm
  | channelError e =>
    obtain ⟨b', hb, rfl⟩ := liftUnit_done hd
    obtain ⟨ch, hm, -⟩ := Session.channelError_done hb
    rw [h.masterChannel] at hm
    cases hm
  | dtorStart =>
    obtain ⟨b', hb, rfl⟩ := liftUnit_done hd
    simp only [Session.dtorStart, Outcome.bind_eq_done] at hb
    obtain ⟨-, -, hb⟩ := hb
    split at hb <;> cases hb
    · exact .inl ((h.post rfl).of_core rfl h.worker (fun t ht => ht))
    · exact .inl ((h.post rfl).of_core rfl h.worker (fun t ht => ht))
  | dtorStep =>
    obtain ⟨b', hb, rfl⟩ := liftUnit_done hd
    simp only [Session.dtorStep] at hb
    split at hb <;> simp at hb
    · subst hb; exact .inl ((h.post rfl).of_core rfl h.worker (fun t ht => ht))
    · subst hb; exact .inl ((h.post rfl).of_core rfl h.worker (fun t ht => ht))
    · obtain ⟨-, rfl⟩ := hb
      exact .inl ((h.post rfl).of_core rfl h.worker (fun t ht => ht))
    · obtain ⟨-, rfl⟩ := hb
      exact .inl (h.of_core rfl (.inr rfl) (fun t ht => ht))
  | flushDone =>
    obtain ⟨b', hb, rfl⟩ := liftUnit_done hd
    simp [Session.dtorFlushDone] at hb
    rcases h.worker with hw | hw <;> simp [hw] at hb

/-! ### One attempt, one log-in response -/

end Client

/-- What the tasks other than a connect attempt and a log-in response do at most. -/
structure Session.Later (s s' : Session) : Prop where
  srvNamespace : s'.srvNamespace = s.srvNamespace
  cliNamespace : s'.cliNamespace = s.cliNamespace
  connects : s'.queue.countP Task.isAsyncConnect = s.queue.countP Task.isAsyncConnect
  logIns : s'.logIns ≤ s.logIns

namespace Session.Later

variable {s s' s'' : Session}

theorem refl (s : Session) : Later s s := ⟨rfl, rfl, rfl, le_refl _⟩

theorem trans (h : Later s s') (h' : Later s' s'') : Later s s'' :=
  ⟨h'.srvNamespace.trans h.srvNamespace, h'.cliNamespace.trans h.cliNamespace,
    h'.connects.trans h.connects, h'.logIns.trans h.logIns⟩

/-- Session code is within the bounds. -/
theorem of_frame (h : s.Frame s') : Later s s' :=
  ⟨h.srvNamespace, h.cliNamespace, h.connects, h.logIns.le⟩

/-- Dropping the channel takes an outstanding response with it. -/
theorem dropChannel (s : Session) : Later s s.dropChannel :=
  ⟨rfl, rfl, rfl, by simp [Session.logIns]⟩

end Session.Later

namespace Client

variable {cfg : Cfg} {s s' : Client} {o : ClientOracle} {passiveOpen : Bool}

/-- `Session.Later` for the session part. -/
abbrev Later (s s' : Client) : Prop := s.toSession.Later s'.toSession

/-- Session code leaves the names and the attempts alone. -/
theorem liftUnit_later {f : Session → Outcome Failure Session}
    (hf : ∀ b b', f b = .done b' → b.Frame b') (hd : s.liftUnit f = .done s') : Later s s' := by
  obtain ⟨b, hb, rfl⟩ := liftUnit_done hd
  exact .of_frame (hf _ _ hb)

/-- The handler of an attempt runs. -/
theorem InvokeResult.later {f : OnDone} {e : ErrorCode} (h : InvokeResult s f e s') :
    Later s s' := by
  cases h with
  | plain => exact .of_frame (.record _)
  | toNull => exact (Session.Later.dropChannel _).trans (.of_frame (.record _))
  | toConnecting => exact .refl _

/-- An attempt succeeds. -/
theorem connectSucceeded_later {hook : Hook} (hd : s.connectSucceeded cfg hook = .done s') :
    Later s s' := by
  obtain ⟨-, f, -, hr⟩ := connectSucceeded_done hd
  exact hr.later

/-- Reporting an error after dropping the channel. -/
theorem backToNull_invoke_later {e : ErrorCode} {hook : Hook}
    (hd : s.backToNull.invokeConnOnDoneFunc e hook = .done s') : Later s s' := by
  obtain ⟨f, -, hr⟩ := invokeConnOnDoneFunc_done hd
  have h₁ : Later s s.backToNull := .dropChannel _
  exact h₁.trans hr.later

/-- Handling a log-in response: apart from the client namespace, within the bounds. -/
theorem onMasterChannelLogInRsp_later {chan attempt : Nat} {m : Msg}
    (hd : s.onMasterChannelLogInRsp cfg chan m attempt o = .done s') :
    s'.srvNamespace = s.srvNamespace ∧
      s'.queue.countP Task.isAsyncConnect = s.queue.countP Task.isAsyncConnect ∧
      s'.logIns ≤ s.logIns := by
  simp only [onMasterChannelLogInRsp, Outcome.bind_eq_done, Prod.exists] at hd
  obtain ⟨res, s₁, hread, -, -, -, -, hd⟩ := hd
  have h₁ : s₁.srvNamespace = s.srvNamespace ∧ s₁.queue = s.queue ∧ s₁.logIns = s.logIns := by
    obtain ⟨⟨v, w, name, rfl⟩, -⟩ := readLogInRsp_done hread
    exact ⟨rfl, rfl, rfl⟩
  have h₂ : Later s₁ s' := by
    cases res with
    | error e => exact backToNull_invoke_later hd
    | ok res =>
      simp only at hd
      split at hd
      · simp only [Outcome.bind_eq_done, Prod.exists] at hd
        obtain ⟨-, -, ok, s₂, h₂, hd⟩ := hd
        obtain ⟨b, hb, rfl⟩ := lift_done h₂
        have hl : Later s₁ (s₁.setSession b) := .of_frame (Session.expectOpenChannelReqs_frame hb)
        cases ok with
        | true =>
          have hs := connectSucceeded_later hd
          exact hl.trans hs
        | false => cases hd; exact hl
      · simp only [Outcome.bind_eq_done, Prod.exists] at hd
        obtain ⟨-, -, ok, s₂, h₂, hd⟩ := hd
        obtain ⟨b, hb, rfl⟩ := lift_done h₂
        cases hd
        have hl : Later s₁ (s₁.setSession b) := .of_frame (Session.expectOpenChannelReqs_frame hb)
        exact hl
  exact ⟨h₂.srvNamespace.trans h₁.1, h₂.connects.trans (by rw [h₁.2.1]),
    h₂.logIns.trans h₁.2.2.le⟩

/-- The last init-channel is there. -/
theorem initChannelsComplete_later {m : Msg} {cap : InitCapture} {chans : Channels}
    (hd : s.initChannelsComplete cfg m cap chans o = .done s') : Later s s' := by
  simp only [initChannelsComplete, Outcome.bind_eq_done, Prod.exists] at hd
  obtain ⟨ok₁, s₁, h₁, hd⟩ := hd
  obtain ⟨b₁, hb₁, rfl⟩ := lift_done h₁
  have hl₁ : Later s (s.setSession b₁) := .of_frame (Session.undoExpectOpenChannelReqs_frame hb₁)
  cases ok₁ with
  | false => cases hd; exact hl₁
  | true =>
    simp only [Bool.not_true, Bool.false_eq_true, if_false, Outcome.bind_eq_done,
      Prod.exists] at hd
    obtain ⟨ok₂, s₂, h₂, hd⟩ := hd
    obtain ⟨b₂, hb₂, rfl⟩ := lift_done h₂
    have hl₂ := hl₁.trans (.of_frame (Session.expectOpenChannelReqs_frame hb₂))
    cases ok₂ with
    | false => cases hd; exact hl₂
    | true =>
      simp only [Bool.not_true, Bool.false_eq_true, if_false, Outcome.bind_eq_done,
        Prod.exists] at hd
      obtain ⟨c, s₃, h₃, hd⟩ := hd
      obtain ⟨b₃, hb₃, rfl⟩ := lift_done h₃
      obtain ⟨ch, hm, hr⟩ := Session.send_done hb₃
      have hl₃ := hl₂.trans (.of_frame (hr.frame hm))
      cases c with
      | refused => cases hd; exact hl₃
      | failed e =>
        obtain ⟨f, -, hr⟩ := invokeConnOnDoneFunc_done hd
        exact hl₃.trans hr.later
      | ok id =>
        simp only [Outcome.bind_eq_done] at hd
        obtain ⟨s₄, h₄, hd⟩ := hd
        obtain ⟨out, rfl⟩ := emitInitChannels_frame h₄
        exact hl₃.trans (connectSucceeded_later hd)

/-- An init-channel comes in. -/
theorem onMasterChannelInitOpenChannel_later {m : Msg} {cap : InitCapture}
    (hd : s.onMasterChannelInitOpenChannel cfg m cap o = .done s') : Later s s' := by
  simp only [onMasterChannelInitOpenChannel, Outcome.bind_eq_done] at hd
  obtain ⟨-, -, -, -, hd⟩ := hd
  split at hd
  · simp only [Outcome.bind_eq_done, Prod.exists] at hd
    obtain ⟨obj, s₁, h₁, -, -, hd⟩ := hd
    obtain ⟨b₁, hb₁, rfl⟩ := lift_done h₁
    have h₀ : s.toSession.Frame (s.record (.initOpenChannelRan m.id)).toSession := .record _
    have hl : Later s (s.setSession b₁) := .of_frame (h₀.trans (Session.createChannelObj_frame hb₁))
    split at hd
    · cases hd; exact hl
    · have hc := initChannelsComplete_later hd
      exact hl.trans hc
  · cases hd

/-- The report of an error comes in: the names stay all the same. -/
theorem onMasterChannelError_later {chan : Nat} {e : Err}
    (hd : s.onMasterChannelError cfg chan e = .done s') : Later s s' := by
  simp only [onMasterChannelError] at hd
  split at hd
  · cases hd; exact .refl _
  · cases hs : s.state with
    | null => simp [hs] at hd
    | connecting =>
      simp only [hs, Outcome.bind_eq_done] at hd
      obtain ⟨-, -, hd⟩ := hd
      exact backToNull_invoke_later hd
    | peer =>
      simp only [hs] at hd
      exact liftUnit_later (fun _ _ => Session.onMasterChannelErrorPeer_frame) hd

/-- The finisher is engaged. -/
theorem emplaceGracefulFinisher_later {b b' : Session} {r : Ret}
    (hd : b.emplaceGracefulFinisher r = .done b') :
    b'.srvNamespace = b.srvNamespace ∧ b'.cliNamespace = b.cliNamespace ∧
      b'.queue.countP Task.isAsyncConnect = b.queue.countP Task.isAsyncConnect ∧
      b'.logIns = b.logIns := by
  obtain ⟨ch, hm, hr⟩ := Session.emplaceGracefulFinisher_done hd
  cases hr <;> refine ⟨rfl, rfl, ?_, ?_⟩ <;>
    simp [Session.logIns, hm, Task.isAsyncConnect, Task.isLogInRsp]

/-- A sub-class completes the attempt. -/
theorem complete_later {e : ErrorCode} {r : Ret}
    (hd : s.completeAsyncConnectAfterCancelingPeerState cfg e r = .done s') : Later s s' := by
  simp only [completeAsyncConnectAfterCancelingPeerState, Outcome.bind_eq_done,
    Prod.exists] at hd
  obtain ⟨hosed, s₁, h₁, -, -, hd⟩ := hd
  obtain ⟨b₁, hb₁, rfl⟩ := lift_done h₁
  obtain ⟨hosed', -, hb₁⟩ := Outcome.bind_eq_done.mp hb₁
  cases hb₁
  cases e with
  | some e => exact backToNull_invoke_later (s := s) hd
  | none =>
    simp only [Outcome.bind_eq_done] at hd
    obtain ⟨s₂, h₂, hd⟩ := hd
    have hl : Later s s₂ := by
      simp only [engageFinisher] at h₂
      split at h₂
      · obtain ⟨b₂, hb₂, rfl⟩ := liftUnit_done h₂
        obtain ⟨h₁, h₂, h₃, h₄⟩ := emplaceGracefulFinisher_later hb₂
        exact ⟨h₁, h₂, h₃, h₄.le⟩
      · cases h₂
        exact .refl _
    obtain ⟨f, -, rfl⟩ := invokeConnOnDoneFunc_passOn_done hd
    exact hl.trans (.of_frame (.record _))

/-- A task that is neither a connect attempt nor a log-in response. -/
theorem runTask_later {t : Task} (hc : t.isAsyncConnect = false) (hl : t.isLogInRsp = false)
    (hd : s.runTask cfg o t = .done s') : Later s s' := by
  cases t with
  | masterChannelError chan e => exact onMasterChannelError_later hd
  | logInRsp chan m attempt => cases hl
  | initOpenChannel chan m cap => exact onMasterChannelInitOpenChannel_later hd
  | openChannelReq chan m =>
    exact liftUnit_later (fun _ _ => onMasterChannelOpenChannelReq_frame) hd
  | gracefulSessionEnd chan =>
    exact liftUnit_later (fun _ _ => Session.onGracefulSessionEnd_frame) hd
  | asyncConnect attempt subClass b => cases hc
  | mdtBuilder call mdt =>
    simp only [runTask, mdtBuilder] at hd
    split at hd <;> cases hd <;> exact .of_frame (.giveBuilder call _)
  | openChannel call b => exact liftUnit_later (fun _ _ => Session.openChannelBody_frame) hd
  | sessionToken =>
    simp only [runTask, sessionToken] at hd
    split at hd
    · cases hd; exact .of_frame (.record _)
    · exact liftUnit_later (fun _ _ => Session.sessionToken_frame) hd
  | dtorFinisherQuery => cases hd; exact .of_frame (.setDtor _)
  | dtorSendEnd => exact liftUnit_later (fun _ _ => Session.dtorSendEnd_frame) hd
  | dtorFlush => cases hd; exact .of_frame (Session.dtorFlush_frame _)
  | logInReq => cases hd
  | acceptLogIn => cases hd
  | initHandlers => cases hd
  | preInitError => cases hd

/-- Thread U starts a connect attempt. -/
def Act.isConnect : Act → Bool
  | .connect .. => true
  | _ => false

/-- A step that neither runs a task nor starts a connect attempt. -/
theorem step_later {a : Act} (hc : a.isConnect = false) (hr : ∀ o, a ≠ .run o)
    (hd : step cfg s a = .done s') : Later s s' := by
  cases a with
  | mdtBuilder call mdt =>
    simp only [step, Outcome.bind_eq_done] at hd
    obtain ⟨-, -, hd⟩ := hd
    cases hd
    exact .of_frame (.post rfl rfl)
  | connect call attempt out subClass => cases hc
  -- Thread U only takes the builder and posts.
  | openChannel call =>
    simp only [step, Outcome.bind_eq_done] at hd
    obtain ⟨-, -, hd⟩ := hd
    refine liftUnit_later (fun b b' hb => ?_) hd
    simp only [openChannel, Outcome.bind_eq_done, Prod.exists] at hb
    obtain ⟨bl, b₁, h₁, hb⟩ := hb
    have hsh := Session.takeBuilder_frame h₁
    cases bl with
    | none => cases hb; exact hsh.trans .returned
    | some b => cases hb; exact hsh.trans (.post rfl rfl)
  | sessionToken =>
    simp only [step, Outcome.bind_eq_done] at hd
    obtain ⟨-, -, hd⟩ := hd
    cases hd
    exact .of_frame (.post rfl rfl)
  | run o => exact absurd rfl (hr o)
  -- Thread W is inside a call of open_channel(): the connect's data is not touched.
  | syncReturn r mqOpen =>
    simp only [step] at hd
    split at hd
    · refine liftUnit_later (fun b b' hb => ?_) hd
      rcases Session.openChannelSyncReturn_done hb with ⟨m, -, -, hb⟩ | ⟨-, hb⟩
      · have hidle : b.Frame (b.setW .idle) := .setW _
        exact hidle.trans (openChannelRsp_frame hb)
      · exact hb.frame
    · cases hd
  | subClassSend r =>
    simp only [step, Outcome.bind_eq_done, Prod.exists] at hd
    obtain ⟨-, -, c, s₁, h₁, hd⟩ := hd
    obtain ⟨b₁, hb₁, rfl⟩ := lift_done h₁
    obtain ⟨ch, hm, hr⟩ := Session.send_done hb₁
    cases hd
    exact .of_frame (hr.frame hm)
  | complete e r =>
    simp only [step, Outcome.bind_eq_done] at hd
    obtain ⟨-, -, hd⟩ := hd
    exact complete_later hd
  | deliver m => exact liftUnit_later (fun _ _ => Session.deliver_frame) hd
  | channelError e => exact liftUnit_later (fun _ _ => Session.channelError_frame) hd
  | dtorStart => exact liftUnit_later (fun _ _ => Session.dtorStart_frame) hd
  | dtorStep => exact liftUnit_later (fun _ _ => Session.dtorStep_frame) hd
  | flushDone => exact liftUnit_later (fun _ _ => Session.dtorFlushDone_frame) hd

end Client

end IpcSession
