import IpcSession.Client.Calls
import IpcSession.Client.StageSafety

namespace IpcSession

/-!
# The client session's calls are safe in every state

Thread U makes one call of the public API after another; each blocks until thread W is through with
it, and the overloads without a builder argument are two calls in one.

* `Client.Api` — a client, and where thread U stands.
* `Client.Api.followsRule` — the documented rule on builders.
* `Client.Api.avoids` — the calls that keep clear of three defects: `open_channel()` without a
  builder in NULL state, `sync_connect()` without one in PEER state, and a connect attempt that
  reads a PID where the server namespace is set, or PID 0.
* `Client.CallsSafe` — what each call comes to in each state.
* `Client.callsSafe_of_kept` — **in the runs that keep clear of the defects every call is safe.**
-/

/-- The tasks that calls of the public API post. -/
def Task.isCall : Task → Bool
  | asyncConnect .. => true
  | mdtBuilder .. => true
  | openChannel .. => true
  | sessionToken => true
  | _ => false

namespace Client

variable {cfg : Cfg} {s s' : Client} {o : ClientOracle} {passiveOpen : Bool}

/-- Something of a call is left to do: its task waits, thread W is in the midst of it, or a connect
    attempt is not completed. -/
def inCall (s : Client) : Bool :=
  s.queue.any Task.isCall || s.w.inOpenChannel || s.state = .connecting

/-- The overloads that take no builder: `sync_connect(err_code)` and
    `open_channel(target_channel, err_code)`. -/
inductive Overload where
  | syncConnect (attempt : Nat) (subClass : Bool)
  | openChannel
  deriving DecidableEq, Repr

/-- A call of the public API; `builder` names a builder, `name` is the name for a new one. -/
inductive Call where
  | mdtBuilder (name : Nat) (mdt : Mdt)
  | syncConnect (builder attempt : Nat) (out : OutArgs) (subClass : Bool)
  | openChannel (builder : Nat)
  | overload (name : Nat) (f : Overload)
  | sessionToken
  deriving DecidableEq, Repr

/-- How thread U starts the call. -/
def Call.start : Call → Act
  | mdtBuilder name mdt => .mdtBuilder name mdt
  | syncConnect builder attempt out subClass => .connect builder attempt out subClass
  | openChannel builder => .openChannel builder
  | overload name _ => .mdtBuilder name []
  | sessionToken => .sessionToken

/-- How an overload goes on once it has a builder: with the other overload. -/
def Overload.proceed (name : Nat) : Overload → Act
  | syncConnect attempt subClass => .connect name attempt ⟨none, none, none⟩ subClass
  | openChannel => .openChannel name

/-- The state that an overload is for. -/
def Overload.state : Overload → ClientState
  | syncConnect .. => .null
  | openChannel => .peer

/-- A client whose user calls the public API. -/
structure Api where
  client : Client
  /-- The overload that thread U has started, and the name of the builder that it waits for. -/
  overload : Option (Nat × Overload)
  deriving DecidableEq, Repr

namespace Api

def fresh (passiveOpen : Bool) : Api := ⟨Client.fresh passiveOpen, none⟩

inductive Act where
  /-- Thread U makes a call. -/
  | call (c : Call)
  /-- Thread U goes on in an overload. -/
  | proceed
  /-- Thread W, the channel, or a sub-class. -/
  | other (a : Client.Act)
  deriving DecidableEq, Repr

/-- A step that is not thread U's. -/
def isOther : Client.Act → Bool
  | .run _ => true
  | .syncReturn .. => true
  | .subClassSend _ => true
  | .complete .. => true
  | .deliver _ => true
  | .channelError _ => true
  | _ => false

/-- The name of the builder that the call brings about is not in use. -/
def nameIsNew (s : Client) : Call → Bool
  | .overload name _ => s.builders.all (fun p => p.1 ≠ name)
  | _ => true

/-- What thread U is to go on with after its first step of the call. -/
def rest : Call → Option (Nat × Overload)
  | .overload name f => some (name, f)
  | _ => none

/-- One step.  Thread U makes its next call, and goes on in an overload, when nothing is left to do
    of what it called before. -/
def step (cfg : Cfg) (s : Api) : Act → Outcome Failure Api
  | .call c => do
    Outcome.require (s.overload.isNone && !s.client.inCall && nameIsNew s.client c)
    let client ← Client.step cfg s.client c.start
    return ⟨client, rest c⟩
  | .proceed =>
    match s.overload with
    | none => .disabled
    | some (name, f) => do
      Outcome.require (!s.client.inCall)
      let client ← Client.step cfg s.client (f.proceed name)
      return ⟨client, none⟩
  | .other a => do
    Outcome.require (isOther a)
    let client ← Client.step cfg s.client a
    return { s with client }

/-- The user follows the rule on builders. -/
def followsRule (s : Api) : Act → Bool
  | .call c => s.client.followsRule c.start
  | _ => true

/-- A connect attempt that gets to read a PID finds the server namespace not set, and a PID other
    than the sentinel. -/
def readsOnce (s : Client) : Client.Act → Bool
  | .run o =>
    match s.queue, readCns o with
    | .asyncConnect .. :: _, .ok pid => s.state ≠ .null || s.srvNamespace = [] && pid ≠ 0
    | _, _ => true
  | _ => true

/-- The step is none in which a call is known to go wrong. -/
def avoids (s : Api) : Act → Bool
  | .call (.overload _ f) => s.client.state = f.state
  | .other a => readsOnce s.client a
  | _ => true

/-- The opposing process, and the sub-class, do as they should. -/
def conforms (cfg : Cfg) (s : Api) : Act → Bool
  | .other a => serverConforms cfg s.client a && subClassConforms cfg s.client a
  | _ => true

/-- The steps of the runs in question. -/
def kept (cfg : Cfg) (s : Api) (a : Act) : Bool :=
  s.followsRule a && s.avoids a && s.conforms cfg a

/-- The steps that belong to a call: thread U's, and the tasks that thread W runs for it. -/
def isCallStep (s : Api) : Act → Bool
  | .other (.run _) => s.client.queue.head?.any fun t =>
    t.isCall || t.isStage || t.isMasterChannelError && s.client.state = .connecting
  | _ => true

end Api

/-- What each call comes to. -/
structure CallsSafe (cfg : Cfg) (s : Api) : Prop where
  /-- No call fails an assertion. -/
  fine : ∀ a, s.isCallStep a = true → s.kept cfg a = true → ∀ f, Api.step cfg s a ≠ .failed f
  /-- Before PEER state there is no builder to call `open_channel()` with, and none of its
      bodies. -/
  openChannelBefore : s.client.state ≠ .peer →
    (∀ call b, (call, some b) ∈ s.client.builders → b.forLogIn = true) ∧
      ∀ t ∈ s.client.queue, t.isOpenChannel = false
  /-- With a null builder it returns `false`, and has no effect. -/
  openChannelNull : ∀ call s₁, s.client.dtor = .notStarted →
    s.client.takeBuilder call = .done (none, s₁) → Client.step cfg s.client (.openChannel call) =
      .done (s.client.setSession (s₁.returned call none false none none))
  /-- With a builder, thread U leaves the call to thread W and waits, whatever the state. -/
  openChannelPosted : ∀ call b s₁, s.client.dtor = .notStarted →
    s.client.takeBuilder call = .done (some b, s₁) → Client.step cfg s.client (.openChannel call) =
      .done (s.client.setSession (s₁.post (.openChannel call b)))
  /-- On a hosed session it then returns `false` with the code clear, and has no effect. -/
  openChannelHosed : ∀ call b ts o, s.client.w = .idle →
    s.client.queue = .openChannel call b :: ts →
    s.client.peerStateErrCodeOrOk.isSome = true → Client.step cfg s.client (.run o) =
      .done (s.client.setSession (Session.returned call none false none none
        { s.client.toSession with queue := ts }))
  /-- Outside of PEER state `session_token()` returns the nil token. -/
  sessionTokenBefore : ∀ ts o, s.client.w = .idle → s.client.queue = .sessionToken :: ts →
    s.client.state ≠ .peer → Client.step cfg s.client (.run o) =
      .done (s.client.setSession (Session.record (.sessionTokenReturned true)
        { s.client.toSession with queue := ts }))
  /-- Outside of NULL state `sync_connect()` returns `false`, and has no effect. -/
  syncConnectAgain : ∀ attempt subClass b ts o, s.client.w = .idle →
    s.client.queue = .asyncConnect attempt subClass b :: ts → s.client.state ≠ .null →
    Client.step cfg s.client (.run o) =
      .done (s.client.setSession (Session.record .connectIgnored
        { s.client.toSession with queue := ts }))

/-- Everything that is known between two steps. -/
structure ApiInv (passiveOpen : Bool) (s : Api) : Prop where
  stage : StageInv s.client
  clean : s.client.srvNamespace = [] → Clean passiveOpen s.client
  calls : CallsInv s.client
  overload : ∀ name f, s.overload = some (name, f) → s.client.state = f.state ∧
    s.client.queue.countP Task.isAsyncConnect = 0 ∧
      ∀ bl, (name, bl) ∈ s.client.builders → ∃ b, bl = some b ∧
        b.forLogIn = decide (f.state = .null)

/-- Nobody has called anything yet. -/
theorem apiInv_fresh (passiveOpen : Bool) : ApiInv passiveOpen (.fresh passiveOpen) :=
  ⟨stageInv_fresh passiveOpen, fun _ => .fresh passiveOpen, callsInv_fresh passiveOpen,
    fun _ _ h => (by cases h)⟩

/-! ### What the other threads leave alone -/

/-- No step but thread U's own starts a connect attempt. -/
theorem step_connects {a : Act} (hc : a.isConnect = false) (hd : step cfg s a = .done s')
    (hq : s.queue.countP Task.isAsyncConnect = 0) : s'.queue.countP Task.isAsyncConnect = 0 := by
  by_cases hr : ∃ o, a = .run o
  · obtain ⟨o, rfl⟩ := hr
    simp only [step, Outcome.bind_eq_done, Prod.exists] at hd
    obtain ⟨t, s₁, h₁, hd⟩ := hd
    obtain ⟨b, hb, rfl⟩ := lift_done h₁
    obtain ⟨hcount, -, -, -⟩ := takeTask_counts hb
    have hct : t.isAsyncConnect = false := by
      cases ht : t.isAsyncConnect with
      | false => rfl
      | true => rw [hq, ht] at hcount; simp at hcount
    have hb₀ : b.queue.countP Task.isAsyncConnect = 0 := by omega
    cases hl : t.isLogInRsp with
    | false => exact (runTask_later hct hl hd).connects.trans hb₀
    | true =>
      cases t with
      | logInRsp chan m attempt => exact (onMasterChannelLogInRsp_later hd).2.1.trans hb₀
      | _ => cases hl
  · exact (step_later hc (fun o ho => hr ⟨o, ho⟩) hd).connects.trans hq

/-- Thread W gives out no builder but those of `mdt_builder()`. -/
theorem runTask_builders {t : Task} (hd : s.runTask cfg o t = .done s') :
    (∀ p ∈ s'.builders, p ∈ s.builders) ∨ ∃ call mdt, t = .mdtBuilder call mdt := by
  -- Most tasks leave the bookkeeping of the calls as it is.
  have lifted : ∀ {f : Session → Outcome Failure Session},
      (∀ b, f s.toSession = .done b → s.toSession.SameCalls b) → s.liftUnit f = .done s' →
        ∀ p ∈ s'.builders, p ∈ s.builders := by
    intro f hf hd
    obtain ⟨b, hb, rfl⟩ := liftUnit_done hd
    exact (hf b hb).builders
  cases t with
  | mdtBuilder call mdt => exact .inr ⟨call, mdt, rfl⟩
  | masterChannelError chan e => exact .inl (onMasterChannelError_sameCalls hd).builders
  | logInRsp chan m attempt => exact .inl (onMasterChannelLogInRsp_sameCalls hd).builders
  | initOpenChannel chan m cap => exact .inl (onMasterChannelInitOpenChannel_sameCalls hd).builders
  | openChannelReq chan m =>
    exact .inl (lifted (fun b hb => onMasterChannelOpenChannelReq_sameCalls hb) hd)
  | gracefulSessionEnd chan =>
    exact .inl (lifted (fun b hb => Session.onGracefulSessionEnd_sameCalls hb) hd)
  | asyncConnect attempt subClass b => exact .inl (asyncConnect_sameCalls hd).builders
  | openChannel call bl =>
    obtain ⟨b, hb, rfl⟩ := liftUnit_done hd
    rcases Session.openChannelBody_calls hb with hs | ⟨b₁, req, hs, rfl⟩
    · exact .inl hs.builders
    · exact .inl hs.builders
  | sessionToken =>
    simp only [runTask, sessionToken] at hd
    split at hd
    · cases hd
      exact .inl fun p hp => hp
    · exact .inl (lifted (fun b hb => Session.sessionToken_sameCalls hb) hd)
  | dtorFinisherQuery =>
    cases hd
    exact .inl fun p hp => hp
  | dtorSendEnd => exact .inl (lifted (fun b hb => Session.dtorSendEnd_sameCalls hb) hd)
  | dtorFlush =>
    cases hd
    exact .inl (Session.dtorFlush_sameCalls _).builders
  | logInReq => cases hd
  | acceptLogIn => cases hd
  | initHandlers => cases hd
  | preInitError => cases hd

/-- A builder that is there after a step of another thread was there, or it fits the state. -/
theorem step_builders {a : Act} (ha : Api.isOther a = true) (hd : step cfg s a = .done s') :
    ∀ p ∈ s'.builders, p ∈ s.builders ∨ (s.state ≠ .connecting →
      ∃ b, p.2 = some b ∧ b.forLogIn = decide (s.state = .null)) := by
  intro p hp
  cases a with
  | run o =>
    simp only [step, Outcome.bind_eq_done, Prod.exists] at hd
    obtain ⟨t, s₁, h₁, hd⟩ := hd
    obtain ⟨b, hb, rfl⟩ := lift_done h₁
    obtain ⟨-, -, hbs⟩ := Session.takeTask_done hb
    have hbb : b.builders = s.builders := by rw [hbs]
    -- A task hands a builder back to the user only as mdt_builder()'s answer.
    rcases runTask_builders (s := s.setSession b) hd with hsub | ⟨call, mdt, rfl⟩
    · exact .inl (hbb ▸ hsub p hp)
    · cases hd
      simp only [mdtBuilder] at hp
      -- A log-in builder in NULL state, one for a channel in PEER state, none in between.
      split at hp <;> rename_i hst <;> have hst : s.state = _ := hst
      · exact .inr fun hn => absurd hst hn
      · rcases List.mem_cons.mp hp with rfl | hp
        · exact .inr fun _ => ⟨_, rfl, by rw [hst]; rfl⟩
        · exact .inl (hbb ▸ hp)
      · rcases List.mem_cons.mp hp with rfl | hp
        · exact .inr fun _ => ⟨_, rfl, by rw [hst]; rfl⟩
        · exact .inl (hbb ▸ hp)
  | syncReturn r mqOpen =>
    simp only [step] at hd
    split at hd
    · obtain ⟨b, hb, rfl⟩ := liftUnit_done hd
      have hidle : s.toSession.SameCalls (s.toSession.setW .idle) := .setW rfl
      rcases Session.openChannelSyncReturn_done hb with ⟨m, -, -, hr⟩ | ⟨-, hr⟩
      · exact .inl ((hidle.trans (openChannelRsp_sameCalls hr)).builders p hp)
      · exact .inl (hr.sameCalls.builders p hp)
    · cases hd
  | subClassSend r =>
    simp only [step, Outcome.bind_eq_done, Prod.exists] at hd
    obtain ⟨-, -, c, s₁, h₁, hd⟩ := hd
    cases hd
    obtain ⟨b, hb, rfl⟩ := lift_done h₁
    obtain ⟨ch, -, hr⟩ := Session.send_done hb
    exact .inl (hr.sameCalls.builders p hp)
  | complete e r =>
    simp only [step, Outcome.bind_eq_done] at hd
    obtain ⟨-, -, hd⟩ := hd
    exact .inl ((completeAsyncConnect_sameCalls hd).builders p hp)
  | deliver m =>
    obtain ⟨b, hb, rfl⟩ := liftUnit_done hd
    exact .inl ((Session.deliver_sameCalls hb).builders p hp)
  | channelError e =>
    obtain ⟨b, hb, rfl⟩ := liftUnit_done hd
    exact .inl ((Session.channelError_sameCalls hb).builders p hp)
  | _ => cases ha

/-- An object whose server namespace is empty stays clean. -/
theorem step_clean {a : Act} (hc : s.srvNamespace = [] → Clean passiveOpen s)
    (hd : step cfg s a = .done s') : s'.srvNamespace = [] → Clean passiveOpen s' := by
  intro hn'
  by_cases hn : s.srvNamespace = []
  · rcases step_clean_or_named (hc hn) hd with hclean | hnamed
    · exact hclean
    · exact absurd hn' hnamed
  · exfalso
    cases hr : readsPid s a with
    | true => exact step_named hr hd hn'
    | false => exact hn ((step_srvNamespace hr hd).symm.trans hn')

/-! ### The invariant -/

/-- Outside of a connect attempt no attempt is queued, and none goes on. -/
theorem not_inCall (h : s.inCall = false) : s.queue.countP Task.isAsyncConnect = 0 ∧
    s.state ≠ .connecting := by
  simp only [inCall, Bool.or_eq_false_iff, decide_eq_false_iff_not] at h
  refine ⟨List.countP_eq_zero.mpr fun t ht hc => ?_, h.2⟩
  have hno : t.isCall = false := by
    simpa using List.any_eq_false.mp h.1.1 t ht
  cases t with
  | asyncConnect => cases hno
  | _ => cases hc

/-- Nor is one under way. -/
theorem not_underWay_of_not_inCall (h : s.inCall = false) : s.underWay = false := by
  simp [underWay, (not_inCall h).2]

/-- Thread U posts its call. -/
theorem stageInv_of_call {a : Act} (h : StageInv s) (hc : s.srvNamespace = [] → Clean passiveOpen s)
    (hi : s.inCall = false) (ha : Api.isOther a = false) (hd : step cfg s a = .done s') :
    StageInv s' := by
  refine stageInv_step h hc ?_ (fun _ _ _ _ _ hu => ?_) hd
  · cases a <;> first | rfl | cases ha
  · rw [not_underWay_of_not_inCall hi] at hu
    cases hu

/-- The start of a call is not one of the steps that the rule leaves free. -/
theorem Call.start_isOther (c : Call) : Api.isOther c.start = false := by
  cases c <;> rfl

/-- Nor is an overload's going on with `open_channel()`. -/
theorem Overload.proceed_isOther (name : Nat) (f : Overload) :
    Api.isOther (f.proceed name) = false := by
  cases f <;> rfl

/-- The builder that an overload goes on with is of the kind that the other overload takes. -/
theorem ApiInv.followsRule_proceed {s : Api} {name : Nat} {f : Overload}
    (h : ApiInv passiveOpen s) (hs : s.overload = some (name, f)) :
    s.client.followsRule (f.proceed name) = true := by
  obtain ⟨-, -, hb⟩ := h.overload name f hs
  cases hof : s.client.builderOf name with
  | none => cases f <;> simp [Overload.proceed, followsRule, hof]
  | some bl =>
    obtain ⟨b, rfl, hl⟩ := hb bl (mem_of_builderOf hof)
    cases f <;> simp [Overload.proceed, followsRule, hof, hl, Overload.state]

/-- Every step that keeps to the rule keeps what is known of the calls. -/
theorem ApiInv.step {s s' : Api} {a : Api.Act} (h : ApiInv passiveOpen s)
    (hk : s.kept cfg a = true) (hd : Api.step cfg s a = .done s') : ApiInv passiveOpen s' := by
  simp only [Api.kept, Bool.and_eq_true] at hk
  obtain ⟨⟨hrule, hav⟩, henv⟩ := hk
  cases a with
  -- Thread U enters a call: a convenience overload starts with mdt_builder(), whose answer it will
  -- pass on.
  | call c =>
    simp only [Api.step, Outcome.bind_eq_done, Outcome.require_eq_done, Bool.and_eq_true,
      Bool.not_eq_true'] at hd
    obtain ⟨-, ⟨⟨-, hi⟩, hnew⟩, client, hstep, hd⟩ := hd
    cases hd
    refine ⟨stageInv_of_call h.stage h.clean hi c.start_isOther hstep, step_clean h.clean hstep,
      step_callsInv h.calls hrule hstep, fun name f hf => ?_⟩
    cases c with
    | overload name' f' =>
      cases hf
      have hst : s.client.state = f.state := of_decide_eq_true hav
      obtain ⟨hq, hs⟩ := not_inCall hi
      refine ⟨(step_state hs rfl hstep).trans hst, step_connects rfl hstep hq, fun bl hbl => ?_⟩
      simp only [Call.start, Client.step, Outcome.bind_eq_done] at hstep
      obtain ⟨-, -, hstep⟩ := hstep
      cases hstep
      -- The call's name is new, so no builder goes by it yet.
      have hno := List.all_eq_true.mp hnew (name, bl) hbl
      simp at hno
    | _ => cases hf
  -- The overload goes on with the builder it was given, in the state it began in.
  | proceed =>
    simp only [Api.step] at hd
    split at hd
    · cases hd
    · rename_i name f hf
      simp only [Outcome.bind_eq_done, Outcome.require_eq_done, Bool.not_eq_true'] at hd
      obtain ⟨-, hi, client, hstep, hd⟩ := hd
      cases hd
      exact ⟨stageInv_of_call h.stage h.clean hi (f.proceed_isOther name) hstep,
        step_clean h.clean hstep, step_callsInv h.calls (h.followsRule_proceed hf) hstep,
        fun _ _ hf => (by cases hf)⟩
  -- Anything else: the state that the overload under way relies on does not move under it.
  | other a =>
    simp only [Api.step, Outcome.bind_eq_done, Outcome.require_eq_done] at hd
    obtain ⟨-, ha, client, hstep, hd⟩ := hd
    cases hd
    simp only [Api.conforms, Bool.and_eq_true] at henv
    have hconn : a.isConnect = false := by cases a <;> first | rfl | cases ha
    have hfol : s.client.followsRule a = true := by cases a <;> first | rfl | cases ha
    refine ⟨stageInv_step h.stage h.clean (announcesCountable_of_serverConforms henv.1)
      (fun _ _ _ _ hc => by rw [hc] at hconn; cases hconn) hstep, step_clean h.clean hstep,
      step_callsInv h.calls hfol hstep, fun name f hf => ?_⟩
    obtain ⟨hst, hq, hb⟩ := h.overload name f hf
    have hs : s.client.state ≠ .connecting := by
      rw [hst]
      cases f <;> exact fun hc => (by cases hc)
    -- No connect() of the user is queued while the overload runs, so none starts.
    have hno : s.client.startsConnect a = false := by
      cases a with
      | run o =>
        cases hqc : s.client.queue with
        | nil => simp [startsConnect, hqc]
        | cons t ts =>
          rw [hqc, List.countP_cons] at hq
          have ht : t.isAsyncConnect = false := by
            cases ht : t.isAsyncConnect with
            | false => rfl
            | true => simp [ht] at hq
          simp [startsConnect, hqc, ht]
      | _ => rfl
    refine ⟨(step_state hs hno hstep).trans hst, step_connects hconn hstep hq, fun bl hbl => ?_⟩
    -- A builder handed out in this step is one that fits the state.
    rcases step_builders ha hstep _ hbl with hbl | hfit
    · exact hb bl hbl
    · obtain ⟨b, hb, hl⟩ := hfit hs
      exact ⟨b, hb, by rw [hl, hst]⟩

/-! ### No call fails -/

/-- An answer that a server gives to `open_channel()` fails no assertion. -/
theorem openChannelRsp_safe {b : Session} {call req : Nat} {mqOpen : ErrorCode} {m : Msg}
    (hm : isServerRsp cfg mqOpen m = true) : Safe (openChannelRsp cfg call req mqOpen m b) := by
  cases hb : m.body with
  | openChannelToServerRsp r mqC2s mqS2c =>
    cases r with
    | accepted =>
      simp only [isServerRsp, hb] at hm
      simp only [openChannelRsp, hb, Outcome.failsOnly_bind]
      exact ⟨createChannelObj_safe hm, fun _ _ => by simp⟩
    | rejectedPassiveOpen => simp [openChannelRsp, hb]
    | rejectedResourceUnavailable => simp [openChannelRsp, hb]
    | endSentinel => simp [isServerRsp, hb] at hm
  | _ => simp [isServerRsp, hb] at hm

/-- Thread U's own steps. -/
theorem call_safe {a : Act} (ha : Api.isOther a = false)
    (hd : a.isConnect = true ∨ (∃ name mdt, a = .mdtBuilder name mdt) ∨
      (∃ call, a = .openChannel call) ∨
      a = .sessionToken) (hr : s.followsRule a = true) : Safe (Client.step cfg s a) := by
  cases a with
  | mdtBuilder => simp [step]
  | sessionToken => simp [step]
  | openChannel call =>
    simp only [step, Outcome.failsOnly_bind]
    refine ⟨by simp, fun _ _ => liftUnit_safe ?_⟩
    simp only [openChannel, Outcome.failsOnly_bind]
    refine ⟨Session.takeBuilder_safe, fun _ _ => ?_⟩
    split <;> simp
  | connect call attempt out subClass =>
    simp only [step, connect, Outcome.failsOnly_bind]
    refine ⟨by simp, fun _ _ => ⟨lift_safe Session.takeBuilder_safe, fun r hx => ?_⟩⟩
    obtain ⟨bl, s₁⟩ := r
    obtain ⟨b, hb, rfl⟩ := lift_done hx
    simp only [followsRule, takeBuilder_builderOf hb, Option.all_some] at hr
    cases bl with
    | none => cases hr
    | some bl =>
      simp only [Outcome.failsOnly_bind]
      exact ⟨check_safe hr, fun _ _ => by simp⟩
  | _ => simp [Act.isConnect] at hd

/-- The tasks that thread W runs for a call. -/
theorem runTask_safe {t : Task} {b : Session} (h : StageInv s) (hcalls : CallsInv s)
    (hclean : s.srvNamespace = [] → Clean passiveOpen s) (ht : s.takeTask = .done (t, b))
    (hconf : serverConforms cfg s (.run o) = true) (hsub : subClassConforms cfg s (.run o) = true)
    (honce : Api.readsOnce s (.run o) = true)
    (hc : (t.isCall || t.isStage || t.isMasterChannelError && s.state = .connecting) = true) :
    Safe ((s.setSession b).runTask cfg o t) := by
  obtain ⟨-, hq, hb⟩ := Session.takeTask_done ht
  have hp := h.placed.of_tame (.takeTask ht)
  have hmem : t ∈ s.queue := by rw [hq]; exact List.mem_cons_self
  have ho : b.onErrFuncSet = true := by rw [hb]; exact hcalls.onErrFuncSet
  have hmb : b.masterChannel = s.masterChannel := by rw [hb]
  cases t with
  | logInRsp => exact stage_safe h hconf hsub ht rfl
  | initOpenChannel => exact stage_safe h hconf hsub ht rfl
  | masterChannelError chan e =>
    have hs : s.state = .connecting := by
      -- An error task is a step of the calls only while they connect.
      simpa [Task.isCall, Task.isStage, Task.isLogInRsp, Task.initCapture,
        Task.isMasterChannelError]
        using hc
    exact onMasterChannelError_safe hp hs
  | asyncConnect attempt subClass bl =>
    have hsrv : b.srvNamespace = s.srvNamespace := by rw [hb]
    refine asyncConnect_safe (fun hn => ?_) (fun pid hs hpid => ?_)
    · rw [setSession_toSession, hmb]
      exact (hclean (hsrv.symm.trans hn)).masterChannel
    · have hs : s.state = .null := hs
      rw [setSession_toSession, hsrv]
      -- The namespace is set once at most, as the condition has it.
      simpa [Api.readsOnce, hq, hpid, hs] using honce
  | mdtBuilder => simp [runTask]
  | openChannel call bl =>
    obtain ⟨hl, hs⟩ := hcalls.tasks call bl hmem
    exact liftUnit_safe (Session.openChannelBody_safe (decide_eq_true hs) ho hl (hp.peer hs))
  | sessionToken =>
    simp only [runTask, sessionToken]
    split
    · simp
    · rename_i hs
      exact liftUnit_safe (Session.sessionToken_safe ho (hp.peer (not_not.mp hs)))
  | _ => cases hc

/-- The other threads' steps for a call. -/
theorem other_safe {a : Act} (h : StageInv s) (hcalls : CallsInv s)
    (hclean : s.srvNamespace = [] → Clean passiveOpen s) (ha : Api.isOther a = true)
    (hconf : serverConforms cfg s a = true) (hsub : subClassConforms cfg s a = true)
    (honce : Api.readsOnce s a = true) (hc : Api.isCallStep ⟨s, none⟩ (.other a) = true) :
    Safe (Client.step cfg s a) := by
  cases a with
  | run o =>
    simp only [step, Outcome.failsOnly_bind]
    refine ⟨lift_safe Session.takeTask_safe, fun r hr => ?_⟩
    obtain ⟨t, s₁⟩ := r
    obtain ⟨b, hb, rfl⟩ := lift_done hr
    -- The call step is a fact about the head of the queue, which is the task taken.
    refine runTask_safe h hcalls hclean hb hconf hsub honce ?_
    obtain ⟨-, hq, -⟩ := Session.takeTask_done hb
    simpa [Api.isCallStep, hq] using hc
  | syncReturn r mqOpen =>
    simp only [step]
    split
    · rename_i call opened req rsp hw
      -- W waits in a request, so the session is in PEER state and not hosed.
      obtain ⟨hs, hp⟩ := hcalls.sync (by rw [hw]; rfl)
      refine liftUnit_safe (Session.openChannelSyncReturn_safe hcalls.onErrFuncSet hp
        (h.placed.peer hs) fun m hm => ?_)
      simp only [serverConforms, hw, hm, Option.all_some] at hconf
      exact openChannelRsp_safe hconf
    · simp
  | subClassSend r =>
    simp only [step, Outcome.failsOnly_bind]
    refine ⟨by simp, fun _ ht => ⟨lift_safe (Session.send_safe ?_), fun _ _ => by simp⟩⟩
    exact (h.placed.connecting (takenOver_state (Outcome.require_eq_done.mp ht))).2
  | complete e r =>
    simp only [step, Outcome.failsOnly_bind]
    refine ⟨by simp, fun _ ht => ?_⟩
    have ht := Outcome.require_eq_done.mp ht
    simp only [Bool.and_eq_true] at ht
    exact complete_safe hcalls.onErrFuncSet h.placed (takenOver_state ht.1)
      (Option.isNone_iff_eq_none.mp ht.2)
  | deliver m => exact liftUnit_safe Session.deliver_safe
  | channelError e => exact liftUnit_safe Session.channelError_safe
  | _ => cases ha

/-- Nor does any step of a call, in such a state. -/
theorem ApiInv.step_safe {s : Api} {a : Api.Act} (h : ApiInv passiveOpen s)
    (hc : s.isCallStep a = true) (hk : s.kept cfg a = true) : Safe (Api.step cfg s a) := by
  simp only [Api.kept, Bool.and_eq_true] at hk
  obtain ⟨⟨hrule, hav⟩, henv⟩ := hk
  cases a with
  | call c =>
    simp only [Api.step, Outcome.failsOnly_bind]
    refine ⟨by simp, fun _ _ => ⟨call_safe c.start_isOther ?_ hrule, fun _ _ => by simp⟩⟩
    cases c with
    | mdtBuilder name mdt => exact .inr (.inl ⟨name, mdt, rfl⟩)
    | syncConnect => exact .inl rfl
    | openChannel builder => exact .inr (.inr (.inl ⟨builder, rfl⟩))
    | overload name f => exact .inr (.inl ⟨name, [], rfl⟩)
    | sessionToken => exact .inr (.inr (.inr rfl))
  | proceed =>
    simp only [Api.step]
    split
    · simp
    · rename_i name f hf
      simp only [Outcome.failsOnly_bind]
      refine ⟨by simp, fun _ _ => ⟨call_safe (f.proceed_isOther name) ?_
        (h.followsRule_proceed hf), fun _ _ => by simp⟩⟩
      cases f with
      | syncConnect => exact .inl rfl
      | openChannel => exact .inr (.inr (.inl ⟨name, rfl⟩))
  | other a =>
    simp only [Api.conforms, Bool.and_eq_true] at henv
    simp only [Api.step, Outcome.failsOnly_bind]
    refine ⟨by simp, fun _ ha => ⟨other_safe h.stage h.calls h.clean (Outcome.require_eq_done.mp ha)
      henv.1 henv.2 hav ?_, fun _ _ => by simp⟩⟩
    cases a with
    | run => exact hc
    | _ => rfl

/-- Thread W takes its next task and runs it. -/
theorem step_run {t : Task} {ts : List Task} (hw : s.w = .idle) (hq : s.queue = t :: ts) :
    Client.step cfg s (.run o) =
      runTask cfg o t (s.setSession { s.toSession with queue := ts }) := by
  simp [step, lift, Session.takeTask, hw, hq, Outcome.require_true]

/-- Of two sessions put into a client, the later one stays. -/
theorem setSession_setSession (b b' : Session) (s : Client) :
    (s.setSession b).setSession b' = s.setSession b' := rfl

/-- What is known between two steps gives all that is claimed of the calls. -/
theorem ApiInv.safe {s : Api} (h : ApiInv passiveOpen s) : CallsSafe cfg s where
  fine := fun a hc hk => h.step_safe hc hk
  openChannelBefore := fun hs => by
    constructor
    · intro call b hb
      cases hl : b.forLogIn with
      | true => rfl
      | false => exact absurd (h.calls.builders call b hb hl) hs
    · intro t ht
      cases t with
      | openChannel call b => exact absurd (h.calls.tasks call b ht).2 hs
      | _ => rfl
  openChannelNull := fun call s₁ hd ht => by
    simp [Client.step, openChannel, liftUnit, hd, ht, Outcome.require_true]
  openChannelPosted := fun call b s₁ hd ht => by
    simp [Client.step, openChannel, liftUnit, hd, ht, Outcome.require_true]
  openChannelHosed := fun call b ts o hw hq hp => by
    obtain ⟨-, hs⟩ := h.calls.tasks call b (by rw [hq]; exact List.mem_cons_self)
    have ho := h.calls.onErrFuncSet
    rw [step_run hw hq]
    simp [runTask, liftUnit, Session.openChannelBody, Session.hosed, Outcome.check_true,
      setSession_setSession, hs, ho, hp]
  sessionTokenBefore := fun ts o hw hq hs => by
    rw [step_run hw hq]
    simp [runTask, sessionToken, hs, record, setSession_setSession]
  syncConnectAgain := fun attempt subClass b ts o hw hq hs => by
    rw [step_run hw hq]
    simp [runTask, asyncConnect, hs, record, setSession_setSession]

namespace Api

/-- The runs in which no call goes wrong in one of the known ways. -/
def ReachesKept (cfg : Cfg) (passiveOpen : Bool) : Api → Prop :=
  Machine.Reaches (step cfg) (fun s a => kept cfg s a) (fresh passiveOpen)

/-- The runs in which the user follows the rule on builders. -/
def ReachesRuled (cfg : Cfg) (passiveOpen : Bool) : Api → Prop :=
  Machine.Reaches (step cfg) (fun s a => followsRule s a && conforms cfg s a) (fresh passiveOpen)

end Api

/-- **Every call is safe in every state** of a run that keeps clear of the known defects. -/
theorem callsSafe_of_kept (cfg : Cfg) (passiveOpen : Bool) (s : Api)
    (h : Api.ReachesKept cfg passiveOpen s) : CallsSafe cfg s := by
  have hi : ApiInv passiveOpen s := Machine.Reaches.invariant h (apiInv_fresh passiveOpen)
    fun _ _ _ hinv hk hd => hinv.step hk hd
  exact hi.safe

/-- `sync_connect()` without a builder in NULL state, up to PEER state. -/
def Api.connected : List Api.Act :=
  [.call (.overload 0 (.syncConnect 0 false)), .other (.run {}), .proceed,
    .other (.run { cns := ['7', '\n'] }),
    .other (.deliver ⟨0, some 0, none, .logInRsp ⟨1, 1, ['1'], [], 0⟩⟩), .other (.run {})]

/-- A connect, an error of the channel, then `open_channel()` on a hosed session. -/
theorem callsSafe_of_kept_hosed :
    ∃ s : Api, s.client.peerStateErrCodeOrOk.isSome = true ∧ s.client.queue.any Task.isOpenChannel ∧
      CallsSafe .sample s := by
  obtain ⟨s, hr, hs⟩ := Machine.Reaches.exists_of_run
    (Machine.guarded (Api.kept .sample) (Api.step .sample)) (.fresh true)
    (Api.connected ++ [.other (.channelError (.other 1)), .other (.run {}),
      .call (.overload 1 .openChannel), .other (.run {}), .proceed])
    (fun s => s.client.peerStateErrCodeOrOk.isSome && s.client.queue.any Task.isOpenChannel)
    (by decide)
  simp only [Bool.and_eq_true] at hs
  exact ⟨s, hs.1, hs.2, callsSafe_of_kept .sample true s hr.of_guarded⟩

/-- **Three calls are not safe**: `open_channel()` without a builder in NULL state,
    `sync_connect()` without one in PEER state, and `sync_connect()` after an attempt that was
    refused the connection each fail an assertion. -/
theorem not_callsSafe_literally :
    (¬ ∀ (cfg : Cfg) (passiveOpen : Bool) (s : Api), Api.ReachesRuled cfg passiveOpen s →
      s.client.state = .null → s.client.queue.any Task.isOpenChannel = true →
        ∀ o f, Api.step cfg s (.other (.run o)) ≠ .failed f) ∧
    (¬ ∀ (cfg : Cfg) (passiveOpen : Bool) (s : Api), Api.ReachesRuled cfg passiveOpen s →
      s.client.state = .peer → s.overload.isSome = true →
        ∀ f, Api.step cfg s .proceed ≠ .failed f) ∧
    (¬ ∀ (cfg : Cfg) (passiveOpen : Bool) (s : Api), Api.ReachesRuled cfg passiveOpen s →
      s.client.state = .null → s.client.queue.any Task.isAsyncConnect = true →
        ∀ o f, Api.step cfg s (.other (.run o)) ≠ .failed f) := by
  refine ⟨fun hall => ?_, fun hall => ?_, fun hall => ?_⟩
  -- A run for each branch: a call in NULL state, a connect in PEER state, a second connect.
  · obtain ⟨s, hr, hs⟩ := Machine.Reaches.exists_of_run
      (Machine.guarded (fun s a => Api.followsRule s a && Api.conforms .sample s a)
        (Api.step .sample)) (.fresh true)
      [.call (.overload 0 .openChannel), .other (.run {}), .proceed]
      (fun s => s.client.state = .null && s.client.queue.any Task.isOpenChannel &&
        decide (Api.step .sample s (.other (.run {})) = .failed .badState)) (by decide)
    simp only [Bool.and_eq_true, decide_eq_true_eq] at hs
    exact hall _ _ _ hr.of_guarded hs.1.1 hs.1.2 {} _ hs.2
  · obtain ⟨s, hr, hs⟩ := Machine.Reaches.exists_of_run
      (Machine.guarded (fun s a => Api.followsRule s a && Api.conforms .sample s a)
        (Api.step .sample)) (.fresh true)
      (Api.connected ++ [.call (.overload 1 (.syncConnect 1 false)), .other (.run {})])
      (fun s => s.client.state = .peer && s.overload.isSome &&
        decide (Api.step .sample s .proceed = .failed .badBuilder)) (by decide)
    simp only [Bool.and_eq_true, decide_eq_true_eq] at hs
    exact hall _ _ _ hr.of_guarded hs.1.1 hs.1.2 _ hs.2
  · obtain ⟨s, hr, hs⟩ := Machine.Reaches.exists_of_run
      (Machine.guarded (fun s a => Api.followsRule s a && Api.conforms .sample s a)
        (Api.step .sample)) (.fresh true)
      [.call (.overload 0 (.syncConnect 0 false)), .other (.run {}), .proceed,
        .other (.run { cns := ['7', '\n'], sockConnect := some (.other 111) }),
        .call (.overload 1 (.syncConnect 1 false)), .other (.run {}), .proceed]
      (fun s => s.client.state = .null && s.client.queue.any Task.isAsyncConnect &&
        decide (Api.step .sample s (.other (.run { cns := ['7', '\n'] })) =
          .failed .setSrvNamespace)) (by decide)
    simp only [Bool.and_eq_true, decide_eq_true_eq] at hs
    exact hall _ _ _ hr.of_guarded hs.1.1 hs.1.2 _ _ hs.2

end Client

end IpcSession
