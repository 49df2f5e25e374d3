import IpcSession.Base.Safe
import IpcSession.Server.Calls

namespace IpcSession

/-!
# The server session's calls are safe in every state

The user of an accepted session calls `init_handlers()`, `mdt_builder()`, `open_channel()` and
`session_token()`, in almost-PEER state, in PEER state, and on a session that is hosed.

* `Server.apiKept` — the steps that keep clear of four defects: `session_token()` before PEER state,
  `open_channel()` on a hosed session with a blank builder, `mdt_builder()` where the socket pair
  has been made but the peer's credentials or the channel cannot be had.  To an open-channel request
  the peer gives an answer that the protocol has.
* `Server.ApiSafe` — what each call comes to in each state.
* `Server.apiSafe_of_kept` — **in the runs that keep clear of the defects every call is safe.**
-/

/-- The channel could not be made out of the MQs and the socket pair, and the peer's end of the pair
    stays in the out-argument. -/
def ResourceOracle.leavesHandle (cfg : Cfg) (r : ResourceOracle) : Bool :=
  cfg.mqsEnabled && cfg.socketStreamEnabled && r.mqC2s.isNone && r.mqS2c.isNone &&
    r.connectPair.isNone && r.channel.isSome

/-- The tasks that the user's calls, or errors of the channel, make thread W run. -/
def Task.isApi : Task → Bool
  | masterChannelError .. => true
  | initHandlers _ => true
  | preInitError => true
  | mdtBuilder .. => true
  | openChannel .. => true
  | sessionToken => true
  | _ => false

/-- What a client answers to `OpenChannelToClientReq`. -/
def Body.isClientRsp : Body → Bool
  | openChannelToClientRsp .accepted => true
  | openChannelToClientRsp .rejectedPassiveOpen => true
  | _ => false

namespace Server

variable {cfg : Cfg} {s s' : Server} {o : ServerOracle}

/-- The steps that the user's calls, the answers to them and errors of the channel bring about. -/
def apiStep (s : Server) : Act → Bool
  | .initHandlers _ => true
  | .mdtBuilder .. => true
  | .openChannel _ => true
  | .sessionToken => true
  | .channelError _ => true
  | .run _ => s.queue.head?.any Task.isApi
  | .syncReturn .. =>
    match s.w with
    | .inSyncRequest (.openChannel ..) .. => true
    | _ => false
  | _ => false

/-- The builder that the user holds under this name is blank: its resources could not be had, or
    the session was hosed. -/
def blankBuilder (s : Server) (call : Nat) : Bool :=
  match s.builders.find? (fun p => p.1 = call) with
  | some (_, some b) => b.openedChannel.isNone
  | _ => false

/-- The step is none in which a call is known to go wrong, and the answer to an open-channel request
    is one that a client gives. -/
def apiKept (cfg : Cfg) (s : Server) : Act → Bool
  | .run o =>
    match s.queue with
    | .sessionToken :: _ => s.onErrFuncSet
    | .mdtBuilder .. :: _ =>
      !s.onErrFuncSet || s.peerStateErrCodeOrOk.isSome ||
        (!o.res.asksInVain cfg && !o.res.leavesHandle cfg)
    | _ => true
  | .openChannel call => s.peerStateErrCodeOrOk.isNone || !s.blankBuilder call
  | .syncReturn .. =>
    match s.w with
    | .inSyncRequest (.openChannel ..) _ rsp => rsp.all (·.body.isClientRsp)
    | _ => true
  | _ => true

/-- Where the resources cannot all be had, the peer's end of the pair is not left behind. -/
theorem createChannelAndResources_remoteHndl {active : Bool} {o : ResourceOracle} {r : Resources}
    (h : o.leavesHandle cfg = false)
    (hd : s.createChannelAndResources cfg active o = .done (r, s')) :
    (r.ok || r.remoteHndl.isNone) = true := by
  simp only [createChannelAndResources] at hd
  by_cases hmq : cfg.mqsEnabled = true
  · rw [if_pos hmq] at hd
    split at hd
    · cases hd
      rfl
    · rename_i c2s s2c s₁ hmqs
      -- both MQs are there
      have hmqs : o.mqC2s = none ∧ o.mqS2c = none := by
        cases h₁ : o.mqC2s <;> cases h₂ : o.mqS2c <;> simp [makeChannelMqs, h₁, h₂] at hmqs ⊢
      simp only [constructMqsChannel, Outcome.bind_eq_done, Prod.exists] at hd
      obtain ⟨socks, s₂, hsocks, hd⟩ := hd
      by_cases hsock : cfg.socketStreamEnabled = true
      · rw [if_pos hsock] at hsocks
        cases makeSockStm_done hsocks with
        | failed e he =>
          simp only [hsock, Option.isNone_none, Bool.and_self, Bool.true_or, if_true] at hd
          cases hd
          rfl
        | made he hc hm =>
          have hch : o.channel = none := by
            simpa [ResourceOracle.leavesHandle, hmq, hsock, hmqs, he] using h
          simp only [hsock, hch, Option.isNone_some, Bool.and_false, Option.isSome_none,
            Bool.or_self,
            Bool.false_eq_true, if_false] at hd
          cases hd
          rfl
      · rw [if_neg hsock] at hsocks
        cases hsocks
        split at hd <;> (cases hd; rfl)
  · rw [if_neg hmq] at hd
    simp only [constructSockChannel, Outcome.bind_eq_done, Prod.exists] at hd
    obtain ⟨socks, s₂, -, hd⟩ := hd
    split at hd <;> (cases hd; rfl)

/-- What each call comes to. -/
structure ApiSafe (cfg : Cfg) (s : Server) : Prop where
  /-- No call fails an assertion. -/
  fine : ∀ a, s.apiStep a = true → s.apiKept cfg a = true → ∀ f, step cfg s a ≠ .failed f
  /-- `init_handlers()` has returned `true` once if the handlers are set, and never before. -/
  enteredOnce : s.log.countP Event.isEntered = s.onErrFuncSet.toNat
  /-- Its first call returns `true`. -/
  initHandlersFirst : ∀ passiveOpen ts o s', s.queue = .initHandlers passiveOpen :: ts →
    s.onErrFuncSet = false → step cfg s (.run o) = .done s' →
      s'.onErrFuncSet = true ∧ s'.log.getLast? = some (.initHandlersReturned true)
  /-- Any other call has no effect. -/
  initHandlersAgain : ∀ passiveOpen ts o, s.w = .idle → s.queue = .initHandlers passiveOpen :: ts →
    s.onErrFuncSet = true → step cfg s (.run o) =
      .done (s.setSession (Session.record (.initHandlersReturned false)
        { s.toSession with queue := ts }))
  /-- Before PEER state `mdt_builder()` returns null. -/
  mdtBuilderBefore : ∀ call mdt ts o, s.w = .idle → s.queue = .mdtBuilder call mdt :: ts →
    s.onErrFuncSet = false → step cfg s (.run o) =
      .done (s.setSession (Session.giveBuilder call none { s.toSession with queue := ts }))
  /-- All there is to call `open_channel()` with before PEER state is null. -/
  buildersBefore : s.onErrFuncSet = false →
    (∀ p ∈ s.builders, p.2 = none) ∧ ∀ t ∈ s.queue, t.isOpenChannel = false
  /-- With a null builder `open_channel()` returns `false`, and has no effect; so it does before
      PEER state. -/
  openChannelNull : ∀ call b s₁, s.accepted = true → s.dtor = .notStarted →
    s.takeBuilder call = .done (b, s₁) → b = none → step cfg s (.openChannel call) =
      .done (s.setSession (s₁.returned call none false none none))
  /-- On a hosed session it returns `false` with the code clear, right away or as soon as thread W
      gets to it, and has no effect. -/
  openChannelHosed : ∀ call b s₁, s.accepted = true → s.dtor = .notStarted →
    s.peerStateErrCodeOrOk.isSome = true → s.apiKept cfg (.openChannel call) = true →
    s.takeBuilder call = .done (b, s₁) → step cfg s (.openChannel call) =
      .done (s.setSession (match b with
        | none => s₁.returned call none false none none
        | some b => s₁.post (.openChannel call b)))
  openChannelBodyHosed : ∀ call b ts o, s.w = .idle → s.queue = .openChannel call b :: ts →
    s.peerStateErrCodeOrOk.isSome = true → step cfg s (.run o) =
      .done (s.setSession (Session.returned call none false none none
        { s.toSession with queue := ts }))
  /-- On a hosed session `session_token()` returns the nil token. -/
  sessionTokenHosed : ∀ ts o, s.w = .idle → s.queue = .sessionToken :: ts →
    s.onErrFuncSet = true → s.peerStateErrCodeOrOk.isSome = true → step cfg s (.run o) =
      .done (s.setSession (Session.record (.sessionTokenReturned true)
        { s.toSession with queue := ts }))

/-- Everything that is known of a server between two steps. -/
structure ApiInv (cfg : Cfg) (s : Server) : Prop where
  logIn : LogInInv cfg s
  calls : s.ApiCalls
  equipped : Equipped cfg s

/-- Nobody has called anything yet. -/
theorem apiInv_fresh (srvNamespace : SharedName) (out : OutArgs) :
    ApiInv cfg (fresh srvNamespace out) :=
  ⟨logInInv_fresh srvNamespace out, apiCalls_fresh srvNamespace out,
    equipped_fresh srvNamespace out⟩

/-- What is known between two steps is known after any step. -/
theorem ApiInv.step {a : Act} (h : ApiInv cfg s) (hd : step cfg s a = .done s') :
    ApiInv cfg s' :=
  ⟨h.logIn.step hd, step_apiCalls h.calls hd,
    h.equipped.step h.logIn.err.phases (step_result h.logIn.err.hosing.waiting hd)⟩

/-! ### No call fails -/

/-- Session code with a result, run by a server. -/
theorem lift_safe {α : Type} {g : Session → Outcome Failure (α × Session)}
    (h : Safe (g s.toSession)) : Safe (s.lift g) := by
  simp [lift, h]

/-- Session code without a result, run by a server. -/
theorem liftUnit_safe {g : Session → Outcome Failure Session} (h : Safe (g s.toSession)) :
    Safe (s.liftUnit g) := by
  simp [liftUnit, h]

/-- `init_handlers()` is safe with the channel there, and hoses no session twice. -/
theorem initHandlers_safe {passiveOpen : Bool} (hm : s.masterChannel.isSome = true)
    (hpass : s.onPassiveOpenSet = true → s.onErrFuncSet = true)
    (hn : s.onErrFuncSet = false → s.peerStateErrCodeOrOk = none) :
    Safe (s.initHandlers cfg passiveOpen o) := by
  simp only [initHandlers]
  split
  · simp
  · rename_i ho
    have ho : s.onErrFuncSet = false := by simpa using ho
    have hpass : s.onPassiveOpenSet = false := by
      cases hp : s.onPassiveOpenSet with
      | false => rfl
      | true =>
        have hs := hpass hp
        rw [ho] at hs
        cases hs
    simp only [Outcome.failsOnly_bind]
    refine ⟨check_safe (by rw [hpass]; rfl), fun _ _ => ?_⟩
    split
    · simp only [Outcome.failsOnly_bind]
      refine ⟨check_safe ?_, fun _ _ => by simp⟩
      show s.peerStateErrCodeOrOk.isNone = true
      rw [hn ho]
      rfl
    · simp only [Outcome.failsOnly_bind]
      refine ⟨lift_safe (Session.expectOpenChannelReqs_safe (by exact hm)), fun c hc => ?_⟩
      obtain ⟨ok, s₁⟩ := c
      obtain ⟨b, hb, rfl⟩ := lift_done hc
      have hmb : b.masterChannel.isSome = true :=
        (Session.expectOpenChannelReqs_frame hb).channel.trans hm
      split
      · simp only [Outcome.failsOnly_bind]
        exact ⟨liftUnit_safe (Session.emplaceGracefulFinisher_safe hmb), fun _ _ => by simp⟩
      · simp

/-- Making the resources fails no assertion, unless it asks for the credentials in vain. -/
theorem createChannelAndResources_safe {active : Bool} {o : ResourceOracle}
    (hm : s.masterChannel.isSome = true) (hv : o.asksInVain cfg = false) :
    Safe (s.createChannelAndResources cfg active o) := by
  obtain ⟨r, t, hd, -⟩ := (createChannelAndResources_returnsUnless cfg active o hm).2 hv
  rw [hd]
  simp

/-- `mdt_builder()` is safe where it asks for no credentials in vain and leaves no handle behind. -/
theorem mdtBuilder_safe {call : Nat} {mdt : Mdt} {r : ResourceOracle}
    (hm : s.onErrFuncSet = true → s.masterChannel.isSome = true)
    (hr : s.onErrFuncSet = true → s.peerStateErrCodeOrOk = none →
      r.asksInVain cfg = false ∧ r.leavesHandle cfg = false) :
    Safe (s.mdtBuilder cfg call mdt r) := by
  simp only [mdtBuilder]
  split
  · simp
  · rename_i ho
    have ho : s.onErrFuncSet = true := by simpa using ho
    simp only [Outcome.failsOnly_bind]
    refine ⟨Session.hosed_safe ho, fun hosed hh => ⟨check_safe (hm ho), fun _ _ => ?_⟩⟩
    obtain ⟨-, rfl⟩ := Session.hosed_done hh
    split
    · simp
    · rename_i hp
      obtain ⟨hv, hleaves⟩ := hr ho (by simpa using hp)
      simp only [Outcome.failsOnly_bind]
      refine ⟨createChannelAndResources_safe (hm ho) hv, fun made hd => ⟨check_safe ?_,
        fun _ _ => by simp⟩⟩
      exact createChannelAndResources_remoteHndl hleaves hd

/-- The report of the channel's error is safe in any state. -/
theorem onMasterChannelError_safe {chan : Nat} {e : Err} {b : Session} (h : ApiInv cfg s)
    (ht : s.takeTask = .done (.masterChannelError chan e, b)) :
    Safe ((s.setSession b).onMasterChannelError cfg e) := by
  obtain ⟨-, hq, hb⟩ := Session.takeTask_done ht
  -- nothing is cached yet: this is the one error of the channel
  have hpre : s.preInitErrCode = none :=
    (h.logIn.routes.routing.waiting chan (e := e)
      (by rw [hq]; exact List.mem_cons_self)).stored
  simp only [onMasterChannelError]
  split
  · simp
  · split
    · rename_i hset
      simp only [logInFailed, logInDone, Outcome.failsOnly_bind]
      exact ⟨check_safe hset, fun _ _ => by simp⟩
    · split
      · simp only [Outcome.failsOnly_bind]
        exact ⟨check_safe (by rw [setSession_preInitErrCode, hpre]; rfl), fun _ _ => by simp⟩
      · rename_i ho
        have ho : b.onErrFuncSet = true := by simpa using ho
        have ho : s.onErrFuncSet = true := by rwa [hb] at ho
        refine liftUnit_safe (Session.onMasterChannelErrorPeer_safe ?_ fun hg => ?_)
        · rw [setSession_toSession, hb]
          exact ho
        · rw [setSession_toSession, hb]
          exact h.equipped.finisher ho hpre hg

/-- So is every task of the user's calls, where the condition is met. -/
theorem runTask_safe {t : Task} {b : Session} (h : ApiInv cfg s) (ht : s.takeTask = .done (t, b))
    (hapi : t.isApi = true) (hk : s.apiKept cfg (.run o) = true) :
    Safe ((s.setSession b).runTask cfg o t) := by
  obtain ⟨hw, hq, hb⟩ := Session.takeTask_done ht
  have hmem : t ∈ s.queue := by rw [hq]; exact List.mem_cons_self
  -- what the task finds is what was there before it was taken
  have hob : b.onErrFuncSet = s.onErrFuncSet := by rw [hb]
  have hpb : b.peerStateErrCodeOrOk = s.peerStateErrCodeOrOk := by rw [hb]
  have hm : s.onErrFuncSet = true → b.masterChannel.isSome = true := by
    intro ho
    rw [hb]
    exact h.equipped.channel (h.logIn.err.phases.peer ho)
  cases t with
  | masterChannelError chan e => exact onMasterChannelError_safe h ht
  | initHandlers passiveOpen =>
    refine initHandlers_safe ?_ ?_ ?_
    · exact (h.equipped.takeTask ht).channel (h.logIn.err.phases.accepted_of_initHandlers ht)
    · exact (h.calls.of_same (.takeTask ht)).passive
    · rw [setSession_toSession, hob, hpb]
      exact h.logIn.err.phases.notPeer
  | preInitError =>
    have hc := h.logIn.routes.cached
    have hpos : 0 < s.queue.countP Task.isPreInitError := List.countP_pos_iff.mpr ⟨_, hmem, rfl⟩
    have hand : s.onErrFuncSet = true ∧ s.preInitErrCode.isSome = true := by
      rw [← Bool.and_eq_true]
      cases hb' : s.onErrFuncSet && s.preInitErrCode.isSome with
      | true => rfl
      | false =>
        rw [hb', Bool.toNat_false] at hc
        omega
    obtain ⟨e, hpre⟩ := Option.isSome_iff_exists.mp hand.2
    simp only [runTask, preInitError, setSession_preInitErrCode, hpre]
    exact liftUnit_safe (Session.hoseIfNot_safe (hob.trans hand.1))
  | mdtBuilder call mdt =>
    refine mdtBuilder_safe (fun ho => hm (hob ▸ ho)) fun ho hp => ?_
    have ho : s.onErrFuncSet = true := hob ▸ ho
    have hp : s.peerStateErrCodeOrOk = none := hpb ▸ hp
    simpa [apiKept, hq, ho, hp] using hk
  | openChannel call bl =>
    obtain ⟨ho, hl, -⟩ := h.calls.tasks call bl hmem
    exact liftUnit_safe (Session.openChannelBody_safe (hob.trans ho) (hob.trans ho) hl (hm ho))
  | sessionToken =>
    have ho : s.onErrFuncSet = true := by simpa [apiKept, hq] using hk
    exact liftUnit_safe (Session.sessionToken_safe (hob.trans ho) (hm ho))
  | _ => cases hapi

/-- An answer that a client gives to `open_channel()` is handled without a failed assertion. -/
theorem openChannelRsp_safe {b : Session} {call req : Nat} {opened : Option ChannelObj} {m : Msg}
    (ho : opened.isSome = true) (hm : m.body.isClientRsp = true) :
    Safe (openChannelRsp call req opened m b) := by
  cases hb : m.body with
  | openChannelToClientRsp r =>
    cases r with
    | accepted => simp [openChannelRsp, hb, ho]
    | rejectedPassiveOpen => simp [openChannelRsp, hb]
    | rejectedResourceUnavailable => rw [hb] at hm; cases hm
    | endSentinel => rw [hb] at hm; cases hm
  | _ => rw [hb] at hm; cases hm

/-- So every step of a call is safe where the condition is met. -/
theorem step_safe {a : Act} (h : ApiInv cfg s) (ha : s.apiStep a = true)
    (hk : s.apiKept cfg a = true) : Safe (step cfg s a) := by
  cases a with
  | initHandlers => simp [step]
  | mdtBuilder => simp [step]
  | openChannel call =>
    simp only [step, Outcome.failsOnly_bind]
    refine ⟨by simp, fun _ _ => liftUnit_safe ?_⟩
    simp only [openChannel, Outcome.failsOnly_bind]
    refine ⟨Session.takeBuilder_safe, fun _ _ => ?_⟩
    split
    · simp
    · split <;> simp
  | sessionToken => simp [step]
  | run o =>
    simp only [step, Outcome.failsOnly_bind]
    refine ⟨lift_safe Session.takeTask_safe, fun r hr => ?_⟩
    obtain ⟨t, s₁⟩ := r
    obtain ⟨b, hb, rfl⟩ := lift_done hr
    refine runTask_safe h hb ?_ hk
    -- The task that runs is the head of the queue, which is what the condition looks at.
    obtain ⟨-, hq, -⟩ := Session.takeTask_done hb
    simpa [apiStep, hq] using ha
  | syncReturn r eo =>
    simp only [step]
    simp only [apiStep] at ha
    simp only [apiKept] at hk
    split
    · rename_i call opened req rsp hw
      rw [hw] at hk
      -- A waiting `open_channel()` means PEER state, hence an equipped channel.
      have hp : s.peerStateErrCodeOrOk = none := h.logIn.err.hosing.waiting (by rw [hw]; rfl)
      obtain ⟨ho, hopened⟩ := h.calls.sync _ _ _ _ hw
      refine liftUnit_safe (Session.openChannelSyncReturn_safe ho hp ?_ fun m hm => ?_)
      · exact h.equipped.channel (h.logIn.err.phases.peer ho)
      · refine openChannelRsp_safe hopened ?_
        rw [hm] at hk
        exact hk
    · rename_i hw
      rw [hw] at ha
      cases ha
    · simp
  | channelError e => exact liftUnit_safe Session.channelError_safe
  | _ => cases ha

/-! ### What each call comes to -/

/-- Of two sessions put into a server, the later one stays. -/
theorem setSession_setSession (b b' : Session) (s : Server) :
    (s.setSession b).setSession b' = s.setSession b' := rfl

/-- Thread W takes its next task and runs it. -/
theorem step_run {t : Task} {ts : List Task} (hw : s.w = .idle) (hq : s.queue = t :: ts) :
    step cfg s (.run o) = runTask cfg o t (s.setSession { s.toSession with queue := ts }) := by
  simp [step, lift, Session.takeTask, hw, hq, Outcome.require_true]

/-- The invariant says all that is claimed of the calls. -/
theorem ApiInv.safe (h : ApiInv cfg s) : ApiSafe cfg s where
  fine := fun a ha hk => step_safe h ha hk
  enteredOnce := h.calls.entered
  -- The first init_handlers() sets the error handler whether an error is cached or not.
  initHandlersFirst := fun passiveOpen ts o s' hq ho hd => by
    have hw : s.w = .idle := by
      simp only [Server.step, Outcome.bind_eq_done, Prod.exists] at hd
      obtain ⟨t, s₁, h₁, -⟩ := hd
      obtain ⟨b, hb, -⟩ := lift_done h₁
      exact (Session.takeTask_done hb).1
    rw [step_run hw hq] at hd
    cases initHandlers_done hd with
    | again ho' =>
      have ho' : s.onErrFuncSet = true := ho'
      rw [ho] at ho'
      cases ho'
    | cached ho hpre hp => exact ⟨rfl, by simp [record, post]⟩
    | @plain ho hpre b₁ b₂ hdid h₂ =>
      have hb₁ : b₁.onErrFuncSet = true := hdid.onErrFuncSet
      refine ⟨?_, by simp⟩
      rcases h₂ with ⟨-, ch, hm, hr⟩ | ⟨-, rfl⟩
      · exact ((hr.did (F := False) hm).onErrFuncSet).trans hb₁
      · exact hb₁
  -- Once it is set, the task only logs and changes nothing else.
  initHandlersAgain := fun passiveOpen ts o hw hq ho => by
    rw [step_run hw hq]
    simp [runTask, initHandlers, ho, record, setSession_setSession]
  mdtBuilderBefore := fun call mdt ts o hw hq ho => by
    rw [step_run hw hq]
    simp [runTask, mdtBuilder, ho, setSession_setSession]
  -- Before init_handlers() no builder was ever handed out, neither to the user nor to a task.
  buildersBefore := fun ho => by
    constructor
    · rintro ⟨call, b⟩ hp
      cases b with
      | none => rfl
      | some b =>
        have hs := (h.calls.builders call b hp).1
        rw [ho] at hs
        cases hs
    · intro t ht
      cases t with
      | openChannel call b =>
        have hs := (h.calls.tasks call b ht).1
        rw [ho] at hs
        cases hs
      | _ => rfl
  openChannelNull := fun call b s₁ ha hd ht hb => by
    subst hb
    simp [Server.step, openChannel, liftUnit, ha, hd, ht, Outcome.require_true]
  -- On thread U no state is looked at: a null builder returns, any other is posted if its target is
  -- set.
  openChannelHosed := fun call b s₁ ha hd hp hk ht => by
    cases b with
    | none => simp [Server.step, openChannel, liftUnit, ha, hd, ht, Outcome.require_true]
    | some b =>
      -- What the caller keeps to: the builder it names has somewhere to put the channel.
      have hn : b.openedChannel ≠ none := by
        have hb : s.blankBuilder call = false := by
          simpa [apiKept, Option.isNone_iff_eq_none, Option.isSome_iff_ne_none.mp hp] using hk
        cases hf : s.builders.find? (fun p => p.1 = call) with
        | none => simp [Session.takeBuilder, hf] at ht
        | some p =>
          obtain ⟨k, x⟩ := p
          simp only [Session.takeBuilder, hf, Outcome.done.injEq, Prod.mk.injEq] at ht
          obtain ⟨rfl, -⟩ := ht
          simp only [blankBuilder, hf, Option.isNone_eq_false_iff] at hb
          exact Option.isSome_iff_ne_none.mp hb
      simp [Server.step, openChannel, liftUnit, ha, hd, ht, hn, Outcome.require_true]
  openChannelBodyHosed := fun call b ts o hw hq hp => by
    have ho := (h.calls.tasks call b (by rw [hq]; exact List.mem_cons_self)).1
    rw [step_run hw hq]
    simp [runTask, liftUnit, Session.openChannelBody, Session.hosed, Outcome.check_true,
      setSession_setSession, ho, hp]
  sessionTokenHosed := fun ts o hw hq ho hp => by
    rw [step_run hw hq]
    simp [runTask, liftUnit, Session.sessionToken, Session.hosed, Outcome.check_true,
      setSession_setSession, ho, hp]

/-- The runs of a server in which no call goes wrong in one of the known ways. -/
def ReachesKept (cfg : Cfg) (srvNamespace : SharedName) (out : OutArgs) : Server → Prop :=
  Machine.Reaches (step cfg) (fun s a => apiKept cfg s a) (fresh srvNamespace out)

/-- **Every call is safe in every state** of a run that keeps clear of the known defects. -/
theorem apiSafe_of_kept (cfg : Cfg) (srvNamespace : SharedName) (out : OutArgs) (s : Server)
    (h : ReachesKept cfg srvNamespace out s) : ApiSafe cfg s := by
  have hi : ApiInv cfg s := Machine.Reaches.invariant h (apiInv_fresh srvNamespace out)
    fun _ _ _ hinv _ hd => hinv.step hd
  exact hi.safe

/-- A log-in with no init-channels. -/
def plainLogIn : List Act :=
  [.run { osProcCreds := ⟨5, 1, 1⟩, osProcInvokedAs := ['/', 'c'] },
    .deliver ⟨0, none, none, .logInReq ⟨1, 1, .none, true, some ⟨5, 1, 1⟩, ['c'], .none, [], 0⟩⟩,
    .run {}]

/-- An error in almost-PEER state, then the handlers, then `session_token()` on a hosed session. -/
theorem apiSafe_of_kept_preInitError :
    ∃ s : Server, s.peerStateErrCodeOrOk.isSome = true ∧ s.queue = [.sessionToken] ∧
      ApiSafe .sample s := by
  obtain ⟨s, hr, hs⟩ := Machine.Reaches.exists_of_run
    (Machine.guarded (apiKept .sample) (step .sample)) (fresh ['7'] ⟨none, none, none⟩)
    (plainLogIn ++ [.channelError (.other 1), .run {}, .initHandlers true, .run {}, .run {},
      .sessionToken])
    (fun s => s.peerStateErrCodeOrOk.isSome && decide (s.queue = [.sessionToken])) (by decide)
  simp only [Bool.and_eq_true, decide_eq_true_eq] at hs
  exact ⟨s, hs.1, hs.2, apiSafe_of_kept .sample _ _ s hr.of_guarded⟩

/-- **Three calls are not safe**: `session_token()` in almost-PEER state fails an assertion;
    `open_channel()` on a hosed session reports an error where the builder is blank;
    `mdt_builder()` fails an assertion where the socket pair can be made but not the channel, and
    another where the channel has got its error, but thread W has yet to come to the report. -/
theorem not_apiSafe_literally :
    (¬ ∀ (cfg : Cfg) (srvNamespace : SharedName) (out : OutArgs) (s : Server),
      Machine.Reaches (step cfg) Machine.anyStep (fresh srvNamespace out) s →
        s.accepted = true → s.onErrFuncSet = false → s.queue = [.sessionToken] →
          ∀ o f, step cfg s (.run o) ≠ .failed f) ∧
    (¬ ∀ (cfg : Cfg) (srvNamespace : SharedName) (out : OutArgs) (s s' : Server) (call : Nat),
      Machine.Reaches (step cfg) Machine.anyStep (fresh srvNamespace out) s →
        s.peerStateErrCodeOrOk.isSome = true → step cfg s (.openChannel call) = .done s' →
          Event.openChannelReturned call none true
            (some .sessionOpenChannelServerCannotProceedResourceUnavailable) none ∉ s'.log) ∧
    (¬ ∀ (cfg : Cfg) (srvNamespace : SharedName) (out : OutArgs) (s : Server),
      Machine.Reaches (step cfg) Machine.anyStep (fresh srvNamespace out) s →
        s.onErrFuncSet = true → s.queue = [.mdtBuilder 1 []] →
          ∀ o f, step cfg s (.run o) ≠ .failed f) ∧
    (¬ ∀ (cfg : Cfg) (srvNamespace : SharedName) (out : OutArgs) (s : Server),
      Machine.Reaches (step cfg) Machine.anyStep (fresh srvNamespace out) s →
        s.onErrFuncSet = true → s.toSession.channelHosed = true →
          s.queue = [.mdtBuilder 1 [], .masterChannelError 0 (.other 1)] →
            ∀ o f, step cfg s (.run o) ≠ .failed f) := by
  -- One run each: the token before init_handlers(), the code of a hosed call, resources that cannot
  -- be made, credentials that cannot be had.
  refine ⟨fun hall => ?_, fun hall => ?_, fun hall => ?_, fun hall => ?_⟩
  · obtain ⟨s, hr, hs⟩ := Machine.Reaches.exists_of_run (step .sample)
      (fresh ['7'] ⟨none, none, none⟩) (plainLogIn ++ [.sessionToken])
      (fun s => s.accepted && !s.onErrFuncSet && decide (s.queue = [.sessionToken]) &&
        decide (step .sample s (.run {}) = .failed .hosedBeforePeer)) (by decide)
    simp only [Bool.and_eq_true, Bool.not_eq_true', decide_eq_true_eq] at hs
    exact hall _ _ _ s hr hs.1.1.1 hs.1.1.2 hs.1.2 {} _ hs.2
  · obtain ⟨s, hr, hs⟩ := Machine.Reaches.exists_of_run (step .sample)
      (fresh ['7'] ⟨none, none, none⟩)
      (plainLogIn ++ [.initHandlers true, .run {}, .channelError (.other 1), .run {},
        .mdtBuilder 1 [], .run {}])
      (fun s => s.peerStateErrCodeOrOk.isSome &&
        (step .sample s (.openChannel 1)).any (fun s' => s'.log.any (· = .openChannelReturned 1 none
          true (some .sessionOpenChannelServerCannotProceedResourceUnavailable) none)))
      (by decide)
    simp only [Bool.and_eq_true, Outcome.any_iff, List.any_eq_true, decide_eq_true_eq] at hs
    obtain ⟨hp, s', hd, ev, hev, rfl⟩ := hs
    exact hall _ _ _ s s' 1 hr hp hd hev
  · obtain ⟨s, hr, hs⟩ := Machine.Reaches.exists_of_run
      (step { Cfg.sample with mqTypeOrNone := .posix }) (fresh ['7'] ⟨none, none, none⟩)
      [.run { osProcCreds := ⟨5, 1, 1⟩, osProcInvokedAs := ['/', 'c'] },
        .deliver ⟨0, none, none,
          .logInReq ⟨1, 1, .posix, true, some ⟨5, 1, 1⟩, ['c'], .none, [], 0⟩⟩,
        .run {}, .initHandlers true, .run {}, .mdtBuilder 1 []]
      (fun s => s.onErrFuncSet && decide (s.queue = [.mdtBuilder 1 []]) &&
        decide (step { Cfg.sample with mqTypeOrNone := .posix } s
          (.run { res := { channel := some (.other 1) } }) = .failed .badResources)) (by decide)
    simp only [Bool.and_eq_true, decide_eq_true_eq] at hs
    exact hall _ _ _ s hr hs.1.1 hs.1.2 _ _ hs.2
  · obtain ⟨s, hr, hs⟩ := Machine.Reaches.exists_of_run (step .sample)
      (fresh ['7'] ⟨none, none, none⟩)
      (plainLogIn ++ [.initHandlers true, .run {}, .mdtBuilder 1 [], .channelError (.other 1)])
      (fun s => s.onErrFuncSet && s.toSession.channelHosed &&
        decide (s.queue = [.mdtBuilder 1 [], .masterChannelError 0 (.other 1)]) &&
        decide (step .sample s (.run { res := { peerCreds := some (.other 2) } }) =
          .failed .noPeerCreds)) (by decide)
    simp only [Bool.and_eq_true, decide_eq_true_eq] at hs
    exact hall _ _ _ s hr hs.1.1.1 hs.1.1.2 hs.1.2 _ _ hs.2

end Server

end IpcSession
