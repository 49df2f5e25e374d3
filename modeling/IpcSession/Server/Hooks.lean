import IpcSession.Server.Progress

namespace IpcSession

/-!
# What a session's step says of its log-in

* `Server.step_log` — a step only adds to the record, and the hooks of the session server are called
  by the handler of the log-in request only.
* `Server.logInGoesOn` — the step neither ends the log-in nor calls a hook.
* `Server.pending_of_goesOn` — after such a step the log-in is still pending, unless the destructor
  returns.
* `Server.Dormant` — a destructor that has not started has left nothing; only `dtorStart` starts it.
-/

/-- A hook of the session server was called. -/
def Event.isHook : Event → Bool
  | cliNamespaceTaken _ => true
  | preRspSetupRan => true
  | _ => false

/-- A common event is none of the server's hooks. -/
theorem Event.isHook_of_isCommon {e : Event} (h : e.isCommon = true) : e.isHook = false := by
  cases e <;> first | rfl | cases h

/-- Nor is the mark of an update. -/
theorem Event.isHook_of_isMark {e : Event} (h : e.isMark = true) : e.isHook = false := by
  cases e <;> first | rfl | cases h

namespace Server

variable {cfg : Cfg} {s s' s'' : Server} {o : ServerOracle} {l : Option Mark} {L : Mark → Prop}

/-- The record has grown, and no hook was called. -/
def HookFree (s s' : Server) : Prop := ∃ es, s'.log = s.log ++ es ∧ ∀ e ∈ es, e.isHook = false

namespace HookFree

/-- Nothing is noted. -/
theorem same (h : s'.log = s.log) : HookFree s s' :=
  ⟨[], by simp [h], fun e he => by cases he⟩

/-- One event is, which is no hook. -/
theorem one {e : Event} (he : e.isHook = false) (h : s'.log = s.log ++ [e]) : HookFree s s' :=
  ⟨[e], h, fun e' h' => by rw [List.mem_singleton.mp h']; exact he⟩

theorem trans (h : HookFree s s') (h' : HookFree s' s'') : HookFree s s'' := by
  obtain ⟨es, hl, hes⟩ := h
  obtain ⟨es', hl', hes'⟩ := h'
  refine ⟨es ++ es', by rw [hl', hl, List.append_assoc], fun e he => ?_⟩
  rcases List.mem_append.mp he with he | he
  · exact hes e he
  · exact hes' e he

/-- An update of the session. -/
theorem session {b : Session} (h : s.toSession.Update l b) : HookFree s (s.setSession b) := by
  obtain ⟨es, hl, hes⟩ := h.log
  exact ⟨es, hl, fun e he => Event.isHook_of_isCommon (hes e he)⟩

/-- An update that runs no hook. -/
theorem update (h : Update cfg s l s') : HookFree s s' := by
  cases h with
  | session hu => exact session hu
  | mark he => exact one (Event.isHook_of_isMark he) rfl
  | mqs hn r =>
    obtain ⟨es, made, htried, hs⟩ := makeChannelMqs_tried cfg r s
    refine ⟨es, by rw [hs], fun e he => ?_⟩
    cases htried <;> simp only [List.mem_cons, List.not_mem_nil, or_false] at he <;>
      rcases he with rfl | rfl | rfl | rfl <;> rfl
  | mqRemoved name => exact one rfl rfl
  | logInDone hn hd =>
    obtain ⟨-, rfl⟩ := logInDone_done hd
    exact one rfl rfl
  | _ => exact same rfl

/-- And any number of them. -/
theorem updates (h : Updates cfg L s s') : HookFree s s' :=
  h.keeps (P := fun t => HookFree s t) (same rfl) fun _ _ _ ht _ hu => ht.trans (update hu)

/-- A task leaves the queue. -/
theorem taken {t : Task} {b : Session} (h : s.takeTask = .done (t, b)) :
    HookFree s (s.setSession b) := by
  obtain ⟨-, -, hb⟩ := Session.takeTask_done h
  rw [hb]
  exact same rfl

end HookFree

/-- **A step only adds to the record**, and only the handler of the log-in request calls the
    hooks. -/
theorem step_log {a : Act} (hp : Phases cfg s) (hn : Named s) (hd : step cfg s a = .done s') :
    s.log <+: s'.log ∧ (HookFree s s' ∨ ∃ o chan m b, a = .run o ∧
      s.takeTask = .done (.logInReq chan m, b) ∧ s.cliNamespace = [] ∧
        (s.setSession b).masterChannel.isSome = true) := by
  -- The common case: no hook of the server is called.
  have free : HookFree s s' → s.log <+: s'.log ∧ (HookFree s s' ∨ ∃ o chan m b, a = .run o ∧
      s.takeTask = .done (.logInReq chan m, b) ∧ s.cliNamespace = [] ∧
        (s.setSession b).masterChannel.isSome = true) := by
    intro h
    obtain ⟨es, hl, -⟩ := id h
    exact ⟨⟨es, hl.symm⟩, .inl h⟩
  cases step_updates hp hn hd with
  | common hu => exact free (.updates hu)
  | acceptLogIn ht hd =>
    refine free ((HookFree.taken ht).trans ?_)
    have hacc := acceptLogIn_session hd
    generalize hb : s'.toSession = b at hacc
    cases hacc with
    | failed e out => exact .one rfl (by rw [hb]; rfl)
    | refused e => exact .one rfl (by rw [hb]; rfl)
    | expecting => exact .same (by rw [hb]; rfl)
  -- The one step with a hook: the request passes its check and the namespace is taken.
  | @logInReq o b chan m s₁ ht hd =>
    obtain ⟨hw, -, hb⟩ := Session.takeTask_done ht
    have hwb : b.w.isServing = true := by rw [hb, hw]; rfl
    obtain ⟨r, e, s₂, -, hc, hu, -⟩ := onLogInReq_updates hwb hd
    have hchan := onLogInReq_channel hd
    cases checkLogInReq_done hc with
    | rejected e hb hl =>
      exact free (((HookFree.taken ht).trans (.same (by rw [hb]))).trans (.updates hu))
    | passed hn' hname hb' hl =>
      refine ⟨?_, .inr ⟨o, chan, m, b, rfl, ht, ?_, hchan⟩⟩
      · obtain ⟨es, hes, -⟩ := HookFree.updates hu
        refine ⟨[.cliNamespaceTaken o.cliNamespace, .preRspSetupRan] ++ es, ?_⟩
        rw [hes, hb', hb]
        simp [Session.record, Session.putCliNamespace]
      · rw [← hn', hb]
        rfl
  | dtorAct ha => cases ha <;> exact free (.same rfl)
  | dtorTask ht hb hf =>
    refine free ((HookFree.taken ht).trans ?_)
    cases hb with
    -- Sending the end may log an error of the channel, no hook.
    | @sendEnd b₁ hf hu hw =>
      have h₁ : HookFree (s.setSession _) (s.setSession b₁) :=
        hu.keeps (P := fun b => HookFree (s.setSession _) (s.setSession b)) (.same rfl)
          fun b _ _ hb _ hu => hb.trans (HookFree.session (s := s.setSession b) hu)
      exact h₁.trans (.same rfl)
    | _ => exact .same rfl
  | returned hdt hs =>
    rcases hs with rfl | rfl
    · exact free (.same rfl)
    · exact free (.one rfl rfl)

/-- **A hook is called while the log-in is pending** only. -/
theorem pending_of_hook {a : Act} (h : LogInInv cfg s) (hn : Named s) (hd : step cfg s a = .done s')
    (hhook : ¬ HookFree s s') : s.logInOnDoneFuncSet = true ∧ s.w = .idle := by
  rcases (step_log h.err.phases hn hd).2 with hfree | ⟨o, chan, m, b, rfl, ht, hname, hm⟩
  · exact absurd hfree hhook
  · obtain ⟨hw, -, hb⟩ := Session.takeTask_done ht
    refine ⟨?_, hw⟩
    cases hset : s.logInOnDoneFuncSet with
    | true => rfl
    | false =>
      cases hacc : s.accepted with
      | true => exact absurd hname (hn.accepted hacc)
      | false =>
        rw [setSession_toSession, hb] at hm
        have hm : s.masterChannel.isSome = true := hm
        rw [h.err.phases.failed hset hacc] at hm
        cases hm

/-! ### A log-in that goes on -/

/-- The step neither ends the log-in nor calls a hook: the log-in is over, or thread W does
    something else, or it does the part of the log-in that comes before the log-in request, without
    an error. -/
def logInGoesOn (s : Server) (a : Act) : Bool :=
  !s.logInOnDoneFuncSet || match a with
    | .run o => match s.queue with
      | .acceptLogIn :: _ => o.procCreds.isNone && o.invokedAs.isNone
      | .logInReq .. :: _ => false
      | .masterChannelError .. :: _ => false
      | _ => true
    | .syncReturn (.refused _) _ => true
    | .syncReturn .. => false
    | _ => true

/-- A log-in that starts well has still to end. -/
theorem acceptLogIn_pending (hset : s.logInOnDoneFuncSet = true) (hc : o.procCreds = none)
    (hi : o.invokedAs = none) (hd : s.acceptLogIn o = .done s') : s'.logInOnDoneFuncSet = true := by
  simp only [acceptLogIn, hc, hi, Outcome.bind_eq_done, Prod.exists] at hd
  obtain ⟨-, -, ok, s₂, h₂, hd⟩ := hd
  obtain ⟨b, hb, rfl⟩ := lift_done h₂
  split at hd <;> cases hd <;> exact hset

/-- **A log-in that goes on is still pending**, unless the destructor returns. -/
theorem pending_of_goesOn {a : Act} (h : LogInInv cfg s) (hset : s.logInOnDoneFuncSet = true)
    (hg : s.logInGoesOn a = true) (ha : a ≠ .dtorFinish) (hd : step cfg s a = .done s') :
    s'.logInOnDoneFuncSet = true := by
  simp only [logInGoesOn, hset, Bool.not_true, Bool.false_or] at hg
  have hp := h.err.phases
  cases a with
  -- A refused sync_request() of the loop stops it but does not end the log-in: the channel's error
  -- will.
  | syncReturn r =>
    cases r with
    | refused e =>
      simp only [step] at hd
      split at hd
      · obtain ⟨b, hb, rfl⟩ := liftUnit_done hd
        exact hset
      · simp only [initChannelsSyncReturn, Outcome.bind_eq_done, Prod.exists] at hd
        obtain ⟨-, -, e, s₁, h₁, hd⟩ := hd
        obtain ⟨b, hb, rfl⟩ := lift_done h₁
        obtain ⟨-, hres⟩ := Session.syncReturnNoResponse_done hb
        cases hres <;> cases hd <;> exact hset
      · cases hd
    -- Any other result may end the log-in, which `hg` excludes.
    | _ => cases hg
  -- Of the tasks, the log-in request and the channel's error may end the log-in; `hg` excludes
  -- both.
  | run o =>
    have hres := step_result h.err.hosing.waiting hd
    simp only [step, Outcome.bind_eq_done, Prod.exists] at hd
    obtain ⟨t, s₁, h₁, hd⟩ := hd
    obtain ⟨b, hb, rfl⟩ := lift_done h₁
    obtain ⟨hw, hq, -⟩ := Session.takeTask_done hb
    rw [hq] at hg
    cases runTask_result hb hd with
    | plain ht hdid hl => exact hl.logInOnDoneFuncSet.trans hset
    | logInReq hm hdid => cases hg
    | acceptLogIn hacc =>
      simp only [Bool.and_eq_true, Option.isNone_iff_eq_none] at hg
      exact acceptLogIn_pending (s := s.setSession b) hset hg.1 hg.2 hd
    | masterChannelError hd => cases hg
    | gracefulSessionEnd hd => exact hset
    -- init_handlers() needs an accepted session, which a pending log-in is not.
    | initHandlers hd =>
      have hacc := hp.accepted_of_initHandlers hb
      rw [(hp.logIn hset).2.2] at hacc
      cases hacc
    | preInitError hd =>
      simp only [preInitError] at hd
      split at hd
      · obtain ⟨b', hb', rfl⟩ := liftUnit_done hd
        exact hset
      · cases hd
  | dtorFinish => exact absurd rfl ha
  | openChannel call =>
    simp only [step, Outcome.bind_eq_done] at hd
    obtain ⟨-, -, hd⟩ := hd
    obtain ⟨b, hb, rfl⟩ := liftUnit_done hd
    exact hset
  | initHandlers passiveOpen =>
    simp only [step, Outcome.bind_eq_done] at hd
    obtain ⟨-, -, hd⟩ := hd
    cases hd
    exact hset
  | mdtBuilder call mdt =>
    simp only [step, Outcome.bind_eq_done] at hd
    obtain ⟨-, -, hd⟩ := hd
    cases hd
    exact hset
  | sessionToken =>
    simp only [step, Outcome.bind_eq_done] at hd
    obtain ⟨-, -, hd⟩ := hd
    cases hd
    exact hset
  | _ =>
    obtain ⟨b, hb, rfl⟩ := liftUnit_done hd
    exact hset

/-- A log-in that goes on calls no hook. -/
theorem hookFree_of_goesOn {a : Act} (h : LogInInv cfg s) (hn : Named s)
    (hg : s.logInGoesOn a = true) (hd : step cfg s a = .done s') : HookFree s s' := by
  by_contra hhook
  have hset := (pending_of_hook h hn hd hhook).1
  rcases (step_log h.err.phases hn hd).2 with hfree | ⟨o, chan, m, b, rfl, ht, -, -⟩
  · exact hhook hfree
  · obtain ⟨-, hq, -⟩ := Session.takeTask_done ht
    simp [logInGoesOn, hset, hq] at hg

/-! ### Before the destructor -/

/-- A destructor that has not started has no task in thread W, which serves. -/
def Dormant (s : Server) : Prop := s.dtor = .notStarted → s.toSession.Flushing

/-- A session runs no hook before its log-in. -/
theorem dormant_constructed (srvNamespace : SharedName) : Dormant (constructed srvNamespace) :=
  fun _ => ⟨rfl, rfl⟩

/-- Nor with its log-in just asked for. -/
theorem dormant_fresh (srvNamespace : SharedName) (out : OutArgs) :
    Dormant (fresh srvNamespace out) :=
  fun _ => ⟨rfl, rfl⟩

/-- **Only its first step starts the destructor.** -/
theorem Dormant.step {a : Act} (h : Dormant s) (hp : Phases cfg s) (hn : Named s)
    (hd : Server.step cfg s a = .done s') :
    Dormant s' ∧ (a = .dtorStart ∨ (s'.dtor = .notStarted ↔ s.dtor = .notStarted)) := by
  have started : s'.dtor ≠ .notStarted → (a = .dtorStart ∨ s.dtor ≠ .notStarted) →
      Dormant s' ∧ (a = .dtorStart ∨ (s'.dtor = .notStarted ↔ s.dtor = .notStarted)) := by
    intro hs' hs
    refine ⟨fun hdt => absurd hdt hs', hs.imp id fun hs => ?_⟩
    exact ⟨fun hdt => absurd hdt hs', fun hdt => absurd hdt hs⟩
  have same : s'.dtor = s.dtor → (s.toSession.Flushing → s'.toSession.Flushing) →
      Dormant s' ∧ (a = .dtorStart ∨ (s'.dtor = .notStarted ↔ s.dtor = .notStarted)) := by
    intro hdt hf
    exact ⟨fun hn => hf (h (hdt ▸ hn)), .inr (by rw [hdt])⟩
  cases step_updates hp hn hd with
  | common hu => exact same hu.dtor fun hf => hu.keeps hf fun _ _ _ ht _ hu => hu.flushing ht
  | @acceptLogIn o b s₁ ht hd =>
    have hdt : b.dtor = s.dtor := (Session.Update.takeTask rfl ht).dtor
    have hacc := acceptLogIn_session hd
    refine same (Eq.trans ?_ hdt) fun hf =>
      (acceptLogIn_flushing (takeTask_flushing hf rfl ht) hd).1
    generalize s'.toSession = b' at hacc
    cases hacc <;> rfl
  | @logInReq o b chan m s₁ ht hd =>
    obtain ⟨hw, -, hb⟩ := Session.takeTask_done ht
    have hdt : b.dtor = s.dtor := (Session.Update.takeTask rfl ht).dtor
    have hwb : b.w.isServing = true := by rw [hb, hw]; rfl
    obtain ⟨r, e, s₂, -, hc, hu, -⟩ := onLogInReq_updates hwb hd
    refine same ((hu.dtor.trans ?_).trans hdt) fun hf =>
      (onLogInReq_flushing (takeTask_flushing hf rfl ht) hwb hd).1
    cases checkLogInReq_done hc with
    | rejected e hb hl => rw [hb]; rfl
    | passed hn hname hb hl => rw [hb]; rfl
  | dtorAct ha hstart =>
    refine started ?_ ?_
    · cases ha <;> exact nofun
    · rcases hstart with hstart | hstart | hw
      · exact .inl hstart
      · exact .inr hstart
      · refine .inr fun hdt => ?_
        -- before the destructor starts, thread W does not wait for the final flush
        have hstage := (h hdt).flushing_of_worker hw
        rw [hdt] at hstage
        cases hstage
  | dtorTask ht hb hf =>
    have hdtor : s.dtor ≠ .notStarted := by
      intro hdt
      obtain ⟨htask, -⟩ := (h hdt).taken (by cases hb <;> rfl) ht
      rw [hdt] at htask
      cases htask
    have hb₁ := (Session.takeTask_done ht).2.2
    refine started ?_ (.inr hdtor)
    cases hb with
    | flush hm willRun =>
      rw [hb₁]
      exact hdtor
    | _ => exact nofun
  | returned hdt hs =>
    have hdt' : s'.dtor = .returned := by rcases hs with rfl | rfl <;> rfl
    exact started (by rw [hdt']; exact nofun) (.inr (by rw [hdt]; exact nofun))

end Server

end IpcSession
