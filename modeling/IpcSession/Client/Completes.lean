import IpcSession.Client.Calls
import IpcSession.Client.Pending

namespace IpcSession

/-!
# Each connect attempt completes exactly once

* `Client.Next` — what a step of a client without a sub-class leaves: the invariant of what it waits
  for, and an attempt that goes on, or has ended in the state that goes with its code; there is a
  lemma about it for each stage of an attempt.
* `Client.completesOnce_of_reaches` — an attempt ends at most once, with success exactly when PEER
  state is entered and with an error exactly when NULL state is; no assertion of its handlers fails;
  and it is never left pending.
-/

namespace Client

variable {cfg : Cfg} {s s₁ s' : Client} {o : ClientOracle} {passiveOpen : Bool} {starts : Prop}

/-- What a step leaves. -/
structure Next (starts : Prop) (s s' : Client) : Prop where
  waits : Waits s'
  went : Went starts s s'

/-- What comes before the code of a step, and ends no attempt, does not matter. -/
theorem Next.after (h : Next starts s₁ s') (hs : s₁.state = s.state) (hl : Codes s s₁ []) :
    Next starts s s' :=
  ⟨h.waits, h.went.after hs hl⟩

/-- Code that is not of connecting. -/
theorem Next.aside {b : Session} (h : Waits s) (hb : s.toSession.Aside b) :
    Next False s (s.setSession b) :=
  ⟨h.aside hb, .stays id rfl hb.log⟩

/-- Code of PEER state. -/
theorem Next.peer {b : Session} (h : Waits s) (hs : s.state = .peer) (hf : s.toSession.Frame b)
    (hb : s.toSession.Steady b) : Next False s (s.setSession b) := by
  have hnone : s.connOnDoneFuncOrEmpty = none := by
    by_contra hn
    have hc := h.pending hn
    rw [hs] at hc
    cases hc
  exact ⟨.of_peer hs (hf.onErrFuncSet.trans h.errFunc) hnone, .stays id rfl hb.log⟩

/-- No attempt is started. -/
theorem Next.of_not (h : Next False s s') (hn : ¬ starts) : Next starts s s' := by
  refine ⟨h.waits, ?_⟩
  cases h.went with
  | stays _ hs' hl => exact .stays hn hs' hl
  | begins hf => exact hf.elim
  | fails hf hs' e hl => exact .fails (.inr (hf.resolve_left id)) hs' e hl
  | succeeds _ hs hs' hl => exact .succeeds hn hs hs' hl

/-- Thread W has taken a task, and no attempt is started. -/
theorem Next.taken {b : Session} (h : Next False (s.setSession b) s')
    (hl : ∃ es, b.log = s.log ++ es ∧ es.filterMap Event.connectCode = []) (hn : ¬ starts) :
    Next starts s s' := by
  have hall : Next False s s' := h.after rfl hl
  exact hall.of_not hn

/-! ### The log-in request -/

/-- `async_connect()` starts an attempt in NULL state, which goes on or has failed. -/
theorem asyncConnect_next {attempt : Nat} {b : Builder} (h : Waits s)
    (hclean : s.srvNamespace = [] → Clean passiveOpen s)
    (hd : s.asyncConnect cfg attempt false b o = .done s') : Next (s.state = .null) s s' := by
  -- Nothing is logged up to the first failure.
  have same : Codes s s [] := Session.log_same rfl
  cases asyncConnect_done hd with
  | ignored hs =>
    have hrec : s.toSession.Aside (s.toSession.record .connectIgnored) := .record rfl _
    exact ⟨h.aside hrec, .stays hs rfl hrec.log⟩
  | cnsFailed hs e hc =>
    have hp := h.plain (by rw [hs]; exact fun hn => (by cases hn))
    exact ⟨.of_null rfl ⟨hp.errFunc, hp.worker, hp.ok⟩ rfl (h.null hs),
      .fails (.inl hs) rfl e (same.snoc rfl)⟩
  | sockFailed hs pid hc hname hsrv e hsock =>
    have hp := h.plain (by rw [hs]; exact fun hn => (by cases hn))
    exact ⟨.of_null rfl ⟨hp.errFunc, hp.worker, hp.ok⟩ rfl (h.null hs),
      .fails (.inl hs) rfl e (same.snoc rfl)⟩
  | sendFailed hs pid hc hname hsrv hm t ht ch hch e hsend =>
    subst ht
    have hp := h.plain (by rw [hs]; exact fun hn => (by cases hn))
    have hl : Codes s ((((s.begin attempt false).setSession
        (s.putSrvNamespace (pidToString pid))).makeChannel).setSession
          ((((s.begin attempt false).setSession
            (s.putSrvNamespace (pidToString pid))).makeChannel).failCall ch e)) [] :=
      Session.log_snoc (e := .channelError false e) rfl rfl
    exact ⟨.of_dropped rfl ⟨hp.errFunc, hp.worker, hp.ok⟩ rfl rfl,
      .fails (.inl hs) rfl e (hl.snoc rfl)⟩
  | refused hs pid hc hname hsrv hm t ht ch hch e hsend =>
    subst ht
    have hp := h.plain (by rw [hs]; exact fun hn => (by cases hn))
    refine ⟨.of_connecting rfl ⟨hp.errFunc, hp.worker, hp.ok⟩ fun ch' hm' hh' => ?_,
      .begins hs rfl ?_⟩
    · cases hm'
      cases hh'
    · exact Session.log_snoc (e := .channelError true e) rfl rfl
  | sent hs pid hc hname hsrv hm t ht ch hch hsend =>
    subst ht
    have hp := h.plain (by rw [hs]; exact fun hn => (by cases hn))
    refine ⟨.of_connecting rfl ⟨hp.errFunc, hp.worker, hp.ok⟩ fun ch' hm' hh' => ?_,
      .begins hs rfl ?_⟩
    · cases hch
      cases hm'
      -- A clean queue holds nothing that answers this log-in before its response does.
      refine ⟨fun t ht => ?_, fun ho => (by cases ho), .inl ?_⟩
      · have hu := (hclean hsrv).queue t ht
        cases t <;> first | rfl | cases hu
      · show 0 < s.queue.countP Task.isLogInRsp + 1
        omega
    · exact Session.log_snoc (e := .sent _) rfl rfl

/-! ### The ends of an attempt that is under way -/

/-- An error ends the attempt, and the channel goes. -/
theorem backToNull_next {e : Err} (hs : s.state = .connecting) (hp : Plain s.toSession)
    (hd : s.backToNull.invokeConnOnDoneFunc (some e) .passOn = .done s') : Next False s s' := by
  obtain ⟨f, -, rfl⟩ := invokeConnOnDoneFunc_passOn_done hd
  have same : Codes s s [] := Session.log_same rfl
  exact ⟨.of_dropped rfl ⟨hp.errFunc, hp.worker, hp.ok⟩ rfl rfl,
    .fails (.inr hs) rfl e (same.snoc rfl)⟩

/-- Success ends the attempt. -/
theorem connectSucceeded_next {hook : Hook} (hs : s.state = .connecting)
    (hd : s₁.connectSucceeded cfg hook = .done s')
    (huser : ∀ f, s₁.connOnDoneFuncOrEmpty = some f → f.kind = .user)
    (hp : Plain s₁.toSession) (hl : Codes s s₁ []) : Next False s s' := by
  obtain ⟨-, f, hf, hr⟩ := connectSucceeded_done hd
  have hf : s₁.connOnDoneFuncOrEmpty = some f := hf
  have hs' := hr.of_user (huser f hf)
  subst hs'
  exact ⟨.of_peer rfl hp.errFunc rfl, .succeeds id hs rfl (hl.snoc rfl)⟩

/-- A call is refused: the report of the channel's error is to end the attempt. -/
theorem refused_next {b : Session} (hs : s.state = .connecting) (hp : Plain s.toSession)
    (hs' : s'.state = .connecting) (hb : s.toSession.Kept b) (hb' : s'.toSession = b)
    (hh : b.Hosed) : Next False s s' := by
  subst hb'
  refine ⟨.of_connecting hs' (hp.kept hb) fun ch hm hno => ?_,
    .stays id (hs'.trans hs.symm) hb.log⟩
  rw [hh ch hm] at hno
  cases hno

/-! ### The log-in response -/

/-- After the log-in response the attempt waits for its init-channels, or has ended. -/
theorem onMasterChannelLogInRsp_next {chan attempt : Nat} {m : Msg}
    (hp : s.state = .connecting → Plain s.toSession)
    (hreq : s.state = .connecting → ∀ ch, s.masterChannel = some ch → ch.hosed = false →
      ∀ t ∈ s.queue, t.isOpenChannelReq = false)
    (huser : ∀ f, s.connOnDoneFuncOrEmpty = some f → f.kind = .user)
    (hd : s.onMasterChannelLogInRsp cfg chan m attempt o = .done s') : Next False s s' := by
  simp only [onMasterChannelLogInRsp, Outcome.bind_eq_done, Prod.exists,
    Outcome.check_eq_done] at hd
  obtain ⟨res, s₁, hread, -, hstate, -, -, hd⟩ := hd
  obtain ⟨⟨v, w, name, hs₁⟩, -⟩ := readLogInRsp_done hread
  have hst : s₁.state = .connecting := of_decide_eq_true hstate
  -- reading leaves everything here as it was
  have hss : s₁.state = s.state := by subst hs₁; rfl
  have hq₁ : s₁.queue = s.queue := by subst hs₁; rfl
  have hm₁ : s₁.masterChannel = s.masterChannel := by subst hs₁; rfl
  have hp₁ : Plain s₁.toSession := by
    have hp := hp (hss.symm.trans hst)
    subst hs₁
    exact ⟨hp.errFunc, hp.worker, hp.ok⟩
  have huser₁ : ∀ f, s₁.connOnDoneFuncOrEmpty = some f → f.kind = .user := by subst hs₁; exact huser
  have hl₁ : Codes s s₁ [] := Session.log_same (by subst hs₁; rfl)
  suffices hnext : Next False s₁ s' from hnext.after hss hl₁
  cases res with
  | error e => exact backToNull_next hst hp₁ hd
  | ok p =>
    obtain ⟨num, mdt⟩ := p
    simp only at hd
    split at hd
    · simp only [Outcome.bind_eq_done, Prod.exists] at hd
      obtain ⟨-, -, ok, s₂, h₂, hd⟩ := hd
      obtain ⟨b, hexp, rfl⟩ := lift_done h₂
      obtain ⟨hkept, hhosed⟩ := Session.expectOpenChannelReqs_kept hexp
      cases ok with
      | true => exact connectSucceeded_next hst hd huser₁ (hp₁.kept hkept) hkept.log
      | false =>
        cases hd
        exact refused_next hst hp₁ hst hkept rfl (hhosed rfl)
    · rename_i hnum
      simp only [Outcome.bind_eq_done, Prod.exists] at hd
      obtain ⟨-, -, ok, s₂, h₂, hd⟩ := hd
      obtain ⟨b, hexp, rfl⟩ := lift_done h₂
      cases hd
      cases ok with
      | false =>
        obtain ⟨hkept, hhosed⟩ := Session.expectOpenChannelReqs_kept hexp
        exact refused_next hst hp₁ hst hkept rfl (hhosed rfl)
      | true =>
        obtain ⟨ch, hm, hres⟩ := Session.expectOpenChannelReqs_done hexp
        have hm : s₁.masterChannel = some ch := hm
        cases hres with
        | ok hh =>
          refine ⟨.of_connecting hst ⟨hp₁.errFunc, hp₁.worker, hp₁.ok⟩ fun ch' hm' _ => ?_,
            .stays id rfl (Session.log_same rfl)⟩
          cases hm'
          refine ⟨fun t ht => ?_, fun ho => (by cases ho), .inr ⟨_, rfl, ?_⟩⟩
          · rcases List.mem_append.mp ht with ht | ht
            · exact hreq (hss.symm.trans hst) ch (hm₁ ▸ hm) hh t (hq₁ ▸ ht)
            · obtain ⟨m', -, rfl⟩ := List.mem_map.mp ht
              rfl
          · simp only [awaitsMore, setSession_vecs, setVec_vecs, List.lookup_cons_self,
              Option.getD_some, List.length_nil, decide_eq_true_eq]
            exact Nat.pos_of_ne_zero hnum

/-! ### The init-channels -/

/-- With the last init-channel the attempt has ended. -/
theorem initChannelsComplete_next {m : Msg} {cap : InitCapture} {chans : Channels}
    (hs : s.state = .connecting) (hp : Plain s.toSession) (hord : s.Ordered)
    (huser : ∀ f, s.connOnDoneFuncOrEmpty = some f → f.kind = .user)
    (hd : s.initChannelsComplete cfg m cap chans o = .done s') : Next False s s' := by
  simp only [initChannelsComplete, Outcome.bind_eq_done, Prod.exists] at hd
  obtain ⟨ok₁, s₁, h₁, hd⟩ := hd
  obtain ⟨b₁, hb₁, rfl⟩ := lift_done h₁
  obtain ⟨hk₁, hh₁⟩ := Session.undoExpectOpenChannelReqs_kept hb₁
  have ht₁ := (Session.undoExpectOpenChannelReqs_updates (L := Mark.any) trivial hb₁).tame
  split at hd
  -- Refused by a hosed channel: the error comes as a task, and the state stays.
  · rename_i hok
    cases hd
    exact refused_next hs hp hs hk₁ rfl (hh₁ (by simpa using hok))
  · simp only [Outcome.bind_eq_done, Prod.exists] at hd
    obtain ⟨ok₂, s₂, h₂, hd⟩ := hd
    obtain ⟨b₂, hb₂, rfl⟩ := lift_done h₂
    obtain ⟨hk₂, hh₂⟩ := Session.expectOpenChannelReqs_kept hb₂
    have hk₂ := hk₁.trans hk₂
    have ht₂ := ht₁.trans (Session.expectOpenChannelReqs_updates (L := Mark.any) trivial hb₂).tame
    split at hd
    · rename_i hok
      cases hd
      exact refused_next hs hp hs hk₂ rfl (hh₂ (by simpa using hok))
    · simp only [Outcome.bind_eq_done, Prod.exists] at hd
      obtain ⟨c, s₃, h₃, hd⟩ := hd
      obtain ⟨b₃, hb₃, rfl⟩ := lift_done h₃
      obtain ⟨ch, hm, hr⟩ := Session.send_done hb₃
      obtain ⟨hk₃, hrefused, hfailed⟩ := hr.kept hm
      have hk₃ := hk₂.trans hk₃
      split at hd
      · cases hd
        exact refused_next hs hp hs hk₃ rfl (hrefused rfl)
      · -- the one way to NULL state that leaves the channel: its error is not reported again
        rename_i e
        obtain ⟨f, -, rfl⟩ := invokeConnOnDoneFunc_passOn_done hd
        obtain ⟨hno, hq, hhosed⟩ := hfailed e rfl
        have hquiet := (ht₂.ordered hord).quiet ch hm hno
        have hl : Codes s (s.setSession b₃) [] := hk₃.log
        have hp₃ := hp.kept hk₃
        refine ⟨.of_null rfl ⟨hp₃.errFunc, hp₃.worker, hp₃.ok⟩ rfl fun ch' hm' =>
          ⟨hhosed ch' hm', ?_⟩, .fails (.inr hs) rfl e (hl.snoc rfl)⟩
        show ∀ t ∈ b₃.queue, t.isMasterChannelError = false
        rw [hq]
        exact hquiet
      · simp only [Outcome.bind_eq_done] at hd
        obtain ⟨s₄, h₄, hd⟩ := hd
        obtain ⟨out, rfl⟩ := emitInitChannels_frame h₄
        exact connectSucceeded_next hs hd huser (hp.kept hk₃) hk₃.log

/-- After an init-channel the attempt waits for the next one, or has ended. -/
theorem onMasterChannelInitOpenChannel_next {m : Msg} {cap : InitCapture}
    (hp : s.state = .connecting → Plain s.toSession) (hord : s.Ordered)
    (hreq : s.state = .connecting → ∀ ch, s.masterChannel = some ch → ch.hosed = false →
      (∀ t ∈ s.queue, t.isOpenChannelReq = false) ∧
        ch.openReqHandler = some (.initOpenChannel cap))
    (huser : ∀ f, s.connOnDoneFuncOrEmpty = some f → f.kind = .user)
    (hd : s.onMasterChannelInitOpenChannel cfg m cap o = .done s') : Next False s s' := by
  simp only [onMasterChannelInitOpenChannel, Outcome.bind_eq_done, Outcome.check_eq_done] at hd
  obtain ⟨-, hstate, -, -, hd⟩ := hd
  have hst : s.state = .connecting := of_decide_eq_true hstate
  split at hd
  · simp only [Outcome.bind_eq_done, Prod.exists, Outcome.check_eq_done] at hd
    obtain ⟨obj, s₁, h₁, -, hlt, hd⟩ := hd
    obtain ⟨b₁, hb₁, rfl⟩ := lift_done h₁
    have hless : ((s.vecs.lookup cap.vec).getD []).length < cap.nInitChannels :=
      of_decide_eq_true hlt
    have hrec : s.toSession.Aside (s.toSession.record (.initOpenChannelRan m.id)) := .record rfl _
    have hord₁ : b₁.Ordered := (Session.createChannelObj_updates (L := Mark.any) hb₁).tame.ordered
      ((Session.Tame.record _ _).ordered hord)
    simp [Session.createChannelObj] at hb₁
    obtain ⟨-, -, -, -, hb₁⟩ := hb₁
    -- Making the channel object uses up a nickname and logs; the connect is as it was.
    have hside : s.toSession.Aside b₁ := by
      subst hb₁
      exact hrec.trans (.of_same rfl id rfl rfl rfl (Session.log_same rfl))
    have hq₁ : b₁.queue = s.queue := by subst hb₁; rfl
    have hm₁ : b₁.masterChannel = s.masterChannel := by subst hb₁; rfl
    have hp₁ : Plain b₁ := by
      have hp := hp hst
      subst hb₁
      exact ⟨hp.errFunc, hp.worker, hp.ok⟩
    split at hd
    -- Not the last one: the handler goes on expecting requests, and at least one more is due.
    · rename_i hlen
      cases hd
      refine ⟨.of_connecting hst hp₁ fun ch hm hh => ?_, .stays id rfl hside.log⟩
      obtain ⟨hq, ho⟩ := hreq hst ch (hm₁ ▸ hm) hh
      refine ⟨fun t ht => hq t (hq₁ ▸ ht), fun hc => ?_, .inr ⟨cap, ho, ?_⟩⟩
      · rw [ho] at hc
        cases hc
      · have hlen' : ((s.vecs.lookup cap.vec).getD [] ++ [some obj]).length ≠ cap.nInitChannels :=
          hlen
        rw [List.length_append, List.length_singleton] at hlen'
        have hmore : ((s.vecs.lookup cap.vec).getD [] ++ [some obj]).length <
            cap.nInitChannels := by
          rw [List.length_append, List.length_singleton]
          omega
        simp only [awaitsMore, setVec_vecs, List.lookup_cons_self, Option.getD_some]
        exact decide_eq_true hmore
    · refine (initChannelsComplete_next (s := (s.setSession b₁).setVec cap.vec
        (((s.setSession b₁).vecs.lookup cap.vec).getD [] ++ [some obj])) hst hp₁ hord₁ huser
          hd).after rfl hside.log
  · cases hd

/-! ### The channel's error -/

/-- The report of the channel's error ends the attempt that goes on. -/
theorem onMasterChannelError_next {chan : Nat} {e : Err} (h : Waits s)
    (hd : s.onMasterChannelError cfg chan e = .done s') : Next False s s' := by
  simp only [onMasterChannelError] at hd
  split at hd
  · cases hd
    exact ⟨h, .stays id rfl (Session.log_same rfl)⟩
  · split at hd
    · cases hd
    · rename_i hs
      have hp := h.plain (by rw [hs]; exact fun hn => (by cases hn))
      simp only [Outcome.bind_eq_done] at hd
      obtain ⟨-, -, hd⟩ := hd
      exact backToNull_next hs hp hd
    · rename_i hs
      obtain ⟨b, hb, rfl⟩ := liftUnit_done hd
      have hst := (Session.onMasterChannelErrorPeer_updates (L := Mark.any) trivial trivial
          hb).steady
      exact .peer h hs (Session.onMasterChannelErrorPeer_frame hb) hst

/-! ### Steps -/

/-- A request to open a channel that comes too early finds the channel hosed, and nothing comes of
    it. -/
theorem onMasterChannelOpenChannelReq_aside {b b' : Session} {m : Msg} (hh : b.Hosed)
    (hd : onMasterChannelOpenChannelReq cfg m o b = .done b') : b.Aside b' := by
  simp only [onMasterChannelOpenChannelReq, Outcome.bind_eq_done] at hd
  obtain ⟨h, -, hd⟩ := hd
  have hrec : b.Aside (b.record (.openChannelReqRan m.id)) := .record rfl _
  cases h with
  | true =>
    cases hd
    exact hrec
  | false =>
    simp only [Bool.false_eq_true, if_false, Outcome.bind_eq_done, Prod.exists] at hd
    obtain ⟨-, -, p, b₁, hprep, hd⟩ := hd
    have hside : b.Aside b₁ := by
      refine hrec.trans ?_
      simp only [prepare] at hprep
      split at hprep
      · split at hprep
        · simp only [Outcome.bind_eq_done, Prod.exists] at hprep
          obtain ⟨obj, b₂, hc, hprep⟩ := hprep
          cases hprep
          simp [Session.createChannelObj] at hc
          obtain ⟨-, -, -, -, rfl⟩ := hc
          exact .of_same rfl id rfl rfl rfl (Session.log_same rfl)
        · cases hprep
      · cases hprep
        exact .refl _
    obtain ⟨ch, hm, hr⟩ := Session.openChannelReqRespond_done hd
    obtain ⟨ch₀, hm₀, -, hhosed⟩ := hside.channel ch hm
    have hhosed := hhosed (hh ch₀ hm₀)
    generalize o.send = r at hr
    cases hr with
    | refusedOld => exact hside
    | accepted hno | rejected hno | refusedNew hno | failed hno =>
      rw [hhosed] at hno
      cases hno

section Tasks

variable {t : Task} {b : Session} {K : Prop} {n : ConnectNotes}

/-- While an attempt goes on, a session that has taken a task is as plain as it was. -/
theorem Waits.plain_taken (h : Waits s) (ht : s.takeTask = .done (t, b))
    (hs : s.state = .connecting) : Plain b := by
  obtain ⟨-, -, hb⟩ := Session.takeTask_done ht
  have hp := h.plain (by rw [hs]; exact fun hn => (by cases hn))
  rw [hb]
  exact ⟨hp.errFunc, hp.worker, hp.ok⟩

/-- No attempt starts with a task other than that of `async_connect()`. -/
theorem not_startsConnect (ht : s.takeTask = .done (t, b)) (hno : t.isAsyncConnect = false) :
    ¬ s.startsConnect (.run o) = true := by
  obtain ⟨-, hq, -⟩ := Session.takeTask_done ht
  simp [startsConnect, hq, hno]

/-- A task that is not of connecting. -/
theorem Next.quietTask (h : Waits s) (ht : s.takeTask = .done (t, b)) (hl : t.isLogInRsp = false)
    (hc : t.isAsyncConnect = false) {b' : Session} (hb : b.Aside b') :
    Next (s.startsConnect (.run o) = true) s (s.setSession b') :=
  (Next.aside h ((Session.Aside.takeTask hl ht).trans hb)).of_not (not_startsConnect ht hc)

/-- A task of PEER state. -/
theorem Next.peerTask (h : Waits s) (ht : s.takeTask = .done (t, b)) (hl : t.isLogInRsp = false)
    (hc : t.isAsyncConnect = false) (hs : s.state = .peer) {b' : Session} (hf : b.Frame b')
    (hb : b.Steady b') : Next (s.startsConnect (.run o) = true) s (s.setSession b') := by
  have hside : s.toSession.Aside b := .takeTask hl ht
  exact (Next.peer (s := s.setSession b) (h.aside hside) hs hf hb).taken hside.log
    (not_startsConnect ht hc)

/-- The task of the log-in response: it was the only message of the log-in to come. -/
theorem logInRspTask_next {chan attempt : Nat} {m : Msg} (h : Waits s) (hout : OutInv K s n)
    (ht : s.takeTask = .done (.logInRsp chan m attempt, b))
    (hd : (s.setSession b).runTask cfg o (.logInRsp chan m attempt) = .done s') :
    Next (s.startsConnect (.run o) = true) s s' := by
  obtain ⟨-, hq, hb⟩ := Session.takeTask_done ht
  have hlog : 0 < s.logIns := by
    simp only [Session.logIns, hq, List.countP_cons, Task.isLogInRsp, if_true]
    omega
  refine (onMasterChannelLogInRsp_next (s := s.setSession b) (h.plain_taken ht)
    (fun hs ch hm hh u hu => ?_) hout.user hd).taken (Session.log_same (by rw [hb]))
    (not_startsConnect ht rfl)
  have hm : s.masterChannel = some ch := by
    rw [← hm, hb]
    rfl
  refine (h.connecting hs ch hm hh).noReq u ?_
  rw [hq]
  exact List.mem_cons_of_mem _ hu

/-- The task of an init-channel's open: it is the one that the attempt is waiting for. -/
theorem initOpenChannelTask_next {chan : Nat} {m : Msg} {cap : InitCapture} (h : Waits s)
    (hst : StageInv s) (hout : OutInv K s n)
    (ht : s.takeTask = .done (.initOpenChannel chan m cap, b))
    (hd : (s.setSession b).runTask cfg o (.initOpenChannel chan m cap) = .done s') :
    Next (s.startsConnect (.run o) = true) s s' := by
  obtain ⟨-, hq, hb⟩ := Session.takeTask_done ht
  have hside : s.toSession.Aside b := .takeTask rfl ht
  have hmem : Task.initOpenChannel chan m cap ∈ s.queue := by
    rw [hq]
    exact List.mem_cons_self
  have hcap : cap ∈ s.inits := Session.mem_inits.mpr (.inl ⟨_, hmem, rfl⟩)
  refine (onMasterChannelInitOpenChannel_next (s := s.setSession b) (h.plain_taken ht)
    (hst.ordered.takeTask ht) (fun hs ch hm hh => ?_) hout.user hd).taken hside.log
    (not_startsConnect ht rfl)
  have hm : s.masterChannel = some ch := by
    rw [← hm, hb]
    rfl
  obtain ⟨hreq, -, hstage⟩ := h.connecting hs ch hm hh
  refine ⟨fun u hu => hreq u (by rw [hq]; exact List.mem_cons_of_mem _ hu), ?_⟩
  rcases hstage with hl | ⟨cap', hcap', -⟩
  · have hi := (hst.logIn hl).2.2
    rw [hi] at hcap
    cases hcap
  · have hcap'i : cap' ∈ s.inits := Session.mem_inits.mpr (.inr ⟨ch, _, hm, hcap', rfl⟩)
    rw [hcap', hst.same cap' hcap'i cap hcap]

/-- The task of the server's request for a channel: out of PEER state the channel is hosed by
    then. -/
theorem openChannelReqTask_next {chan : Nat} {m : Msg} (h : Waits s)
    (ht : s.takeTask = .done (.openChannelReq chan m, b))
    (hd : (s.setSession b).runTask cfg o (.openChannelReq chan m) = .done s') :
    Next (s.startsConnect (.run o) = true) s s' := by
  obtain ⟨-, hq, hb⟩ := Session.takeTask_done ht
  obtain ⟨b', hb', rfl⟩ := liftUnit_done hd
  by_cases hs : s.state = .peer
  · exact .peerTask h ht rfl rfl hs (onMasterChannelOpenChannelReq_frame hb')
      (onMasterChannelOpenChannelReq_steady hb')
  · refine .quietTask h ht rfl rfl (onMasterChannelOpenChannelReq_aside (fun ch hm => ?_) hb')
    have hm : s.masterChannel = some ch := by
      rw [← hm, hb]
    cases hst' : s.state with
    | peer => exact absurd hst' hs
    | null => exact (h.null hst' ch hm).1
    | connecting =>
      by_contra hh
      have hno := (h.connecting hst' ch hm (by simpa using hh)).noReq (.openChannelReq chan m)
        (by rw [hq]; exact List.mem_cons_self)
      cases hno

/-- The task of `async_connect()`: it starts the attempt in NULL state. -/
theorem asyncConnectTask_next {attempt : Nat} {subClass : Bool} {bl : Builder} (h : Waits s)
    (hout : OutInv K s n) (hclean : s.srvNamespace = [] → Clean passiveOpen s)
    (ht : s.takeTask = .done (.asyncConnect attempt subClass bl, b))
    (hd : (s.setSession b).runTask cfg o (.asyncConnect attempt subClass bl) = .done s') :
    Next (s.startsConnect (.run o) = true) s s' := by
  obtain ⟨-, hq, hb⟩ := Session.takeTask_done ht
  have hside : s.toSession.Aside b := .takeTask rfl ht
  have hvan : subClass = false := by
    cases subClass with
    | false => rfl
    | true => exact absurd (by rw [hq]; exact List.mem_cons_self) (hout.vanilla attempt bl)
  subst hvan
  have hstarts : (s.startsConnect (.run o) = true) = (s.state = .null) := by
    simp [startsConnect, hq, Task.isAsyncConnect]
  rw [hstarts]
  refine (asyncConnect_next (h.aside hside) (fun hsrv => (?_ : Clean passiveOpen _)) hd).after rfl
    hside.log
  rw [hb]
  have hsrv : s.srvNamespace = [] := by
    rw [hb] at hsrv
    exact hsrv
  exact (hclean hsrv).of_core rfl (hclean hsrv).worker fun u hu => by
    rw [hq]
    exact List.mem_cons_of_mem _ hu

/-- The task of `session_token()`. -/
theorem sessionTokenTask_next (h : Waits s) (ht : s.takeTask = .done (.sessionToken, b))
    (hd : (s.setSession b).runTask cfg o .sessionToken = .done s') :
    Next (s.startsConnect (.run o) = true) s s' := by
  simp only [runTask, sessionToken] at hd
  split at hd
  · cases hd
    exact .quietTask h ht rfl rfl (.record rfl b)
  · rename_i hs
    obtain ⟨b', hb', rfl⟩ := liftUnit_done hd
    exact .peerTask h ht rfl rfl (not_not.mp hs) (Session.sessionToken_frame hb')
      (Session.sessionToken_updates (L := Mark.any) (fun _ => trivial) hb').steady

/-- Thread W takes task `t`, and runs it. -/
theorem runTask_next (hg : cfg.gracefulFinishRequired = false) (h : Waits s) (hst : StageInv s)
    (he : ErrInv cfg True False s) (hout : OutInv K s n)
    (hclean : s.srvNamespace = [] → Clean passiveOpen s)
    (ht : s.takeTask = .done (t, b)) (hd : (s.setSession b).runTask cfg o t = .done s') :
    Next (s.startsConnect (.run o) = true) s s' := by
  obtain ⟨hw, -, hb⟩ := Session.takeTask_done ht
  have hfin : b.gracefulFinisher = none := by
    cases hf : b.gracefulFinisher with
    | none => rfl
    | some f =>
      have hreq := (he.finisher (by rw [hb] at hf; rw [hf]; rfl)).2
      rw [hg] at hreq
      cases hreq
  cases t with
  | masterChannelError chan e =>
    have hside : s.toSession.Aside b := .takeTask rfl ht
    exact (onMasterChannelError_next (h.aside hside) hd).taken hside.log (not_startsConnect ht rfl)
  | logInRsp chan m attempt => exact logInRspTask_next h hout ht hd
  | initOpenChannel chan m cap => exact initOpenChannelTask_next h hst hout ht hd
  | openChannelReq chan m => exact openChannelReqTask_next h ht hd
  | gracefulSessionEnd chan =>
    -- the message is not even expected without a graceful finish
    obtain ⟨b', hb', -⟩ := liftUnit_done hd
    obtain ⟨hf, -⟩ := Session.onGracefulSessionEnd_done hb'
    have hf : b.gracefulFinisher = some false := hf
    rw [hfin] at hf
    cases hf
  | asyncConnect attempt subClass bl => exact asyncConnectTask_next h hout hclean ht hd
  | mdtBuilder call mdt =>
    simp only [runTask, mdtBuilder] at hd
    split at hd <;> cases hd <;>
      exact .quietTask h ht rfl rfl (.of_same rfl id rfl rfl rfl
        (Session.log_snoc (e := .mdtBuilderReturned call _) rfl rfl))
  | openChannel call bl =>
    obtain ⟨b', hb', rfl⟩ := liftUnit_done hd
    obtain ⟨hin, -⟩ := Session.openChannelBody_done hb'
    have hwb : b.w = .idle := by rw [hb]; exact hw
    exact .peerTask h ht rfl rfl (of_decide_eq_true hin) (Session.openChannelBody_frame hb')
      (Session.openChannelBody_updates (L := Mark.any) (fun _ _ => trivial) (fun _ => trivial) hwb
        hb').steady
  | sessionToken => exact sessionTokenTask_next h ht hd
  | dtorFinisherQuery =>
    cases hd
    exact .quietTask h ht rfl rfl (.dtorTask .finisherQuery hfin)
  | dtorSendEnd =>
    obtain ⟨b', hb', rfl⟩ := liftUnit_done hd
    exact .quietTask h ht rfl rfl (.dtorTask (Session.dtorSendEnd_task hb') hfin)
  | dtorFlush =>
    cases hd
    exact .quietTask h ht rfl rfl (.dtorTask (Session.dtorFlush_task _) hfin)
  | logInReq => cases hd
  | acceptLogIn => cases hd
  | initHandlers => cases hd
  | preInitError => cases hd

end Tasks

/-- **Every step of a client without a sub-class** leaves an attempt that goes on, or has ended as
    it should. -/
theorem step_next {K : Prop} {n : ConnectNotes} {act : Act}
    (hg : cfg.gracefulFinishRequired = false)
    (h : Waits s) (hst : StageInv s) (he : ErrInv cfg True False s) (hout : OutInv K s n)
    (hclean : s.srvNamespace = [] → Clean passiveOpen s) (hd : step cfg s act = .done s') :
    Next (s.startsConnect act = true) s s' := by
  -- Most steps leave the connect alone: they post a task or take a message in.
  have quiet : s.startsConnect act = false → ∀ b, s.toSession.Aside b →
      Next (s.startsConnect act = true) s (s.setSession b) := by
    intro hno b hb
    exact (Next.aside h hb).of_not (by rw [hno]; exact fun h => by cases h)
  cases act with
  | mdtBuilder call mdt =>
    simp only [step, Outcome.bind_eq_done] at hd
    obtain ⟨-, -, hd⟩ := hd
    cases hd
    exact quiet rfl _ (.post rfl rfl _)
  -- The call itself only posts to thread W; whether the attempt starts is decided there, so what a
  -- started connect needs is already in `h`.
  | connect call attempt out' subClass =>
    simp only [step, connect, Outcome.bind_eq_done, Prod.exists] at hd
    obtain ⟨-, -, bl, s₁, h₁, hd⟩ := hd
    obtain ⟨b, hb, rfl⟩ := lift_done h₁
    split at hd
    · cases hd
    · rename_i bl
      simp only [Outcome.bind_eq_done] at hd
      obtain ⟨-, -, hd⟩ := hd
      cases hd
      obtain ⟨-, hbs⟩ := Session.takeBuilder_done hb
      have hside : s.toSession.Aside (b.post (.asyncConnect attempt subClass bl)) := by
        have htake : s.toSession.Aside b := by
          rw [hbs]
          exact .of_same rfl id rfl rfl rfl (Session.log_same rfl)
        exact htake.trans (.post rfl rfl _)
      have hw := h.aside hside
      exact ⟨⟨hw.errFunc, hw.pending, hw.worker, hw.ok, hw.null, fun hs ch hm hh =>
        ⟨(hw.connecting hs ch hm hh).noReq, (hw.connecting hs ch hm hh).handler,
          (hw.connecting hs ch hm hh).stage⟩⟩, .stays (fun h => by cases h) rfl hside.log⟩
  -- Thread U's side: a null builder ends the call at once, any other one posts it.
  | openChannel call =>
    simp only [step, Outcome.bind_eq_done] at hd
    obtain ⟨-, -, hd⟩ := hd
    obtain ⟨b, hb, rfl⟩ := liftUnit_done hd
    refine quiet rfl b ?_
    simp only [openChannel, Outcome.bind_eq_done, Prod.exists] at hb
    obtain ⟨bl, b₁, h₁, hb⟩ := hb
    obtain ⟨-, hbs⟩ := Session.takeBuilder_done h₁
    have hside : s.toSession.Aside b₁ := by
      rw [hbs]
      exact .of_same rfl id rfl rfl rfl (Session.log_same rfl)
    cases bl with
    | none =>
      cases hb
      exact hside.trans (.record rfl _)
    | some bl =>
      cases hb
      exact hside.trans (.post rfl rfl _)
  | sessionToken =>
    simp only [step, Outcome.bind_eq_done] at hd
    obtain ⟨-, -, hd⟩ := hd
    cases hd
    exact quiet rfl _ (.post rfl rfl _)
  | run o =>
    simp only [step, Outcome.bind_eq_done, Prod.exists] at hd
    obtain ⟨t, s₁, h₁, hd⟩ := hd
    obtain ⟨b, hb, rfl⟩ := lift_done h₁
    exact runTask_next hg h hst he hout hclean hb hd
  -- Thread W is inside sync_request(): only a session in PEER state makes that call.
  | syncReturn r mqOpen =>
    simp only [step] at hd
    split at hd
    · rename_i hw
      have hsync : s.w.inSync = true := by rw [hw]; rfl
      have hserv : s.w.isServing = true := by rw [hw]; rfl
      have hs : s.state = .peer := by
        -- Outside PEER state no sync_request() is under way.
        by_contra hn
        have hno := h.worker hn
        rw [hsync] at hno
        cases hno
      obtain ⟨b, hb, rfl⟩ := liftUnit_done hd
      have hsteady := (openChannelSyncReturn_updates (L := Mark.any) (fun _ _ => trivial) hserv
          hb).steady
      have hframe : s.toSession.Frame b := by
        rcases Session.openChannelSyncReturn_done hb with ⟨m, -, -, hrsp⟩ | ⟨-, hno⟩
        · have hidle : s.toSession.Frame (s.toSession.setW .idle) := .setW _
          exact hidle.trans (openChannelRsp_frame hrsp)
        · exact hno.frame
      exact (Next.peer h hs hframe hsteady).of_not (fun h => by cases h)
    · cases hd
  -- A vanilla session: no sub-class takes the completion over.
  | subClassSend r =>
    simp only [step, Outcome.bind_eq_done, Outcome.require_eq_done] at hd
    obtain ⟨-, ht, -⟩ := hd
    rw [hout.not_takenOver] at ht
    cases ht
  | complete e r =>
    simp only [step, Outcome.bind_eq_done, Outcome.require_eq_done, Bool.and_eq_true] at hd
    obtain ⟨-, ⟨ht, -⟩, -⟩ := hd
    rw [hout.not_takenOver] at ht
    cases ht
  | deliver m =>
    obtain ⟨b, hb, rfl⟩ := liftUnit_done hd
    exact quiet rfl b (.deliver hb)
  | channelError e =>
    obtain ⟨b, hb, rfl⟩ := liftUnit_done hd
    exact quiet rfl b (.channelError hb)
  | dtorStart =>
    obtain ⟨b, hb, rfl⟩ := liftUnit_done hd
    exact quiet rfl b (.dtorAct (Session.dtorStart_act hb))
  | dtorStep =>
    obtain ⟨b, hb, rfl⟩ := liftUnit_done hd
    exact quiet rfl b (.dtorAct (Session.dtorStep_act hb))
  | flushDone =>
    obtain ⟨b, hb, rfl⟩ := liftUnit_done hd
    exact quiet rfl b (.dtorAct (Session.dtorFlushDone_act hb))

/-! ### Exactly once -/

/-- What holds of a client without a sub-class, and of the notes of its attempts, against a server
    that conforms. -/
structure VanillaInv (cfg : Cfg) (passiveOpen : Bool) (s : Client) (n : ConnectNotes) : Prop where
  reaches : Machine.Reaches (step cfg) Machine.anyStep (Client.fresh passiveOpen) s
  out : OutInv False s n
  stage : StageInv s
  err : ErrInv cfg True False s
  waits : Waits s

namespace VanillaInv

variable {n : ConnectNotes} {act : Act}

/-- A client that has done nothing. -/
theorem fresh (cfg : Cfg) (passiveOpen : Bool) :
    VanillaInv cfg passiveOpen (Client.fresh passiveOpen) {} :=
  ⟨.refl, outInv_fresh passiveOpen, stageInv_fresh passiveOpen, errInv_fresh passiveOpen,
    .fresh passiveOpen⟩

/-- Under the invariant a step leaves an attempt that goes on, or has ended as it should. -/
theorem next (hg : cfg.gracefulFinishRequired = false) (h : VanillaInv cfg passiveOpen s n)
    (hd : step cfg s act = .done s') : Next (s.startsConnect act = true) s s' :=
  step_next hg h.waits h.stage h.err h.out (clean_of_reaches h.reaches) hd

/-- The invariant is kept by what a vanilla client does, with a server that conforms. -/
theorem step (hg : cfg.gracefulFinishRequired = false) (h : VanillaInv cfg passiveOpen s n)
    (hv : vanillaCall n act = true) (hk : serverConforms cfg s act = true)
    (hd : Client.step cfg s act = .done s') :
    VanillaInv cfg passiveOpen s' (takeConnectNotes cfg s act n) := by
  have hclean := clean_of_reaches h.reaches
  have hsub : act.subClassFails = false := by
    cases act with
    | subClassSend r =>
      simp only [Client.step, Outcome.bind_eq_done, Outcome.require_eq_done] at hd
      obtain ⟨-, ht, -⟩ := hd
      rw [h.out.not_takenOver] at ht
      cases ht
    | _ => rfl
  refine ⟨h.reaches.tail trivial hd, outInv_step h.out hclean hv (fun hf => hf.elim) hd, ?_,
    step_errInv h.err (fun _ => hsub) (fun hf => hf.elim) (fun hf => hf.elim) hd,
    (h.next hg hd).waits⟩
  refine stageInv_step h.stage hclean (announcesCountable_of_serverConforms hk)
    (fun call attempt out subClass ha _ cap hcap heq => ?_) hd
  subst ha
  simp only [vanillaCall, Bool.and_eq_true, decide_eq_true_eq] at hv
  obtain ⟨b, r, hcaptured⟩ := h.out.captured cap hcap
  exact hv.2 (heq ▸ List.mem_map.mpr ⟨_, hcaptured.call, rfl⟩)

end VanillaInv

/-- With which codes a step runs the completion handler: once at most, with success exactly where
    PEER state is entered, and with an error exactly where NULL state is; `starts` says that the
    step starts the attempt. -/
structure EndsRight (starts : Prop) (s s' : Client) (codes : List ErrorCode) : Prop where
  once : codes.length ≤ 1
  success : codes = [none] ↔ s'.state = .peer ∧ s.state ≠ .peer
  error : (∃ e, codes = [some e]) ↔ s'.state = .null ∧ (starts ∨ s.state = .connecting)

/-- The codes that a step adds are those of an attempt that ends in the right state. -/
theorem Went.endsRight (h : Went starts s s') :
    EndsRight starts s s' ((s'.log.drop s.log.length).filterMap Event.connectCode) := by
  -- The codes of the step are those of its new events.
  have codes : ∀ {l}, Codes s s' l → (s'.log.drop s.log.length).filterMap
      Event.connectCode = l := by
    rintro l ⟨es, hl, hes⟩
    rw [hl, List.drop_left, hes]
  cases h with
  | stays hn hs' hl =>
    rw [codes hl]
    refine ⟨Nat.zero_le 1, ⟨fun h => (by cases h), fun h => ?_⟩, ⟨fun h => ?_, fun h => ?_⟩⟩
    · exact absurd (hs'.symm.trans h.1) h.2
    · obtain ⟨e, he⟩ := h
      cases he
    · have hs := hs'.symm.trans h.1
      rcases h.2 with h | h
      · exact absurd h hn
      · rw [hs] at h
        cases h
  | begins hn hs' hl =>
    rw [codes hl]
    refine ⟨Nat.zero_le 1, ⟨fun h => (by cases h), fun h => ?_⟩, ⟨fun h => ?_, fun h => ?_⟩⟩
    · have hs := hs'.symm.trans h.1
      cases hs
    · obtain ⟨e, he⟩ := h
      cases he
    · have hs := hs'.symm.trans h.1
      cases hs
  | fails hn hs' e hl =>
    rw [codes hl]
    refine ⟨le_refl 1, ⟨fun h => (by cases h), fun h => ?_⟩,
      ⟨fun _ => ⟨hs', hn⟩, fun _ => ⟨e, rfl⟩⟩⟩
    have hs := hs'.symm.trans h.1
    cases hs
  | succeeds hn hs hs' hl =>
    rw [codes hl]
    refine ⟨le_refl 1, ⟨fun _ => ⟨hs', fun h => ?_⟩, fun _ => rfl⟩, ⟨fun h => ?_, fun h => ?_⟩⟩
    · rw [hs] at h
      cases h
    · obtain ⟨e, he⟩ := h
      cases he
    · have hs := hs'.symm.trans h.1
      cases hs

/-- What is promised of connect attempts. -/
structure CompletesOnce (cfg : Cfg) (s : Client) (n : ConnectNotes) : Prop where
  /-- No attempt ends twice. -/
  once : (n.ended.map Prod.fst).Nodup
  /-- The code goes with the state. -/
  ends : ∀ act s', step cfg s act = .done s' → EndsRight (s.startsConnect act = true) s s'
    ((s'.log.drop s.log.length).filterMap Event.connectCode)
  /-- No assertion fails in the handlers of the log-in response, of init-channels, of the channel's
      error. -/
  fine : ∀ o, s.queue.head?.any (fun t => t.isStage || t.isMasterChannelError) = true →
    serverConforms cfg s (.run o) = true → Safe (step cfg s (.run o))
  /-- An attempt is pending while CONNECTING. -/
  pending : s.connOnDoneFuncOrEmpty ≠ none ↔ s.state = .connecting
  /-- While one is, and thread W has nothing to do, the channel has not emitted its error, and a
      message of the server is to come. -/
  progress : s.state = .connecting → s.w = .idle → s.queue = [] →
    ∃ ch, s.masterChannel = some ch ∧ ch.hosed = false ∧
      (ch.expectsLogInRsp ≠ none ∨
        ∃ cap, ch.openReqHandler = some (.initOpenChannel cap) ∧ s.awaitsMore cap = true)

/-- Where thread W has nothing to do, the error of a hosed channel has been reported. -/
theorem VanillaInv.not_hosed {n : ConnectNotes} (h : VanillaInv cfg passiveOpen s n)
    (hs : s.state = .connecting) (hq : s.queue = []) {ch : MasterChannel}
    (hm : s.masterChannel = some ch) : ch.hosed = false := by
  by_contra hh
  have hes : s.errorState = some (ch.id, true) := by
    rw [Session.errorState, hm, Option.map_some, eq_true_of_ne_false hh]
  rcases h.err.connecting trivial hs ch.id hes with ⟨e, hp⟩ | hp
  · rw [hq] at hp
    cases hp
  · rw [h.waits.ok (by rw [hs]; exact fun hn => (by cases hn))] at hp
    cases hp

/-- No task of an attempt fails an assertion. -/
theorem VanillaInv.safe {n : ConnectNotes} (hg : cfg.gracefulFinishRequired = false)
    (h : VanillaInv cfg passiveOpen s n)
    (ht : s.queue.head?.any (fun t => t.isStage || t.isMasterChannelError) = true)
    (hk : serverConforms cfg s (.run o) = true) : Safe (Client.step cfg s (.run o)) := by
  simp only [Client.step, Outcome.failsOnly_bind]
  refine ⟨lift_safe Session.takeTask_safe, fun r hr => ?_⟩
  obtain ⟨t, s₁⟩ := r
  obtain ⟨b, hb, rfl⟩ := lift_done hr
  obtain ⟨-, hq, hbs⟩ := Session.takeTask_done hb
  have hmem : t ∈ s.queue := by rw [hq]; exact List.mem_cons_self
  have hsub : subClassConforms cfg s (.run o) = true := by simp [subClassConforms, hg]
  rw [hq, List.head?_cons, Option.any_some, Bool.or_eq_true] at ht
  rcases ht with ht | ht
  · exact stage_safe h.stage hk hsub hb ht
  · cases t with
    | masterChannelError chan e =>
      show Safe ((s.setSession b).onMasterChannelError cfg chan e)
      have hp := h.stage.placed.of_tame (.takeTask hb)
      have hmb : b.masterChannel = s.masterChannel := by rw [hbs]
      cases hs : s.state with
      | connecting => exact onMasterChannelError_safe hp hs
      | null =>
        have hnone : s.masterChannel = none := by
          cases hm : s.masterChannel with
          | none => rfl
          | some ch =>
            have hno := (h.waits.null hs ch hm).2 _ hmem
            cases hno
        have hnone : (s.setSession b).masterChannel = none := hmb.trans hnone
        -- The channel is gone already, and the observer with it.
        have hne : (s.setSession b).masterChannel.map MasterChannel.id ≠ some chan := by
          rw [hnone]
          exact fun heq => (by cases heq)
        rw [onMasterChannelError, if_pos hne]
        exact (fun _ h => by cases h)
      | peer =>
        have herr : b.onErrFuncSet = true := by
          rw [hbs]
          exact h.waits.errFunc
        simp only [onMasterChannelError, setSession_state, hs]
        split
        · simp
        · exact liftUnit_safe (Session.onMasterChannelErrorPeer_safe herr fun hreq => by
            rw [hg] at hreq
            cases hreq)
    | _ => cases ht

/-- The invariant says all that is claimed of the attempts. -/
theorem VanillaInv.completesOnce {n : ConnectNotes} (hg : cfg.gracefulFinishRequired = false)
    (h : VanillaInv cfg passiveOpen s n) : CompletesOnce cfg s n where
  once := h.out.once
  ends := fun _ _ hd => (h.next hg hd).went.endsRight
  fine := fun _ ht hk => h.safe hg ht hk
  pending := by
    refine ⟨h.waits.pending, fun hs => ?_⟩
    exact Option.isSome_iff_ne_none.mp (h.stage.placed.connecting hs).1
  progress := fun hs _ hq => by
    obtain ⟨ch, hm⟩ := Option.isSome_iff_exists.mp (h.stage.placed.connecting hs).2
    have hh := h.not_hosed hs hq hm
    refine ⟨ch, hm, hh, (h.waits.connecting hs ch hm hh).stage.imp (fun hl => ?_) id⟩
    have hl : 0 < (ch.expectsLogInRsp.isSome).toNat := by
      simpa only [Session.logIns, hq, hm, List.countP_nil, Nat.zero_add, Option.any_some] using hl
    intro hnone
    rw [hnone] at hl
    cases hl

/-- **Each connect attempt of a client without a sub-class completes exactly once**, against a
    server that conforms, whatever the channel does. -/
theorem completesOnce_of_reaches (hg : cfg.gracefulFinishRequired = false)
    {p : Client × ConnectNotes}
    (hr : Machine.Reaches (Machine.observed (takeConnectNotes cfg) (step cfg))
      (fun p act => vanillaCall p.2 act = true ∧ serverConforms cfg p.1 act = true)
      (fresh passiveOpen, {}) p) : CompletesOnce cfg p.1 p.2 := by
  have hinv : VanillaInv cfg passiveOpen p.1 p.2 := by
    refine hr.invariant (P := fun p => VanillaInv cfg passiveOpen p.1 p.2) (.fresh cfg passiveOpen)
      fun p act p' hp hv hd => ?_
    obtain ⟨hstep, hnote⟩ := Machine.observed_done hd
    rw [hnote]
    exact hp.step hg hv.1 hv.2 hstep
  exact hinv.completesOnce hg

/-- The channel has found its error before the last init-channel could be acknowledged. -/
theorem completesOnce_of_reaches_ackRefused : ∃ p,
    Machine.Reaches (Machine.observed (takeConnectNotes .sample) (step .sample))
      (fun p act => vanillaCall p.2 act = true ∧ serverConforms .sample p.1 act = true)
      (fresh true, {}) p ∧
    p.2.ended = [(0, some (.other 32))] ∧ p.1.state = .null ∧ CompletesOnce .sample p.1 p.2 := by
  obtain ⟨p, hr, hp⟩ := Machine.Reaches.exists_of_run
    (Machine.guarded (fun p act => vanillaCall p.2 act && serverConforms .sample p.1 act)
      (Machine.observed (takeConnectNotes .sample) (step .sample))) (fresh true, {})
    (connectPrefix ⟨none, some [none], some none⟩ ⟨1, 1, ['1'], [5], 1⟩ ++
      [.deliver ⟨1, none, some ⟨0, true⟩, .openChannelToClientReq [] [] []⟩,
        .run { send := .refused (.other 32) }, .run {}])
    (fun p => decide (p.2.ended = [(0, some (.other 32))] ∧ p.1.state = .null)) (by decide)
  have hr := hr.of_guarded.mono fun p act hg => Bool.and_eq_true_iff.mp hg
  exact ⟨p, hr, (of_decide_eq_true hp).1, (of_decide_eq_true hp).2, completesOnce_of_reaches rfl hr⟩

end Client

end IpcSession
