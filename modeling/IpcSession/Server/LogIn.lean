import IpcSession.Base.Traced
import IpcSession.Server.Errors

namespace IpcSession

/-!
# The log-in completes once

`Server.LogInOnce` — the handler of `async_accept_log_in()` has run once when it is no longer set,
and by the time the destructor returns; the session is accepted if and only if it has run without an
error; where it has run with one, other than out of the destructor, the channel is gone.
-/

/-- Code that completes no log-in. -/
theorem Session.Traced.logIns {s s' : Session} (h : Session.Traced s s') :
    s'.log.filter Event.isLogInDone = s.log.filter Event.isLogInDone := by
  refine h.filter fun e he => ?_
  cases e with
  | logInDone => rfl
  | _ => cases he

namespace Server

variable {F : Prop} {cfg : Cfg} {s s' : Server}

/-- The handler of the log-in runs once. -/
structure LogInOnce (s : Server) : Prop where
  halts : s.Halts
  done : (s.log.filter Event.isLogInDone).length =
    if s.dtor = .returned then 1 else (!s.logInOnDoneFuncSet).toNat
  failure : ∀ e site out, Event.logInDone (some e) site out ∈ s.log.filter Event.isLogInDone →
    (site = .destructor ∧ e = .objectShutdownAbortedCompletionHandler ∧ s.dtor = .returned) ∨
      (site ≠ .destructor ∧ s.logInOnDoneFuncSet = false ∧ s.accepted = false)
  result : ∀ e site out, Event.logInDone e site out ∈ s.log.filter Event.isLogInDone →
    s.accepted = e.isNone
  noChannel : s.masterChannel = none → s.queue.countP Task.isAcceptLogIn = 1 ∨
    ∃ e site out, site ≠ .destructor ∧
      Event.logInDone (some e) site out ∈ s.log.filter Event.isLogInDone

/-- The log-in has not ended. -/
theorem logInOnce_fresh (srvNamespace : SharedName) (out : OutArgs) :
    LogInOnce (fresh srvNamespace out) where
  halts := nofun
  done := rfl
  failure := fun e site out h => by cases h
  result := fun e site out h => by cases h
  noChannel := fun _ => .inl rfl

/-- The handler does not run. -/
theorem LogInOnce.keep (h : LogInOnce s)
    (hlog : s'.log.filter Event.isLogInDone = s.log.filter Event.isLogInDone)
    (hl : SameLogIn s s') (hd : s'.dtor = .returned ↔ s.dtor = .returned) (hh : s'.Halts)
    (hm : s'.masterChannel = none → s.masterChannel = none ∧
      s'.queue.countP Task.isAcceptLogIn = s.queue.countP Task.isAcceptLogIn) : LogInOnce s' where
  halts := hh
  done := by
    rw [hlog, hl.logInOnDoneFuncSet, h.done]
    simp only [hd]
  failure := by
    rw [hlog, hl.logInOnDoneFuncSet, hl.accepted, hd]
    exact h.failure
  result := by
    rw [hlog, hl.accepted]
    exact h.result
  noChannel := fun hn => by
    rw [hlog, (hm hn).2]
    exact h.noChannel (hm hn).1

/-- The handler runs, before the destructor has come to it. -/
theorem LogInOnce.complete (h : LogInOnce s) (hset : s.logInOnDoneFuncSet = true)
    (e : ErrorCode) (site : LogInSite) (out : OutArgs)
    (hlog : s'.log.filter Event.isLogInDone =
      s.log.filter Event.isLogInDone ++ [.logInDone e site out])
    (hset' : s'.logInOnDoneFuncSet = false) (hacc : s'.accepted = e.isNone)
    (hsite : e.isSome = true → site ≠ .destructor) (hd : s.dtor ≠ .returned)
    (hd' : s'.dtor ≠ .returned)
    (hh : s'.Halts) (hm : s'.masterChannel = none → e.isSome = true) : LogInOnce s' where
  halts := hh
  done := by
    have h₁ := h.done
    simp only [hd, if_false, hset, Bool.not_true, Bool.toNat_false] at h₁
    rw [hlog, List.length_append, h₁, if_neg hd', hset']
    rfl
  failure := fun e' site' out' hmem => by
    rw [hlog] at hmem
    rcases List.mem_append.mp hmem with hmem | hmem
    · rcases h.failure e' site' out' hmem with ⟨-, -, hr⟩ | ⟨-, hn, -⟩
      · exact absurd hr hd
      · rw [hset] at hn
        cases hn
    · cases List.mem_singleton.mp hmem
      exact .inr ⟨hsite rfl, hset', hacc⟩
  result := fun e' site' out' hmem => by
    have hnone := h.done
    simp only [hd, if_false, hset, Bool.not_true, Bool.toNat_false] at hnone
    rw [hlog, List.eq_nil_of_length_eq_zero hnone, List.nil_append] at hmem
    cases List.mem_singleton.mp hmem
    exact hacc
  noChannel := fun hn => by
    obtain ⟨e', rfl⟩ := Option.isSome_iff_exists.mp (hm hn)
    exact .inr ⟨e', site, out, hsite rfl, by rw [hlog]; simp⟩

/-- Session code that the log-in does not notice. -/
theorem LogInOnce.inPlace (h : LogInOnce s) {b : Session}
    (hlog : b.log.filter Event.isLogInDone = s.log.filter Event.isLogInDone)
    (hd : b.dtor = s.dtor) (hw : b.w = s.w) (hm : b.masterChannel = s.masterChannel)
    (hq : b.queue.countP Task.isAcceptLogIn = s.queue.countP Task.isAcceptLogIn) :
    LogInOnce (s.setSession b) := by
  refine h.keep hlog (.setSession b) (by rw [setSession_toSession, hd]) ?_ fun hn => ⟨?_, hq⟩
  · intro hd'
    rw [setSession_toSession, hd] at hd'
    rw [setSession_toSession, hw]
    exact h.halts hd'
  · exact hm ▸ hn

/-- Session code does not end it. -/
theorem LogInOnce.of_did (h : LogInOnce s) (hd : s.toSession.Did F s'.toSession)
    (hl : SameLogIn s s') : LogInOnce s' := by
  refine h.keep hd.traced.logIns hl (hd.returned_iff h.halts) (hd.halts h.halts) fun hn => ⟨?_, ?_⟩
  · have hm := hd.channel_isSome
    rw [hn] at hm
    simpa using hm.symm
  · exact countP_did hd _ isAcceptLogIn_not_calm

/-- A thread W that runs has not been stopped. -/
theorem LogInOnce.not_returned (h : LogInOnce s) (hw : s.w ≠ .stopped) : s.dtor ≠ .returned := by
  intro hd
  exact hw (h.halts (by rw [hd]; rfl))

/-- What is done for the log-in ends it at most once. -/
theorem LogInOnce.logInDid (h : LogInOnce s) (hm : s.masterChannel.isSome = true)
    (hw : s.w ≠ .stopped) (hd : LogInDid s s') : LogInOnce s' := by
  have hr := h.not_returned hw
  cases hd with
  | goesOn hd hl => exact h.of_did hd hl
  | @succeeded s₁ hq hl hw₁ hset site out =>
    have h₁ : LogInOnce s₁ := h.of_did (F := False) (.quiet hq) hl
    refine h.complete hset none site out ?_ rfl rfl nofun hr ?_ h₁.halts
      fun hn => ?_
    · have hlog := (Session.Quiet.traced hq).logIns
      simp [← hlog, Event.isLogInDone]
    · exact mt (hq.returned_iff h.halts).mp hr
    · have hn : s₁.masterChannel = none := hn
      have hs := hq.channel_isSome
      rw [hm, hn] at hs
      cases hs
  | @failed s₁ hq hl hw₁ hset b hb e site hsite =>
    have h₁ : LogInOnce s₁ := h.of_did (F := False) (.quiet hq) hl
    have hlog := (Session.Quiet.traced hq).logIns
    have hr₁ : s₁.dtor ≠ .returned := mt (hq.returned_iff h.halts).mp hr
    have hne : (some e).isSome = true → site ≠ .destructor := by
      rintro - rfl
      cases hsite
    rcases hb with rfl | ⟨ch, e', -, -, rfl⟩
    · refine h.complete hset (some e) site s₁.out ?_ rfl rfl hne hr hr₁
        h₁.halts fun _ => rfl
      simp [← hlog, Event.isLogInDone]
    · refine h.complete hset (some e) site s₁.out ?_ rfl rfl hne hr hr₁
        h₁.halts fun _ => rfl
      simp [← hlog, Event.isLogInDone]

/-- Thread W takes a task. -/
theorem LogInOnce.takeTask {t : Task} {b : Session} (h : LogInOnce s)
    (ht : s.takeTask = .done (t, b)) (hne : t.isAcceptLogIn = false) :
    LogInOnce (s.setSession b) := by
  obtain ⟨-, hq, hb⟩ := Session.takeTask_done ht
  refine h.keep (by rw [setSession_toSession, hb]) (.setSession b)
    (by rw [setSession_toSession, hb]) ?_ fun hn => ⟨?_, ?_⟩
  · intro hd
    have hd : b.dtor.halted = true := hd
    rw [hb] at hd
    rw [setSession_toSession, hb]
    exact h.halts hd
  · rw [setSession_toSession, hb] at hn
    exact hn
  · rw [hq, List.countP_cons, hne]
    rfl

/-- Its start ends it at most once. -/
theorem LogInOnce.acceptResult {b : Session} (h : LogInOnce s) (hp : Phases cfg s)
    (ht : s.takeTask = .done (.acceptLogIn, b)) (hd : AcceptResult (s.setSession b) s') :
    LogInOnce s' := by
  obtain ⟨hw, hq, hb⟩ := Session.takeTask_done ht
  have hr := h.not_returned (by simp [hw])
  obtain ⟨h₁, hacc, hm, hset⟩ := hp.atAccept ht
  have hmb : b.masterChannel = none := by rw [hb]; exact hm
  have hlb : b.log = s.log := by rw [hb]
  have hrb : b.dtor ≠ .returned := by rw [hb]; exact hr
  have hhb : b.Halts := by
    intro hd'
    rw [hb] at hd' ⊢
    exact h.halts hd'
  cases hd with
  | failed hset' e =>
    refine h.complete hset (some e) .accept s.out ?_ rfl rfl
      (fun _ => nofun) hr hrb hhb fun _ => rfl
    simp [hlb, Event.isLogInDone]
  | @started hm' s₁ _ hs₁ hl hdid hl' =>
    refine LogInOnce.of_did (s := s₁) ?_ hdid hl'
    refine h.keep ?_ ((SameLogIn.setSession b).trans hl) ?_ ?_ fun hn => ?_
    · rw [hs₁]
      simp [hlb]
    · rw [hs₁, Session.setChannel_dtor, setSession_toSession, hb]
    · rw [hs₁]
      exact hhb
    · rw [hs₁] at hn
      cases hn

/-- So does the report of the error. -/
theorem LogInOnce.errorResult {chan : Nat} {e : Err} {b : Session} (h : LogInOnce s)
    (ht : s.takeTask = .done (.masterChannelError chan e, b))
    (hd : ErrorResult cfg (s.setSession b) e s') : LogInOnce s' := by
  obtain ⟨hw, -, hb⟩ := Session.takeTask_done ht
  have h₁ := h.takeTask ht rfl
  have hr : b.dtor ≠ .returned := h₁.not_returned (by
    rw [setSession_toSession, hb, hw]
    exact nofun)
  cases hd with
  | dropped hm => exact h₁
  | logInFailed hm hset =>
    refine h₁.complete hset (some e) .masterChannelError s.out ?_ rfl rfl
      (fun _ => nofun) hr hr h₁.halts fun _ => rfl
    simp [Event.isLogInDone]
  | cached hm hset ho hpre => exact ⟨h₁.halts, h₁.done, h₁.failure, h₁.result, h₁.noChannel⟩
  | @inPeer hm ho b₁ b' h₂ h₃ =>
    rcases h₂ with ⟨-, rfl⟩ | ⟨-, rfl⟩ <;> rcases h₃ with ⟨-, -, rfl⟩ | ⟨-, rfl⟩
    · exact h₁.inPlace rfl rfl rfl rfl rfl
    · exact h₁.inPlace rfl rfl rfl rfl rfl
    · exact h₁.inPlace (by simp [Event.isLogInDone]) rfl rfl rfl rfl
    · exact h₁.inPlace (by simp [Event.isLogInDone]) rfl rfl rfl rfl

/-- The peer's `GracefulSessionEnd` comes after its end. -/
theorem LogInOnce.gracefulSessionEnd {b : Session} (h : LogInOnce s)
    (hd : s.onGracefulSessionEnd = .done b) : LogInOnce (s.setSession b) := by
  obtain ⟨-, -, ⟨-, rfl⟩ | ⟨-, rfl⟩⟩ := Session.onGracefulSessionEnd_done hd
  · exact h.inPlace rfl rfl rfl rfl rfl
  · exact h.inPlace (by simp [Event.isLogInDone]) rfl rfl rfl rfl

/-- So does the error from before `init_handlers()`. -/
theorem LogInOnce.preInitError (h : LogInOnce s) (hd : s.preInitError = .done s') :
    LogInOnce s' := by
  simp only [Server.preInitError] at hd
  split at hd
  · obtain ⟨b, hb, rfl⟩ := liftUnit_done hd
    obtain ⟨-, ⟨-, rfl⟩ | ⟨-, rfl⟩⟩ := Session.hoseIfNot_done hb
    · exact h
    · exact h.inPlace (by simp [Event.isLogInDone]) rfl rfl rfl rfl
  · cases hd

/-- So does `init_handlers()` itself. -/
theorem LogInOnce.initHandlersResult {passiveOpen : Bool} (h : LogInOnce s)
    (hd : InitHandlersResult cfg s passiveOpen s') : LogInOnce s' := by
  have h₁ : LogInOnce (s.setHandlers passiveOpen) :=
    ⟨h.halts, h.done, h.failure, h.result, h.noChannel⟩
  cases hd with
  | again ho => exact h.inPlace (by simp [Event.isLogInDone]) rfl rfl rfl rfl
  | cached ho hpre hp =>
    refine h₁.inPlace ?_ rfl rfl rfl ?_
    · simp [post, Event.isLogInDone]
    · simp [post, Task.isAcceptLogIn]
  | @plain ho hpre b₁ b₂ hdid h₂ =>
    have h₃ : LogInOnce ((s.setHandlers passiveOpen).setSession b₁) :=
      h₁.of_did hdid (.setSession _)
    have hrec : b₂.Quiet (b₂.record (.initHandlersReturned true)) := .record rfl
    have h₄ : LogInOnce ((s.setHandlers passiveOpen).setSession b₂) := by
      rcases h₂ with ⟨-, ch, hm, hr⟩ | ⟨-, rfl⟩
      · have hf : LogInOnce ((s.setHandlers passiveOpen).setSession (b₁.setFinisher false)) :=
          h₃.inPlace (b := b₁.setFinisher false) rfl rfl rfl rfl rfl
        exact hf.of_did (F := False) (hr.did hm) (.setSession _)
      · exact h₃
    exact h₄.of_did (F := False) (.quiet hrec) (.setSession _)

/-- **The handler of the log-in runs once**, at every step. -/
theorem LogInOnce.step (h : LogInOnce s) (hp : Phases cfg s) (hd : StepResult cfg F s s') :
    LogInOnce s' := by
  cases hd with
  | common hd hl => exact h.of_did hd hl
  | wantsPeer ha passiveOpen =>
    exact h.inPlace rfl rfl rfl rfl (by simp [Task.isAcceptLogIn])
  | initChannels hw hd =>
    refine h.logInDid (hp.sync hw) ?_ hd
    intro hst
    rw [hst] at hw
    cases hw
  | returned hdt hs' hl =>
    -- the destructor returns: if nobody else has run the handler, it has
    have hst : s.w = .stopped := h.halts (by rw [hdt]; rfl)
    have hdone := h.done
    rw [if_neg (by rw [hdt]; exact (by rintro ⟨⟩))] at hdone
    cases hset : s.logInOnDoneFuncSet with
    | false =>
      simp only [hset, Bool.false_eq_true, if_false] at hs'
      refine ⟨?_, ?_, ?_, ?_, ?_⟩
      · rw [hs']
        exact fun _ => hst
      · rw [hs', Session.setDtor_dtor, if_pos rfl]
        simpa [hset] using hdone
      · rw [hs', hl.logInOnDoneFuncSet, hl.accepted]
        intro e site out hm
        rcases h.failure e site out hm with ⟨h₁, h₂, -⟩ | h₁
        · exact .inl ⟨h₁, h₂, rfl⟩
        · exact .inr h₁
      · rw [hs', hl.accepted]
        exact h.result
      · rw [hs']
        exact h.noChannel
    | true =>
      simp only [hset, if_true] at hs'
      have hlog : s'.log.filter Event.isLogInDone = s.log.filter Event.isLogInDone ++
          [.logInDone (some .objectShutdownAbortedCompletionHandler) .destructor s.out] := by
        rw [hs']
        simp [record, Event.isLogInDone]
      refine ⟨?_, ?_, fun e site out hm => ?_, fun e site out hm => ?_, fun hn => ?_⟩
      · rw [hs']
        exact fun _ => hst
      · rw [hlog, hs', Session.setDtor_dtor, if_pos rfl, List.length_append, hdone, hset]
        rfl
      · rw [hlog] at hm
        rw [hs']
        rcases List.mem_append.mp hm with hm | hm
        · rcases h.failure e site out hm with ⟨h₁, h₂, -⟩ | ⟨-, h₁, -⟩
          · exact .inl ⟨h₁, h₂, rfl⟩
          · rw [hset] at h₁
            cases h₁
        · cases List.mem_singleton.mp hm
          exact .inl ⟨rfl, rfl, rfl⟩
      · rw [hset] at hdone
        rw [hlog, List.eq_nil_of_length_eq_zero hdone, List.nil_append] at hm
        cases List.mem_singleton.mp hm
        rw [hl.accepted]
        exact (hp.logIn hset).2.2
      · rw [hs'] at hn
        rw [hlog, hs']
        rcases h.noChannel hn with h₁ | ⟨e, site, out, h₁, h₂⟩
        · exact .inl h₁
        · exact .inr ⟨e, site, out, h₁, List.mem_append_left _ h₂⟩
  | @task t b _ ht hr =>
    cases hr with
    | plain hplain hdid hl =>
      have hne : t.isAcceptLogIn = false := by cases t <;> first | rfl | cases hplain
      exact (h.takeTask ht hne).of_did hdid hl
    | logInReq hm hd =>
      obtain ⟨hw, -, hb⟩ := Session.takeTask_done ht
      refine (h.takeTask ht rfl).logInDid hm ?_ hd
      rw [setSession_toSession, hb, hw]
      exact (by rintro ⟨⟩)
    | acceptLogIn hd => exact h.acceptResult hp ht hd
    | masterChannelError hd => exact h.errorResult ht (onMasterChannelError_done hd)
    | gracefulSessionEnd hd => exact (h.takeTask ht rfl).gracefulSessionEnd hd
    | initHandlers hd => exact (h.takeTask ht rfl).initHandlersResult (initHandlers_done hd)
    | preInitError hd => exact (h.takeTask ht rfl).preInitError hd

end Server

end IpcSession
