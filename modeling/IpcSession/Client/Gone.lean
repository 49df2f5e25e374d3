import IpcSession.Base.Grounded
import IpcSession.Base.Own
import IpcSession.Client.Seated
import IpcSession.Client.StageSafety

namespace IpcSession

/-!
# Tasks of a master channel that is gone

* `Client.Owns` — what waits for thread W of the server's messages is of the channel at hand.
* `Client.dropsMessages` — the step in which a sub-class drops the channel while a message of the
  server waits.
* `Client.leavesGoneAlone_of_reaches` — in every run without such a step, **what the handlers of a
  channel have posted does nothing once the channel is gone**, and the channel is never used while
  null.
* `Client.not_leavesGoneAlone_toNull` — such a step leaves a request behind, whose handler then uses
  the channel.
-/

/-- The channel whose handler has posted the task. -/
def Task.postedBy : Task → Option Nat
  | masterChannelError chan _ => some chan
  | logInRsp chan _ _ => some chan
  | initOpenChannel chan _ _ => some chan
  | openChannelReq chan _ => some chan
  | _ => none

/-- The channel has a request for an open channel for which there is no handler yet. -/
def Session.cachesRequest (s : Session) : Bool :=
  s.masterChannel.any fun ch => ch.cached.any fun m => ch.answers m.body

namespace Client

variable {cfg : Cfg} {s s' t : Client} {o : ClientOracle} {L : Mark → Prop} {f : OnDone} {a : Act}
  {passiveOpen : Bool}

/-! ### Whose message it is -/

/-- What waits for thread W is of the channel at hand. -/
abbrev Owns (s : Client) : Prop := s.toSession.Own s.nextChan

/-- There is no channel yet to own anything. -/
theorem owns_fresh (passiveOpen : Bool) : Owns (fresh passiveOpen) where
  message := fun _ ht => by cases ht
  error := fun _ ht => by cases ht
  channel := fun _ hc => by cases hc
  quiet := fun _ _ ht => by cases ht
  last := .nil
  logIn := fun hn => by cases hn
  once := Nat.zero_le 1

/-- What a session owns does not depend on the rest of it. -/
theorem Owns.alike (h : Owns s) (ha : Alike s t) : Owns t := by
  show t.toSession.Own t.nextChan
  rw [ha.nextChan]
  exact h.of_same ha.queue ha.channel

/-- A session without messages to run can be given up. -/
theorem Owns.givenUp (h : Owns s) (hq : ∀ t ∈ s.queue, t.messageOf = none) (f : OnDone) (e : Err) :
    Owns (s.givenUp f e) :=
  (h.dropChannel hq).of_same rfl rfl

/-- A connect succeeds, or is kept from PEER state with no message to run. -/
theorem SuccessResult.owns {c : Bool} (h : Owns s) (hr : SuccessResult s f c s')
    (hq : c = true → ∀ t ∈ s.queue, t.messageOf = none) : Owns s' := by
  cases hr with
  | reported => exact h.of_same rfl rfl
  | dropped => exact (h.dropChannel (hq rfl)).of_same rfl rfl
  | takenOver => exact h.of_same rfl rfl

/-- A call on the new channel is refused, and leaves no message. -/
theorem Refused.own {n : Nat} {x b : Session} {ch : MasterChannel} (h : x.Own n)
    (hm : x.masterChannel = some ch) (hr : Refused x ch b) : b.Own n := by
  cases hr with
  | old => exact h
  | new hh e => exact h.emitError hm

/-- An attempt starts on a channel that nothing has come in on. -/
theorem AsyncConnectResult.owns {attempt : Nat} {subClass : Bool} {b : Builder} (h : Owns s)
    (hr : AsyncConnectResult cfg attempt subClass b o s s') : Owns s' := by
  cases hr with
  | ignored hs => exact h.of_same rfl rfl
  | cnsFailed hs e hc => exact h.of_same rfl rfl
  | sockFailed hs pid hc hn hf e hsock => exact h.of_same rfl rfl
  -- The channel is dropped again: it was new, so no task names it.
  | sendFailed hs pid hc hn hf hm t ht ch hch e hsend =>
    subst ht
    have hmade := h.makeChannel hm false
    have hq : ∀ u ∈ s.queue, u.messageOf = none := fun u => h.no_message hm
    exact (hmade.dropChannel hq).of_same rfl rfl
  -- It stays, with its error as its last and only task.
  | refused hs pid hc hn hf hm t ht ch hch e hsend =>
    subst ht
    cases hch
    have hmade := h.makeChannel hm false
    exact (hmade.emitError (e := e) rfl).of_same rfl rfl
  | sent hs pid hc hn hf hm t ht ch hch hsend =>
    subst ht
    cases hch
    have hmade := h.makeChannel hm false
    -- No response of an earlier attempt is left: it would name a channel that is gone.
    have hlog : s.logIns = 0 := by
      by_contra hpos
      have hmem : ∃ t ∈ s.queue, t.isLogInRsp = true := by
        simp only [Session.logIns, hm, Option.any_none, Bool.toNat_false, Nat.add_zero] at hpos
        exact List.countP_pos_iff.mp (Nat.pos_of_ne_zero hpos)
      obtain ⟨t, ht, hrsp⟩ := hmem
      have hnone := h.no_message hm ht
      cases t with
      | logInRsp => cases hnone
      | _ => cases hrsp
    exact {
      message := fun t ht c hc => hmade.message t ht c hc
      error := hmade.error
      channel := hmade.channel
      quiet := hmade.quiet
      last := hmade.last
      logIn := fun _ => by
        refine ⟨rfl, fun t ht => ?_⟩
        by_contra hreq
        obtain ⟨c, hc⟩ := Task.messageOf_of_isOpenReq (eq_true_of_ne_false hreq)
        have hnone := h.no_message hm ht
        rw [hc] at hnone
        cases hnone
      once := by
        have hcount : s.queue.countP Task.isLogInRsp = 0 := by
          simpa only [Session.logIns, hm, Option.any_none, Bool.toNat_false, Nat.add_zero]
            using hlog
        show s.queue.countP Task.isLogInRsp + 1 ≤ 1
        rw [hcount] }

/-- No message waits where neither the log-in response nor a request does. -/
theorem no_message_of {q : List Task} (hl : q.countP Task.isLogInRsp = 0)
    (hr : ∀ t ∈ q, t.isOpenReq = false) : ∀ t ∈ q, t.messageOf = none := by
  intro t ht
  cases hc : t.messageOf with
  | none => rfl
  | some c =>
    rcases Task.isLogInRsp_or_isOpenReq hc with h | h
    · exact absurd h (List.countP_eq_zero.mp hl t ht)
    · rw [hr t ht] at h
      cases h

/-- Thread W has taken the log-in response: no other message waits. -/
theorem taken_logInRsp {n chan attempt : Nat} {x b : Session} {m : Msg} (h : x.Own n)
    (ht : x.takeTask = .done (.logInRsp chan m attempt, b)) :
    b.logIns = 0 ∧ ∀ t ∈ b.queue, t.isOpenReq = false := by
  obtain ⟨-, hq, hb⟩ := Session.takeTask_done ht
  have hm : b.masterChannel = x.masterChannel := by rw [hb]
  have hle : x.logIns = b.logIns + 1 := by
    simp only [Session.logIns, hq, hm, List.countP_cons, Task.isLogInRsp, if_true]
    omega
  have honce := h.once
  refine ⟨by omega, fun t ht => (h.logIn (by omega)).2 t ?_⟩
  rw [hq]
  exact List.mem_cons_of_mem _ ht

/-- Without a log-in response to come, none is queued. -/
theorem countP_of_logIns {b : Session} (h : b.logIns = 0) : b.queue.countP Task.isLogInRsp = 0 :=
  Nat.eq_zero_of_add_eq_zero_right h

/-- What is flushed, where nothing is cached for the handler. -/
theorem no_message_flushTo {ch : MasterChannel} {k : OpenReqHandler} {b : Session}
    (hq : ∀ t ∈ b.queue, t.messageOf = none)
    (hc : ch.cached.any (fun m => ch.answers m.body) = false) :
    ∀ t ∈ (b.flushTo ch k).queue, t.messageOf = none := by
  intro t ht
  rw [Session.flushTo_queue, List.mem_append, List.mem_map] at ht
  rcases ht with ht | ⟨m, hm, -⟩
  · exact hq t ht
  · obtain ⟨hmem, hans⟩ := List.mem_filter.mp hm
    exact absurd hans (List.any_eq_false.mp hc m hmem)

/-- What the channel keeps is no request for a channel. -/
theorem cached_of_not_cachesRequest {x : Session} {ch : MasterChannel} (h : x.cachesRequest = false)
    (hm : x.masterChannel = some ch) : ch.cached.any (fun m => ch.answers m.body) = false := by
  simpa only [Session.cachesRequest, hm, Option.any_some] using h

/-- The log-in response may give the channel up only if no other message is to be run. -/
theorem LogInRspResult.owns {m : Msg} {attempt : Nat} (h : Owns s) (hl : s.logIns = 0)
    (hq : ∀ t ∈ s.queue, t.isOpenReq = false) (hr : LogInRspResult cfg m attempt o s s')
    (hdrop : ∀ r, m.body = .logInRsp r → accepts cfg s (s.out attempt) r = true →
      asksNone (s.out attempt) r = true → o.expect = .ok → s.dropsChannel o.hook = true →
        s.cachesRequest = false) : Owns s' := by
  have hnone := no_message_of (countP_of_logIns hl) hq
  have same : ∀ {t : Client}, Alike s t → t.logIns = 0 ∧ ∀ u ∈ t.queue, u.messageOf = none := by
    intro t ha
    refine ⟨?_, ?_⟩
    · simp only [Session.logIns, ha.queue, ha.channel]
      exact hl
    · rw [ha.queue]
      exact hnone
  cases hr with
  | rejected ha hf e => exact Owns.givenUp (h.alike ha) (same ha).2 _ e
  | @refused t ha ch hm b hb =>
    have ht : Owns t := Owns.alike h ha
    exact hb.own ht (ha.channel.trans hm)
  | @expects t ha ch hm hh cap =>
    exact (Owns.alike h ha).flushTo (ha.channel.trans hm) hh (same ha).1
  | @succeeds t ha ch hm hh r hb hacc hn ho f hf s' hs' =>
    have hflush : Owns (t.setSession (t.flushTo ch .openChannelReq)) :=
      (Owns.alike h ha).flushTo (ha.channel.trans hm) hh (same ha).1
    exact hs'.owns hflush fun hd =>
      no_message_flushTo (same ha).2 (cached_of_not_cachesRequest (hdrop r hb hacc hn ho hd) hm)

/-- The handlers are swapped. -/
theorem swapHandlers_own {n : Nat} {ch : MasterChannel} {b : Session} (h : b.Own n)
    (hm : b.masterChannel = some ch) (hh : ch.hosed = false) (hl : b.logIns = 0) :
    (swapHandlers ch b).Own n := by
  have hundo : (b.setChannel { ch with openReqHandler := none }).logIns = 0 :=
    (Session.Frame.setChannel hm rfl).logIns.trans hl
  exact (h.undoExpect hm).flushTo rfl hh hundo

/-- The call that completes an attempt is refused, and leaves no message. -/
theorem CompleteRefused.own {n : Nat} {x b : Session} {ch : MasterChannel} (h : x.Own n)
    (hm : x.masterChannel = some ch) (hl : x.logIns = 0) (hr : CompleteRefused x ch b) :
    b.Own n := by
  cases hr with
  | undo hb => exact hb.own h hm
  | expect hh e => exact (h.undoExpect hm).emitError rfl
  | send hh e => exact (swapHandlers_own h hm hh hl).emitError rfl

/-- So it is with the last init-channel. -/
theorem InitOpenChannelResult.owns {m : Msg} {cap : InitCapture} (h : Owns s) (hl : s.logIns = 0)
    (hr : InitOpenChannelResult m cap o s s')
    (hdrop : ((s.vecs.lookup cap.vec).getD []).length + 1 = cap.nInitChannels → o.undo = .ok →
      o.expect = .ok → o.send = .ok → s.dropsChannel o.hook = true →
        (∀ t ∈ s.queue, t.messageOf = none) ∧ s.cachesRequest = false) : Owns s' := by
  have same : ∀ {t : Client}, Alike s t → t.logIns = 0 := by
    intro t ha
    simp only [Session.logIns, ha.queue, ha.channel]
    exact hl
  cases hr with
  | waits ha => exact h.alike ha
  | @refused t ha ch hm b hb =>
    have ht : Owns t := Owns.alike h ha
    exact hb.own ht (ha.channel.trans hm) (same ha)
  | @failed t ha ch hm hh f hf e =>
    have hswap := swapHandlers_own (Owns.alike h ha) (ha.channel.trans hm) hh (same ha)
    have hm' : (swapHandlers ch t.toSession).masterChannel = some (swapped ch) := rfl
    have hfail := (Session.Update.failCall hm' hh e).own (fun hn => by cases hn) hswap
    exact hfail.of_same rfl rfl
  | @succeeds t ha ch hm hh hlast hu he hd msg u hu' f hf s' hs' =>
    have hswap := swapHandlers_own (Owns.alike h ha) (ha.channel.trans hm) hh (same ha)
    have hm' : (swapHandlers ch t.toSession).masterChannel = some (swapped ch) := rfl
    have hsent := (Session.Update.transmit hm' hh msg).own (fun hn => by cases hn) hswap
    have hown : Owns (t.setSession ((swapHandlers ch t.toSession).transmit (swapped ch) msg)) :=
      hsent
    refine hs'.owns (hown.alike hu') fun hc => ?_
    obtain ⟨hq, hcache⟩ := hdrop hlast hu he hd hc
    rw [hu'.queue]
    have hcached := cached_of_not_cachesRequest hcache hm
    rw [← ha.queue] at hq
    exact no_message_flushTo (b := t.setChannel { ch with openReqHandler := none }) hq hcached

/-- Its own error: behind it no message waits. -/
theorem ErrorResult.owns {chan : Nat} {e : Err} (h : Owns s)
    (hq : s.chanId = some chan → ∀ t ∈ s.queue, t.messageOf = none)
    (hr : ErrorResult cfg chan e s s') : Owns s' := by
  cases hr with
  | other hc => exact h
  | failed hc hs hf => exact h.givenUp (hq hc) _ e
  | peer hs hb =>
    have hu := Session.onMasterChannelErrorPeer_updates (L := (· ≠ .expect)) (fun hn => by cases hn)
      (fun hn => by cases hn) hb
    exact hu.own (fun hn => hn rfl) h

/-- And where a sub-class completes the attempt. -/
theorem CompleteResult.owns {r : Ret} {e : ErrorCode} (h : Owns s)
    (hq : e ≠ none → ∀ t ∈ s.queue, t.messageOf = none) (hr : CompleteResult r s e s') :
    Owns s' := by
  cases hr with
  | failed hf e => exact h.givenUp (hq fun hn => by cases hn) _ e
  | @succeeds b hb f hf =>
    have hown : b.Own s.nextChan := by
      rcases hb with rfl | hb
      · exact h
      · have hu := Session.emplaceGracefulFinisher_updates (L := (· ≠ .expect))
          (fun hn => by cases hn) hb
        exact hu.own (fun hn => hn rfl) h
    exact hown.of_same rfl rfl

/-! ### A step -/

/-- A sub-class drops the channel, out of its completion handler or later on, while a message of the
    server waits for thread W, or in the channel for its handler. -/
def dropsMessages (cfg : Cfg) (s : Client) : Act → Bool
  | .run o => s.completes cfg o && s.dropsChannel o.hook &&
      (s.queue.tail.any (fun t => t.messageOf.isSome) || s.cachesRequest)
  | .complete (some _) _ => s.queue.any fun t => t.messageOf.isSome
  | _ => false

/-- A queue without messages has none of any channel. -/
theorem no_message_of_any {q : List Task} (h : q.any (fun t => t.messageOf.isSome) = false) :
    ∀ t ∈ q, t.messageOf = none := fun t ht => by
  simpa using List.any_eq_false.mp h t ht

/-- Thread W has taken a request for an init-channel: the log-in response is long in. -/
theorem taken_initOpenChannel {n chan : Nat} {x b : Session} {m : Msg} {cap : InitCapture}
    (h : x.Own n) (ht : x.takeTask = .done (.initOpenChannel chan m cap, b)) : b.logIns = 0 := by
  have hle := (Session.Tame.takeTask ht).logIns
  obtain ⟨-, hq, -⟩ := Session.takeTask_done ht
  by_contra hpos
  have hreq := (h.logIn (by omega)).2 _ (by rw [hq]; exact List.mem_cons_self)
  cases hreq

/-- **Every other step keeps it.** -/
theorem StepResult.owns (h : Owns s) (hno : dropsMessages cfg s a = false)
    (hr : StepResult cfg s a s') : Owns s' := by
  cases hr with
  | anywhere hn hu => exact hu.own (fun hn => by cases hn) h
  | inPeer hs hu => exact hu.own (fun hn => hn rfl) h
  | @called call attempt out subClass b bl ht =>
    have htake : Owns (s.setSession b) :=
      (Session.Update.takeBuilder ht).own (fun hn => by cases hn) h
    exact Session.Own.post (t := .asyncConnect attempt subClass bl) htake rfl rfl
  | @request o chan m b b' ht hd =>
    have hmark : (b.record (.openChannelReqRan m.id)).Own s.nextChan :=
      (h.takeTask ht).of_same rfl rfl
    have hrun := onMasterChannelOpenChannelReq_session
      (L := fun k => k.isRespond = true ∨ k.isAnywhere = true) (fun _ => .inl)
        (fun _ _ _ => .inr rfl) hd
    exact hrun.own (by rintro (hn | hn) <;> cases hn) hmark
  | @connects o attempt subClass bl b s' ht hr =>
    have hb : Owns (s.setSession b) := h.takeTask ht
    exact hr.owns hb
  -- If the response completes the connect at once, the hook may drop the channel; the guard says
  -- that no message of it is pending then.
  | @logInRsp o chan attempt m b s' ht hs hr =>
    have hb : Owns (s.setSession b) := h.takeTask ht
    obtain ⟨hl, hq⟩ := taken_logInRsp h ht
    obtain ⟨-, hqs, hbs⟩ := Session.takeTask_done ht
    refine hr.owns hb hl hq fun r hm hacc hn ho hd => ?_
    have hacc : accepts cfg s (s.out attempt) r = true := hacc
    have hn : asksNone (s.out attempt) r = true := hn
    have hd : s.dropsChannel o.hook = true := hd
    have hc : completes cfg s o = true := by
      simp only [completes, hqs, hm, hacc, hn, ho, decide_true, Bool.and_true]
    simp only [dropsMessages, hc, hd, Bool.true_and, Bool.or_eq_false_iff] at hno
    -- Taking the task leaves the channel and its cache as they were.
    have hmb : b.masterChannel = s.masterChannel := by rw [hbs]
    simpa only [Session.cachesRequest, hmb, setSession_toSession] using hno.2
  -- The same for the last init-channel, which completes the connect from its own message.
  | @initOpenChannel o chan m cap b s' ht hs hr =>
    have hb : Owns (s.setSession b) := h.takeTask ht
    have hl := taken_initOpenChannel h ht
    obtain ⟨-, hqs, hbs⟩ := Session.takeTask_done ht
    refine hr.owns hb hl fun hlast hu he hsend hd => ?_
    have hlast : ((s.vecs.lookup cap.vec).getD []).length + 1 = cap.nInitChannels := hlast
    have hd : s.dropsChannel o.hook = true := hd
    have hc : completes cfg s o = true := by
      simp only [completes, hqs, hlast, hu, he, hsend, decide_true, Bool.and_true]
    simp only [dropsMessages, hc, hd, hqs, List.tail_cons, Bool.true_and,
      Bool.or_eq_false_iff] at hno
    have hmb : b.masterChannel = s.masterChannel := by rw [hbs]
    refine ⟨no_message_of_any hno.1, ?_⟩
    simpa only [Session.cachesRequest, hmb, setSession_toSession] using hno.2
  -- The error is the last the channel posts, so nothing of it stands behind the error.
  | @error o chan e b s' ht hr =>
    have hb : Owns (s.setSession b) := h.takeTask ht
    obtain ⟨-, -, hbs⟩ := Session.takeTask_done ht
    refine hr.owns hb fun hid => h.behind ht rfl ?_
    have hmb : b.masterChannel = s.masterChannel := by rw [hbs]
    simpa only [Session.chanId, hmb, setSession_toSession] using hid
  -- A sub-class's completion drops the channel only with an error.
  | @completed e r s' ht hp hr =>
    refine hr.owns h fun he => ?_
    cases e with
    | none => exact absurd rfl he
    | some e => exact no_message_of_any hno
  -- The destructor's acts post its own tasks only.
  | @dtorAct a b hn hact =>
    have hpost : ∀ {t : Task}, t.isDtor = true → (s.toSession.post t).Own s.nextChan :=
      fun {t} ht =>
      h.post (by cases t <;> first | rfl | cases ht) (by cases t <;> first | rfl | cases ht)
    cases hact with
    | startGraceful => exact (hpost (t := .dtorFinisherQuery) rfl).of_same rfl rfl
    | startPlain => exact (hpost (t := .dtorFlush) rfl).of_same rfl rfl
    | sendEnd => exact (hpost (t := .dtorSendEnd) rfl).of_same rfl rfl
    | noFinisher => exact (hpost (t := .dtorFlush) rfl).of_same rfl rfl
    | peerDone => exact (hpost (t := .dtorFlush) rfl).of_same rfl rfl
    | flushDone => exact h.of_same rfl rfl
    | stop => exact h.of_same rfl rfl
  | @dtorTask o t b b' ht htask =>
    have hb : b.Own s.nextChan := h.takeTask ht
    cases htask with
    | finisherQuery => exact hb.of_same rfl rfl
    | sendEnd hf hu hw => exact (hu.own (fun hn => by cases hn) hb).of_same rfl rfl
    | noChannel hm => exact hb.of_same rfl rfl
    | flush hm willRun => exact hb.of_same rfl rfl

/-! ### The channel is there where it is used -/

/-- Session code with a result, run by a client. -/
theorem lift_grounded {α : Type} {k : Session → Outcome Failure (α × Session)}
    (h : Grounded (k s.toSession)) : Grounded (s.lift k) := by
  simp [lift, h]

/-- Session code without a result, run by a client. -/
theorem liftUnit_grounded {k : Session → Outcome Failure Session} (h : Grounded (k s.toSession)) :
    Grounded (s.liftUnit k) := by
  simp [liftUnit, h]

/-- The handler of an attempt does not use the channel. -/
@[simp] theorem invokeConnOnDoneFunc_grounded {e : ErrorCode} {hook : Hook} :
    Grounded (s.invokeConnOnDoneFunc e hook) := by
  unfold invokeConnOnDoneFunc
  split
  · simp
  · split <;> simp

/-- Nor does its failure. -/
@[simp] theorem connectFailed_grounded {e : Err} : Grounded (s.connectFailed e) := by
  simp [connectFailed]

/-- Nor does its success. -/
@[simp] theorem connectSucceeded_grounded {hook : Hook} :
    Grounded (s.connectSucceeded cfg hook) := by
  simp only [connectSucceeded, Outcome.failsOnly_bind, invokeConnOnDoneFunc_grounded, true_and]
  intro _ _
  split <;> simp

/-- `async_connect()` makes the channel that it uses. -/
theorem asyncConnect_grounded {attempt : Nat} {subClass : Bool} {b : Builder} :
    Grounded (s.asyncConnect cfg attempt subClass b o) := by
  simp only [asyncConnect]
  split
  · simp
  · split
    · simp
    · simp only [Outcome.failsOnly_bind]
      refine ⟨liftUnit_grounded (by simp), fun _ _ => ?_⟩
      split
      · simp
      · simp only [Outcome.failsOnly_bind]
        refine ⟨by simp, fun _ _ => ⟨lift_grounded (Session.send_safe rfl).grounded, fun _ _ => ?_⟩⟩
        split <;> simp

/-- Reading the log-in response takes no channel. -/
theorem readLogInRsp_grounded {attempt : Nat} {m : Msg} :
    Grounded (s.readLogInRsp cfg attempt m) := by
  simp only [readLogInRsp]
  split
  · split
    · simp
    · split
      · simp
      · split
        · simp
        · split
          · simp
          · simp only [Outcome.failsOnly_bind]
            exact ⟨liftUnit_grounded (by simp), fun _ _ => by simp⟩
  · simp

/-- Its handler finds the channel that it came on. -/
theorem onMasterChannelLogInRsp_grounded {chan attempt : Nat} {m : Msg} (h : Placed s) :
    Grounded (s.onMasterChannelLogInRsp cfg chan m attempt o) := by
  simp only [onMasterChannelLogInRsp, Outcome.failsOnly_bind]
  refine ⟨readLogInRsp_grounded, fun r hr => ⟨by simp, fun _ hs => ⟨by simp, fun _ _ => ?_⟩⟩⟩
  obtain ⟨res, t⟩ := r
  have ht := readLogInRsp_alike hr
  have hst : t.state = .connecting := by simpa using hs
  have hm : t.masterChannel.isSome = true := by
    rw [ht.channel]
    exact (h.connecting (ht.state.symm.trans hst)).2
  split
  · simp
  · split
    · simp only [Outcome.failsOnly_bind]
      refine ⟨by simp, fun _ _ => ⟨lift_grounded (Session.expectOpenChannelReqs_safe hm).grounded,
        fun _ _ => ?_⟩⟩
      split <;> simp
    · simp only [Outcome.failsOnly_bind]
      exact ⟨by simp, fun _ _ => ⟨lift_grounded (Session.expectOpenChannelReqs_safe hm).grounded,
        fun _ _ => by simp⟩⟩

/-- The user's channel is made without the master channel. -/
theorem createChannelObj_grounded {b : Session} {mqC2s mqS2c : SharedName}
    {hndl : Option NativeHandle}
    {active : Bool} {mqOpen : ErrorCode} :
    Grounded (b.createChannelObj cfg mqC2s mqS2c hndl active mqOpen) := by
  simp [Session.createChannelObj]

/-- The last init-channel is acknowledged on the channel. -/
theorem initChannelsComplete_grounded {m : Msg} {cap : InitCapture} {chans : Channels}
    (hm : s.masterChannel.isSome = true) : Grounded (s.initChannelsComplete cfg m cap chans o) := by
  simp only [initChannelsComplete, Outcome.failsOnly_bind]
  refine ⟨lift_grounded (Session.undoExpectOpenChannelReqs_safe hm).grounded, fun r₁ h₁ => ?_⟩
  obtain ⟨ok₁, s₁⟩ := r₁
  obtain ⟨b₁, hb₁, rfl⟩ := lift_done h₁
  have hm₁ : b₁.masterChannel.isSome = true :=
    (Session.undoExpectOpenChannelReqs_updates (L := Mark.any) trivial hb₁).tame.channel.trans hm
  split
  · simp
  · simp only [Outcome.failsOnly_bind]
    refine ⟨lift_grounded (Session.expectOpenChannelReqs_safe hm₁).grounded, fun r₂ h₂ => ?_⟩
    obtain ⟨ok₂, s₂⟩ := r₂
    obtain ⟨b₂, hb₂, rfl⟩ := lift_done h₂
    have hm₂ : b₂.masterChannel.isSome = true :=
      (Session.expectOpenChannelReqs_updates (L := Mark.any) trivial hb₂).tame.channel.trans hm₁
    split
    · simp
    · simp only [Outcome.failsOnly_bind]
      refine ⟨lift_grounded (Session.send_safe hm₂).grounded, fun r₃ _ => ?_⟩
      split <;> simp [emitInitChannels]

/-- The handler of an init-channel finds the channel that it came on. -/
theorem onMasterChannelInitOpenChannel_grounded {m : Msg} {cap : InitCapture} (h : Placed s) :
    Grounded (s.onMasterChannelInitOpenChannel cfg m cap o) := by
  simp only [onMasterChannelInitOpenChannel, Outcome.failsOnly_bind]
  refine ⟨by simp, fun _ hs => ⟨by simp, fun _ _ => ?_⟩⟩
  have hst : s.state = .connecting := by simpa [Client.record] using hs
  have hm := (h.connecting hst).2
  split
  · simp only [Outcome.failsOnly_bind]
    refine ⟨lift_grounded createChannelObj_grounded, fun r hr => ⟨by simp, fun _ _ => ?_⟩⟩
    obtain ⟨obj, s₁⟩ := r
    obtain ⟨b, hb, rfl⟩ := lift_done hr
    split
    · simp
    · refine initChannelsComplete_grounded ?_
      exact (Session.createChannelObj_updates (L := Mark.any) hb).tame.channel.trans hm
  · simp

/-- The report of the error looks whether the channel is there. -/
theorem onMasterChannelError_grounded {chan : Nat} {e : Err} :
    Grounded (s.onMasterChannelError cfg chan e) := by
  simp only [onMasterChannelError]
  split
  · simp
  · split
    · simp
    · simp
    · exact liftUnit_grounded (by simp)

/-- The server's answer to `open_channel()` takes no channel. -/
theorem openChannelRsp_grounded {b : Session} {call req : Nat} {mqOpen : ErrorCode} {m : Msg} :
    Grounded (openChannelRsp cfg call req mqOpen m b) := by
  unfold openChannelRsp
  split <;> simp [Session.createChannelObj]

/-- The answer to the server takes one. -/
theorem onMasterChannelOpenChannelReq_grounded {b : Session} {m : Msg}
    (hm : b.masterChannel.isSome = true) : Grounded (onMasterChannelOpenChannelReq cfg m o b) := by
  simp only [onMasterChannelOpenChannelReq, Outcome.failsOnly_bind,
    Session.hosed_grounded, true_and]
  intro h _
  split
  · simp
  · simp only [Outcome.failsOnly_bind]
    refine ⟨by simp [hm], fun _ _ => ⟨?_, fun r hr => ?_⟩⟩
    · unfold prepare
      split
      · split <;> simp [Session.createChannelObj]
      · simp
    · obtain ⟨p, b₁⟩ := r
      exact Session.openChannelReqRespond_grounded
        ((prepare_updates (L := Mark.any) hr).tame.channel.trans hm)

/-- So no task uses a channel that is gone. -/
theorem runTask_grounded {t : Task} {b : Session} (h : Seated s) (ho : Owns s)
    (ht : s.takeTask = .done (t, b)) : Grounded ((s.setSession b).runTask cfg o t) := by
  have hb := h.takeTask ht
  obtain ⟨-, hq, hbs⟩ := Session.takeTask_done ht
  have hmb : b.masterChannel = s.masterChannel := by rw [hbs]
  cases t with
  | masterChannelError => exact onMasterChannelError_grounded
  | logInRsp => exact onMasterChannelLogInRsp_grounded hb.placed
  | initOpenChannel => exact onMasterChannelInitOpenChannel_grounded hb.placed
  | openChannelReq chan m =>
    refine liftUnit_grounded (onMasterChannelOpenChannelReq_grounded ?_)
    -- The request was received on the channel that the session still owns.
    have hid := ho.message _ (by rw [hq]; exact List.mem_cons_self) chan rfl
    obtain ⟨ch, hm, -⟩ := Option.map_eq_some_iff.mp hid
    show b.masterChannel.isSome = true
    rw [hmb, hm]
    rfl
  | gracefulSessionEnd => exact liftUnit_grounded (by simp)
  | asyncConnect => exact asyncConnect_grounded
  | openChannel =>
    exact liftUnit_grounded
      (Session.openChannelBody_grounded fun hs => hb.placed.peer (of_decide_eq_true hs))
  | sessionToken =>
    simp only [runTask, sessionToken]
    split
    · simp
    · rename_i hs
      exact liftUnit_grounded (Session.sessionToken_grounded (hb.placed.peer (not_not.mp hs)))
  | dtorSendEnd =>
    refine liftUnit_grounded (Session.dtorSendEnd_grounded fun hf => ?_)
    refine hb.placed.peer ?_
    -- A finisher is put in place on the way to PEER state only.
    by_contra hp
    have hnone : b.gracefulFinisher = none := hb.finisher hp
    have hf : b.gracefulFinisher.isSome = true := hf
    rw [hnone] at hf
    cases hf
  | _ => simp [runTask]

/-- **No step uses the channel while it is null.** -/
theorem step_grounded (h : Seated s) (ho : Owns s) : Grounded (step cfg s a) := by
  cases a with
  | mdtBuilder => simp [step]
  -- The posts of thread U check the rules of use, not what the session owns.
  | connect =>
    simp only [step, connect, Outcome.failsOnly_bind]
    refine ⟨by simp, fun _ _ => ⟨lift_grounded Session.takeBuilder_safe.grounded, fun r hr => ?_⟩⟩
    split <;> simp
  | openChannel =>
    simp only [step, Outcome.failsOnly_bind]
    refine ⟨by simp, fun _ _ => liftUnit_grounded ?_⟩
    simp only [openChannel, Outcome.failsOnly_bind]
    refine ⟨Session.takeBuilder_safe.grounded, fun _ _ => ?_⟩
    split <;> simp
  | sessionToken => simp [step]
  -- Here the pointers are dereferenced; the seated state has them.
  | run o =>
    simp only [step, Outcome.failsOnly_bind]
    refine ⟨lift_grounded Session.takeTask_safe.grounded, fun r hr => ?_⟩
    obtain ⟨t, s₁⟩ := r
    obtain ⟨b, hb, rfl⟩ := lift_done hr
    exact runTask_grounded h ho hb
  -- sync_request() is made in PEER state, where the channel is there.
  | syncReturn =>
    simp only [step]
    split
    · rename_i hw
      have hs : s.state = .peer := by
        by_contra hp
        have hno := h.worker hp
        rw [hw] at hno
        cases hno
      exact liftUnit_grounded
        (Session.openChannelSyncReturn_grounded (h.placed.peer hs) fun _ => openChannelRsp_grounded)
    · simp
  -- A sub-class sends in CONNECTING state, where the channel is there as well.
  | subClassSend =>
    simp only [step, Outcome.failsOnly_bind]
    refine ⟨by simp, fun _ ht =>
      ⟨lift_grounded (Session.send_safe ?_).grounded, fun _ _ => by simp⟩⟩
    have ht : s.takenOver = true := by simpa using ht
    exact (h.placed.connecting (takenOver_state ht)).2
  -- The completion moves on to engage the finisher, which needs the channel.
  | complete e r =>
    simp only [step, Outcome.failsOnly_bind]
    refine ⟨by simp, fun _ ht => ?_⟩
    have ht : s.takenOver = true := by
      have hboth : (s.takenOver && s.peerStateErrCodeOrOk.isNone) = true := by simpa using ht
      exact (Bool.and_eq_true_iff.mp hboth).1
    have hm := (h.placed.connecting (takenOver_state ht)).2
    simp only [completeAsyncConnectAfterCancelingPeerState, Outcome.failsOnly_bind]
    refine ⟨lift_grounded (by simp), fun r hr => ⟨by simp, fun _ _ => ?_⟩⟩
    obtain ⟨hosed, s₁⟩ := r
    obtain ⟨b, hb, rfl⟩ := lift_done hr
    obtain ⟨h₂, -, hb⟩ := Outcome.bind_eq_done.mp hb
    cases hb
    split
    · simp
    · simp only [Outcome.failsOnly_bind, engageFinisher]
      refine ⟨?_, fun _ _ => by simp⟩
      split
      · exact liftUnit_grounded (Session.emplaceGracefulFinisher_safe hm).grounded
      · simp
  | deliver => exact liftUnit_grounded Session.deliver_safe.grounded
  | channelError => exact liftUnit_grounded Session.channelError_safe.grounded
  | dtorStart => exact liftUnit_grounded Session.dtorStart_grounded
  | dtorStep => exact liftUnit_grounded Session.dtorStep_grounded
  | flushDone => exact liftUnit_grounded Session.dtorFlushDone_grounded

/-! ### Runs -/

/-- What is promised of a master channel that is gone. -/
structure LeavesGoneAlone (cfg : Cfg) (s : Client) : Prop where
  /-- A task that a handler of a channel has posted does nothing once the channel is not there any
      more. -/
  gone : ∀ t b c o, s.takeTask = .done (t, b) → t.postedBy = some c → s.chanId ≠ some c →
    step cfg s (.run o) = .done (s.setSession b)
  /-- No step uses the channel while it is null. -/
  grounded : ∀ act, Grounded (step cfg s act)

/-- The invariant of the runs in which no sub-class drops a channel whose messages wait. -/
structure GoneInv (s : Client) : Prop where
  seated : Seated s
  owns : Owns s

/-- The invariant says all that is claimed of what is gone. -/
theorem GoneInv.leavesGoneAlone (h : GoneInv s) : LeavesGoneAlone cfg s where
  gone := by
    intro t b c o ht hc hid
    obtain ⟨-, hq, hbs⟩ := Session.takeTask_done ht
    have hmem : t ∈ s.queue := by
      rw [hq]
      exact List.mem_cons_self
    have hrun : step cfg s (.run o) = (s.setSession b).runTask cfg o t := by
      simp only [step, lift, ht]
      rfl
    -- A message is of the channel at hand; only an error can be of one that is gone.
    have hno : t.messageOf ≠ some c := fun hm => hid (h.owns.message t hmem c hm)
    cases t with
    | masterChannelError chan e =>
      cases hc
      have hmb : b.masterChannel = s.masterChannel := by rw [hbs]
      have hne : (s.setSession b).masterChannel.map MasterChannel.id ≠ some c := by
        rw [setSession_toSession, hmb]
        exact hid
      rw [hrun]
      show (s.setSession b).onMasterChannelError cfg c e = _
      rw [onMasterChannelError, if_pos hne]
      rfl
    | logInRsp => exact absurd hc hno
    | initOpenChannel => exact absurd hc hno
    | openChannelReq => exact absurd hc hno
    | _ => cases hc
  grounded := fun _ => step_grounded h.seated h.owns

/-- **A channel that is gone is left alone** in every run in which no sub-class drops the channel
    while a message of the server waits. -/
theorem leavesGoneAlone_of_reaches
    (hr : Machine.Reaches (step cfg) (fun s act => dropsMessages cfg s act = false)
      (fresh passiveOpen) s) :
    LeavesGoneAlone cfg s := by
  have hinv : GoneInv s :=
    hr.invariant ⟨.fresh passiveOpen, owns_fresh passiveOpen⟩ fun s act s' h hno hd =>
      ⟨step_seated h.seated hd, (step_result h.seated hd).owns h.owns hno⟩
  exact hinv.leavesGoneAlone

/-- A connect attempt of a sub-class, up to where the log-in response is in; the server has asked
    for a channel already. -/
def subClassPrefix : List Act :=
  [.mdtBuilder 0 [], .run {}, .connect 0 0 ⟨none, none, none⟩ true, .run { cns := ['7', '\n'] },
    .deliver ⟨1, none, some ⟨0, true⟩, .openChannelToClientReq [] [] []⟩,
    .deliver ⟨0, some 0, none, .logInRsp ⟨1, 1, ['1'], [], 0⟩⟩]

/-- The sub-class takes the connect over; the request is handled; then the channel fails, and the
    client is back in NULL state. -/
theorem leavesGoneAlone_of_reaches_takenOver : ∃ s, Machine.Reaches (step .sample)
    (fun s act => dropsMessages .sample s act = false) (fresh false) s ∧
      s.state = .null ∧ s.masterChannel = none ∧ LeavesGoneAlone .sample s := by
  obtain ⟨s, hr, hs⟩ := Machine.Reaches.exists_of_run
    (Machine.guarded (fun s act => !dropsMessages .sample s act) (step .sample)) (fresh false)
    (subClassPrefix ++ [.run { hook := .toConnecting }, .run {}, .channelError (.other 1), .run {}])
    (fun s => decide (s.state = .null ∧ s.masterChannel = none)) (by decide)
  have hr := hr.of_guarded.mono fun s act hg => (Bool.not_eq_true' _).mp hg
  exact ⟨s, hr, (of_decide_eq_true hs).1, (of_decide_eq_true hs).2, leavesGoneAlone_of_reaches hr⟩

/-- **A sub-class that gives up leaves the server's request behind**: handled without a channel, it
    uses the null pointer. -/
theorem not_leavesGoneAlone_toNull :
    ¬ ∀ (cfg : Cfg) (passiveOpen : Bool) (s : Client),
      Machine.Reaches (step cfg) Machine.anyStep (fresh passiveOpen) s → LeavesGoneAlone cfg s := by
  intro hall
  obtain ⟨s, hr, hs⟩ := Machine.Reaches.exists_of_run (step .sample) (fresh true)
    (subClassPrefix ++ [.run { hook := .toNull (.other 1) }])
    (fun s => decide (step .sample s (.run {}) = .failed .nullMasterChannel)) (by decide)
  exact (hall _ _ _ hr).grounded (.run {}) _ (of_decide_eq_true hs) rfl

end Client

end IpcSession
