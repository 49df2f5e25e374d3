import IpcSession.Client.AllOrNothing
import IpcSession.Client.Errors
import IpcSession.Client.StageSafety

namespace IpcSession

/-!
# What a pending connect attempt waits for

A connect attempt that is not taken over by a sub-class waits for the log-in response, for an
init-channel, or for the report of the channel's error.

* `Session.Aside` — what code does, before PEER state, that has nothing to do with connecting.
* `Client.Waits` — the invariant: while CONNECTING, as long as the channel has not emitted its
  error, a message of the server is to come.
* `Client.Went` — what a step does to the attempt, with the codes that its handler is run with.
-/

/-- A request of the peer to open a channel. -/
def Task.isOpenChannelReq : Task → Bool
  | openChannelReq .. => true
  | _ => false

namespace Session

variable {s s' s'' : Session} {t : Task}

/-- What code that is not of connecting does at most before PEER state. -/
structure Aside (s s' : Session) : Prop where
  errFunc : s'.onErrFuncSet = s.onErrFuncSet
  worker : s'.w.inSync = true → s.w.inSync = true
  ok : s'.peerStateErrCodeOrOk = s.peerStateErrCodeOrOk
  channel : ∀ ch', s'.masterChannel = some ch' → ∃ ch, s.masterChannel = some ch ∧
    ch'.openReqHandler = ch.openReqHandler ∧ (ch.hosed = true → ch'.hosed = true)
  errors : (∀ ch, s.masterChannel = some ch → ch.hosed = true) →
    ∀ t ∈ s'.queue, t.isMasterChannelError = true → t ∈ s.queue
  reqs : ∀ t ∈ s'.queue, t.isOpenChannelReq = true → t ∈ s.queue ∨
    ∃ ch, s.masterChannel = some ch ∧ ch.openReqHandler = some .openChannelReq
  logIns : s.logIns ≤ s'.logIns
  log : ∃ es, s'.log = s.log ++ es ∧ es.filterMap Event.connectCode = []

namespace Aside

theorem refl (s : Session) : Aside s s where
  errFunc := rfl
  worker := id
  ok := rfl
  channel := fun ch hm => ⟨ch, hm, rfl, id⟩
  errors := fun _ _ ht _ => ht
  reqs := fun _ ht _ => .inl ht
  logIns := le_refl _
  log := log_same rfl

theorem trans (h : Aside s s') (h' : Aside s' s'') : Aside s s'' where
  errFunc := h'.errFunc.trans h.errFunc
  worker := h.worker ∘ h'.worker
  ok := h'.ok.trans h.ok
  channel := fun ch'' hm'' => by
    obtain ⟨ch', hm', ho', hh'⟩ := h'.channel ch'' hm''
    obtain ⟨ch, hm, ho, hh⟩ := h.channel ch' hm'
    exact ⟨ch, hm, ho'.trans ho, hh' ∘ hh⟩
  errors := fun hall t ht he => by
    refine h.errors hall t (h'.errors (fun ch' hm' => ?_) t ht he) he
    obtain ⟨ch, hm, -, hh⟩ := h.channel ch' hm'
    exact hh (hall ch hm)
  reqs := fun t ht hr => by
    rcases h'.reqs t ht hr with ht | ⟨ch', hm', ho'⟩
    · exact h.reqs t ht hr
    · obtain ⟨ch, hm, ho, -⟩ := h.channel ch' hm'
      exact .inr ⟨ch, hm, ho ▸ ho'⟩
  logIns := h.logIns.trans h'.logIns
  log := by
    obtain ⟨es, hl, hes⟩ := h.log
    obtain ⟨es', hl', hes'⟩ := h'.log
    exact ⟨es ++ es', by rw [hl', hl, List.append_assoc],
      by rw [List.filterMap_append, hes, hes']; rfl⟩

/-- Neither the queue nor the channel changes. -/
theorem of_same (hf : s'.onErrFuncSet = s.onErrFuncSet)
    (hw : s'.w.inSync = true → s.w.inSync = true)
    (hp : s'.peerStateErrCodeOrOk = s.peerStateErrCodeOrOk) (hq : s'.queue = s.queue)
    (hm : s'.masterChannel = s.masterChannel)
    (hl : ∃ es, s'.log = s.log ++ es ∧ es.filterMap Event.connectCode = []) : Aside s s' where
  errFunc := hf
  worker := hw
  ok := hp
  channel := fun ch hm' => ⟨ch, hm ▸ hm', rfl, id⟩
  errors := fun _ _ ht _ => hq ▸ ht
  reqs := fun _ ht _ => .inl (hq ▸ ht)
  logIns := by simp only [Session.logIns, hq, hm, le_refl]
  log := hl

/-- An event that is not the end of an attempt. -/
theorem record {e : Event} (he : e.connectCode = none) (s : Session) : Aside s (s.record e) :=
  .of_same rfl id rfl rfl rfl (log_snoc rfl he)

/-- The bookkeeping of the channel changes, but for what it expects of the peer for a connect. -/
theorem setChannel {ch ch' : MasterChannel} (hm : s.masterChannel = some ch)
    (ho : ch'.openReqHandler = ch.openReqHandler) (hh : ch'.hosed = ch.hosed)
    (hl : ch'.expectsLogInRsp = ch.expectsLogInRsp) : Aside s (s.setChannel ch') where
  errFunc := rfl
  worker := id
  ok := rfl
  channel := fun c hc => by
    cases hc
    exact ⟨ch, hm, ho, fun h => hh.trans h⟩
  errors := fun _ _ ht _ => ht
  reqs := fun _ ht _ => .inl ht
  logIns := (Frame.setChannel hm hl).logIns.ge
  log := log_same rfl

/-- A task is posted that is neither an error of the channel nor a request to open one. -/
theorem post (he : t.isMasterChannelError = false) (hr : t.isOpenChannelReq = false) (s : Session) :
    Aside s (s.post t) where
  errFunc := rfl
  worker := id
  ok := rfl
  channel := fun ch hm => ⟨ch, hm, rfl, id⟩
  errors := fun _ u hu hue => by
    rcases List.mem_append.mp hu with hu | hu
    · exact hu
    · rw [List.mem_singleton.mp hu, he] at hue
      cases hue
  reqs := fun u hu hur => by
    rcases List.mem_append.mp hu with hu | hu
    · exact .inl hu
    · rw [List.mem_singleton.mp hu, hr] at hur
      cases hur
  logIns := by
    simp only [Session.logIns, post_queue, post_masterChannel, List.countP_append]
    omega
  log := log_same rfl

/-- Thread W takes a task other than the log-in response. -/
theorem takeTask (ht : t.isLogInRsp = false) (hd : s.takeTask = .done (t, s')) : Aside s s' := by
  obtain ⟨-, hq, hs⟩ := takeTask_done hd
  have hm : s'.masterChannel = s.masterChannel := by rw [hs]
  have hmem : ∀ u ∈ s'.queue, u ∈ s.queue := fun u hu => by
    rw [hq]
    exact List.mem_cons_of_mem t hu
  refine ⟨by rw [hs], fun h => ?_, by rw [hs], fun ch hch => ⟨ch, hm ▸ hch, rfl, id⟩,
    fun _ u hu _ => hmem u hu, fun u hu _ => .inl (hmem u hu), ?_, log_same (by rw [hs])⟩
  · rw [hs] at h
    exact h
  · simp only [Session.logIns, hq, hm, List.countP_cons, ht, Bool.false_eq_true, if_false,
      Nat.add_zero, le_refl]

/-- The channel finds its error. -/
theorem emitError {ch : MasterChannel} (hm : s.masterChannel = some ch) (hh : ch.hosed = false)
    (e : Err) : Aside s (s.emitError ch e) where
  errFunc := rfl
  worker := id
  ok := rfl
  channel := fun ch' hm' => by
    cases hm'
    exact ⟨ch, hm, rfl, fun _ => rfl⟩
  errors := fun hall => by
    have hhosed := hall ch hm
    rw [hh] at hhosed
    cases hhosed
  reqs := fun u hu hur => by
    rcases List.mem_append.mp hu with hu | hu
    · exact .inl hu
    · rw [List.mem_singleton.mp hu] at hur
      cases hur
  logIns := (Frame.emitError hm e).logIns.ge
  log := log_snoc (e := .channelError true e) rfl rfl

/-- The channel finds an error: its report is on the way. -/
theorem channelError {e : Err} (hd : s.channelError e = .done s') : Aside s s' := by
  obtain ⟨ch, hm, hh, rfl⟩ := channelError_done hd
  exact emitError hm hh e

/-- A handler's task is posted, for a message that comes in. -/
theorem gotOpenReq {ch : MasterChannel} {h : OpenReqHandler} (hm : s.masterChannel = some ch)
    (ho : ch.openReqHandler = some h) (m : Msg) : Aside s (s.post (h.task ch.id m)) := by
  cases h with
  | initOpenChannel cap => exact post rfl rfl s
  | openChannelReq =>
    refine ⟨rfl, id, rfl, fun ch hm => ⟨ch, hm, rfl, id⟩, fun _ u hu hue => ?_,
      fun u hu _ => ?_, ?_,
      log_same rfl⟩
    · rcases List.mem_append.mp hu with hu | hu
      · exact hu
      · rw [List.mem_singleton.mp hu] at hue
        cases hue
    · exact .inr ⟨ch, hm, ho⟩
    · exact (logIns_post rfl).ge

/-- A message comes in. -/
theorem deliver {m : Msg} (hd : s.deliver m = .done s') : Aside s s' := by
  obtain ⟨ch, hm, hh, ⟨req, -, rfl⟩ | ⟨-, rfl⟩⟩ := deliver_done hd
  · unfold deliverRsp
    split
    · rename_i id attempt he
      split
      · -- the log-in response: it was expected, and now it waits
        have hpost : ((s.setChannel { ch with expectsLogInRsp := none }).post
            (.logInRsp ch.id m attempt)).logIns = s.logIns := by
          simp [Session.logIns, hm, he, Task.isLogInRsp]
        refine ⟨rfl, fun h => h, rfl, fun ch' hm' => ?_, fun _ u hu hue => ?_, fun u hu hur => ?_,
          hpost.ge, log_same rfl⟩
        · cases hm'
          exact ⟨ch, hm, rfl, fun h => h⟩
        · rcases List.mem_append.mp hu with hu | hu
          · exact hu
          · rw [List.mem_singleton.mp hu] at hue
            cases hue
        · rcases List.mem_append.mp hu with hu | hu
          · exact .inl hu
          · rw [List.mem_singleton.mp hu] at hur
            cases hur
      · exact refl s
    · split
      · rename_i k id hw
        split
        · refine of_same rfl (fun _ => ?_) rfl rfl rfl (log_same rfl)
          rw [hw]
          rfl
        · exact refl s
      · exact refl s
  -- An unsolicited message: posted if it is expected, else cached.
  · unfold deliverUnsolicited
    split
    · split
      · refine trans ?_ (post rfl rfl _)
        exact setChannel hm rfl rfl rfl
      · exact setChannel hm rfl rfl rfl
    · split
      · refine trans ?_ (post rfl rfl _)
        exact setChannel hm rfl rfl rfl
      · exact setChannel hm rfl rfl rfl
    · split
      · rename_i ho
        exact gotOpenReq hm ho m
      · exact setChannel hm rfl rfl rfl

/-- Thread U goes on in the destructor. -/
theorem dtorAct (h : s.DtorAct s') : Aside s s' := by
  cases h with
  | flushDone | stop => exact of_same rfl (fun h => by cases h) rfl rfl rfl (log_same rfl)
  | _ => exact trans (post rfl rfl s) (of_same rfl id rfl rfl rfl (log_same rfl))

/-- Thread W works for the destructor, where there is no finisher. -/
theorem dtorTask (h : s.DtorTask t s') (hf : s.gracefulFinisher = none) : Aside s s' := by
  cases h with
  | finisherQuery => exact of_same rfl id rfl rfl rfl (log_same rfl)
  | sendEnd hf' =>
    rw [hf] at hf'
    cases hf'
  | noChannel => exact of_same rfl id rfl rfl rfl (log_same rfl)
  | flush => exact of_same rfl (fun h => by cases h) rfl rfl rfl (log_same rfl)

end Aside

/-- What a call on the channel leaves alone. -/
structure Kept (s s' : Session) : Prop where
  errFunc : s'.onErrFuncSet = s.onErrFuncSet
  worker : s'.w = s.w
  ok : s'.peerStateErrCodeOrOk = s.peerStateErrCodeOrOk
  log : ∃ es, s'.log = s.log ++ es ∧ es.filterMap Event.connectCode = []

theorem Kept.trans (h : Kept s s') (h' : Kept s' s'') : Kept s s'' where
  errFunc := h'.errFunc.trans h.errFunc
  worker := h'.worker.trans h.worker
  ok := h'.ok.trans h.ok
  log := by
    obtain ⟨es, hl, hes⟩ := h.log
    obtain ⟨es', hl', hes'⟩ := h'.log
    exact ⟨es ++ es', by rw [hl', hl, List.append_assoc],
      by rw [List.filterMap_append, hes, hes']; rfl⟩

/-- What there is of a channel has emitted its error. -/
def Hosed (s : Session) : Prop := ∀ ch, s.masterChannel = some ch → ch.hosed = true

/-- A channel that has emitted its error. -/
theorem Hosed.of_some {ch : MasterChannel} (hm : s.masterChannel = some ch) (hh : ch.hosed = true) :
    Hosed s := by
  intro ch' hm'
  rw [hm] at hm'
  cases hm'
  exact hh

/-- A call that emits no error of its own, and that is refused only once the error is emitted. -/
theorem NoErrorResult.kept {ch : MasterChannel} {u : Session} {ok : Bool}
    (hm : s.masterChannel = some ch) (h : NoErrorResult s ch u ok s') (hu : Kept s u) :
    Kept s s' ∧ (ok = false → Hosed s') := by
  cases h with
  | ok => exact ⟨hu, fun h => by cases h⟩
  | refusedOld hh => exact ⟨⟨rfl, rfl, rfl, log_same rfl⟩, fun _ => .of_some hm hh⟩
  | refusedNew hh e =>
    exact ⟨⟨rfl, rfl, rfl, log_snoc (e := .channelError true e) rfl rfl⟩, fun _ => .of_some rfl rfl⟩

/-- `expect_msgs()` returns `false` on a hosed channel only. -/
theorem expectOpenChannelReqs_kept {h : OpenReqHandler} {r : Ret} {ok : Bool}
    (hd : s.expectOpenChannelReqs h r = .done (ok, s')) : Kept s s' ∧ (ok = false → Hosed s') := by
  obtain ⟨ch, hm, hr⟩ := expectOpenChannelReqs_done hd
  exact hr.kept hm ⟨rfl, rfl, rfl, log_same rfl⟩

/-- So does `undo_expect_msgs()`. -/
theorem undoExpectOpenChannelReqs_kept {r : Ret} {ok : Bool}
    (hd : s.undoExpectOpenChannelReqs r = .done (ok, s')) :
    Kept s s' ∧ (ok = false → Hosed s') := by
  obtain ⟨ch, hm, hr⟩ := undoExpectOpenChannelReqs_done hd
  exact hr.kept hm ⟨rfl, rfl, rfl, log_same rfl⟩

/-- A `send()` is refused, or fails, only once the error is emitted; where it fails, that is the
    only way that the error is emitted. -/
theorem SendResult.kept {ch : MasterChannel} {m : Nat → Msg} {r : Ret} {c : Called}
    (hm : s.masterChannel = some ch) (h : SendResult s ch m r c s') :
    Kept s s' ∧ (c = .refused → Hosed s') ∧
      ∀ e, c = .failed e → ch.hosed = false ∧ s'.queue = s.queue ∧ Hosed s' := by
  cases h with
  | ok =>
    exact ⟨⟨rfl, rfl, rfl, log_snoc (e := .sent _) rfl rfl⟩, fun h => (by cases h),
      fun e h => (by cases h)⟩
  | refusedOld hh e =>
    exact ⟨⟨rfl, rfl, rfl, log_same rfl⟩, fun _ => .of_some hm hh, fun e h => by cases h⟩
  | refusedNew hh e =>
    exact ⟨⟨rfl, rfl, rfl, log_snoc (e := .channelError true e) rfl rfl⟩, fun _ => .of_some rfl rfl,
      fun e h => by cases h⟩
  | failed hh e =>
    exact ⟨⟨rfl, rfl, rfl, log_snoc (e := .channelError false e) rfl rfl⟩, fun h => (by cases h),
      fun _ _ => ⟨hh, rfl, .of_some rfl rfl⟩⟩

end Session

namespace Client

variable {cfg : Cfg} {s s₁ s' : Client} {o : ClientOracle} {starts : Prop}

/-! ### The invariant -/

/-- A message of the server is to come over channel `ch`, and none that is for PEER state. -/
structure AwaitsServer (s : Client) (ch : MasterChannel) : Prop where
  noReq : ∀ t ∈ s.queue, t.isOpenChannelReq = false
  handler : ch.openReqHandler ≠ some .openChannelReq
  stage : 0 < s.logIns ∨
    ∃ cap, ch.openReqHandler = some (.initOpenChannel cap) ∧ s.awaitsMore cap = true

/-- Before PEER state: what there is of a channel in NULL state has emitted its error out of a call,
    and while CONNECTING either the channel has emitted its error or a message of the server is to
    come. -/
structure Waits (s : Client) : Prop where
  errFunc : s.onErrFuncSet = true
  pending : s.connOnDoneFuncOrEmpty ≠ none → s.state = .connecting
  worker : s.state ≠ .peer → s.w.inSync = false
  ok : s.state ≠ .peer → s.peerStateErrCodeOrOk = none
  null : s.state = .null → ∀ ch, s.masterChannel = some ch →
    ch.hosed = true ∧ ∀ t ∈ s.queue, t.isMasterChannelError = false
  connecting : s.state = .connecting → ∀ ch, s.masterChannel = some ch → ch.hosed = false →
    AwaitsServer s ch

/-- What there is of the session while thread W runs a task of an attempt. -/
structure Plain (s : Session) : Prop where
  errFunc : s.onErrFuncSet = true
  worker : s.w.inSync = false
  ok : s.peerStateErrCodeOrOk = none

/-- What a call on the channel leaves alone stays plain. -/
theorem Plain.kept {b b' : Session} (h : Plain b) (hk : b.Kept b') : Plain b' :=
  ⟨hk.errFunc.trans h.errFunc, by rw [hk.worker, h.worker], hk.ok.trans h.ok⟩

namespace Waits

/-- Before any call there is nothing to wait for. -/
theorem fresh (passiveOpen : Bool) : Waits (fresh passiveOpen) where
  errFunc := rfl
  pending := fun h => absurd rfl h
  worker := fun _ => rfl
  ok := fun _ => rfl
  null := fun _ _ hm => by cases hm
  connecting := fun hs => by cases hs

/-- Before PEER state the session is plain. -/
theorem plain (h : Waits s) (hs : s.state ≠ .peer) : Plain s.toSession :=
  ⟨h.errFunc, h.worker hs, h.ok hs⟩

/-- PEER state is reached. -/
theorem of_peer (hs : s.state = .peer) (he : s.onErrFuncSet = true)
    (hf : s.connOnDoneFuncOrEmpty = none) : Waits s where
  errFunc := he
  pending := fun h => absurd hf h
  worker := fun hn => absurd hs hn
  ok := fun hn => absurd hs hn
  null := fun hn => by rw [hs] at hn; cases hn
  connecting := fun hn => by rw [hs] at hn; cases hn

/-- NULL state is reached. -/
theorem of_null (hs : s.state = .null) (hp : Plain s.toSession)
    (hf : s.connOnDoneFuncOrEmpty = none)
    (hm : ∀ ch, s.masterChannel = some ch →
      ch.hosed = true ∧ ∀ t ∈ s.queue, t.isMasterChannelError = false) : Waits s where
  errFunc := hp.errFunc
  pending := fun h => absurd hf h
  worker := fun _ => hp.worker
  ok := fun _ => hp.ok
  null := fun _ => hm
  connecting := fun hn => by rw [hs] at hn; cases hn

/-- NULL state is reached, and the channel is gone. -/
theorem of_dropped (hs : s.state = .null) (hp : Plain s.toSession)
    (hf : s.connOnDoneFuncOrEmpty = none) (hm : s.masterChannel = none) : Waits s :=
  .of_null hs hp hf fun ch hch => by rw [hm] at hch; cases hch

/-- The attempt is under way. -/
theorem of_connecting (hs : s.state = .connecting) (hp : Plain s.toSession)
    (hc : ∀ ch, s.masterChannel = some ch → ch.hosed = false → AwaitsServer s ch) : Waits s where
  errFunc := hp.errFunc
  pending := fun _ => hs
  worker := fun _ => hp.worker
  ok := fun _ => hp.ok
  null := fun hn => by rw [hs] at hn; cases hn
  connecting := fun _ => hc

/-- Code that is not of connecting keeps it. -/
theorem aside {b : Session} (h : Waits s) (hb : s.toSession.Aside b) : Waits (s.setSession b) where
  errFunc := hb.errFunc.trans h.errFunc
  pending := h.pending
  -- A step aside puts no thread into sync_request().
  worker := fun hn => by
    cases hw : b.w.inSync with
    | false => exact hw
    | true =>
      have hold := h.worker hn
      rw [hb.worker hw] at hold
      cases hold
  ok := fun hn => hb.ok.trans (h.ok hn)
  -- A channel left in NULL state is hosed, and its error was reported.
  null := fun hs ch' hm' => by
    obtain ⟨ch, hm, -, hh⟩ := hb.channel ch' hm'
    obtain ⟨hhosed, hq⟩ := h.null hs ch hm
    refine ⟨hh hhosed, fun t ht => ?_⟩
    cases he : t.isMasterChannelError with
    | false => rfl
    | true =>
      have hold := hb.errors (fun c hc => by rw [hm] at hc; cases hc; exact hhosed) t ht he
      rw [hq t hold] at he
      cases he
  -- What a connect under way waits for is not taken from it.
  connecting := fun hs ch' hm' hh' => by
    obtain ⟨ch, hm, ho, hh⟩ := hb.channel ch' hm'
    have hno : ch.hosed = false := by
      cases hc : ch.hosed with
      | false => rfl
      | true =>
        rw [hh hc] at hh'
        cases hh'
    obtain ⟨hreq, hhandler, hstage⟩ := h.connecting hs ch hm hno
    refine ⟨fun t ht => ?_, ho ▸ hhandler, ?_⟩
    · cases hr : t.isOpenChannelReq with
      | false => rfl
      | true =>
        rcases hb.reqs t ht hr with hold | ⟨c, hc, hco⟩
        · rw [hreq t hold] at hr
          cases hr
        · rw [hm] at hc
          cases hc
          exact absurd hco hhandler
    · refine hstage.imp (fun hl => lt_of_lt_of_le hl hb.logIns) ?_
      rintro ⟨cap, hcap, hmore⟩
      exact ⟨cap, ho.trans hcap, hmore⟩

end Waits

/-! ### What a step does to the attempt -/

/-- What the record of `s'` has more than that of `s`, of the ends of attempts. -/
def Codes (s s' : Client) (codes : List ErrorCode) : Prop :=
  ∃ es, s'.log = s.log ++ es ∧ es.filterMap Event.connectCode = codes

/-- What a step does to the attempt under way; `starts` says that it starts one. -/
inductive Went (starts : Prop) (s s' : Client) : Prop
  | stays (hn : ¬ starts) (hs' : s'.state = s.state) (hl : Codes s s' [])
  | begins (hn : starts) (hs' : s'.state = .connecting) (hl : Codes s s' [])
  | fails (hn : starts ∨ s.state = .connecting) (hs' : s'.state = .null) (e : Err)
      (hl : Codes s s' [some e])
  | succeeds (hn : ¬ starts) (hs : s.state = .connecting) (hs' : s'.state = .peer)
      (hl : Codes s s' [none])

/-- Code that ends no attempt before does not matter. -/
theorem Codes.after {codes : List ErrorCode} (h : Codes s₁ s' codes) (h₁ : Codes s s₁ []) :
    Codes s s' codes := by
  obtain ⟨es, hl, hes⟩ := h
  obtain ⟨es₁, hl₁, hes₁⟩ := h₁
  exact ⟨es₁ ++ es, by rw [hl, hl₁, List.append_assoc],
    by rw [List.filterMap_append, hes₁, hes]; rfl⟩

/-- One more end is recorded. -/
theorem Codes.snoc {e : ErrorCode} {out : OutArgs} (h : Codes s s₁ [])
    (hl : s'.log = s₁.log ++ [.connectDone e out]) : Codes s s' [e] := by
  obtain ⟨es, hl₁, hes⟩ := h
  exact ⟨es ++ [.connectDone e out], by rw [hl, hl₁, List.append_assoc], by
    rw [List.filterMap_append, hes]; rfl⟩

/-- Nor does it to where the attempt went. -/
theorem Went.after (h : Went starts s₁ s') (hs : s₁.state = s.state) (hl : Codes s s₁ []) :
    Went starts s s' := by
  cases h with
  | stays hn hs' hl' => exact .stays hn (hs'.trans hs) (hl'.after hl)
  | begins hn hs' hl' => exact .begins hn hs' (hl'.after hl)
  | fails hn hs' e hl' => exact .fails (hn.imp id fun h => hs ▸ h) hs' e (hl'.after hl)
  | succeeds hn hs₁ hs' hl' => exact .succeeds hn (hs ▸ hs₁) hs' (hl'.after hl)

end Client

end IpcSession
