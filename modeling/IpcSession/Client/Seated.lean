import IpcSession.Client.Results
import IpcSession.Client.Stages

namespace IpcSession

/-!
# Where a client can do what

* `Client.Seated` — what every step keeps, whatever the server, the channel and a sub-class do:
  outside of NULL state there is a channel, thread W waits in `sync_request()` in PEER state only,
  and there only is a finisher engaged.
* `Client.StepResult` — what a step can come to, with the code of PEER state apart from what can
  happen in any state.
-/

/-- The marks that code of any state can bring. -/
def Mark.isAnywhere : Mark → Bool
  | arrive _ => true
  | transmit _ => true
  | call (.sessionTokenReturned _) => true
  | call (.openChannelReturned ..) => true
  | _ => false

namespace Session

variable {s s' : Session} {l : Option Mark} {L : Mark → Prop}

/-- Thread W goes into `sync_request()`, or comes out of it, by a mark of its own only. -/
theorem Update.inSync (h : Update s l s') (hl : ∀ w, l ≠ some (.setW w)) :
    s'.w.inSync = s.w.inSync := by
  cases h with
  | setW hs hw hi => exact absurd rfl (hl _)
  | nickname active => cases active <;> rfl
  | takeBuilder hd =>
    obtain ⟨-, rfl⟩ := takeBuilder_done hd
    rfl
  | useBuilder hd =>
    obtain ⟨-, rfl⟩ := takeBuilder_done hd
    rfl
  | gotRsp hw m =>
    rw [hw]
    rfl
  | takeTask hdt hd =>
    obtain ⟨-, -, hs⟩ := takeTask_done hd
    rw [hs]
  | _ => rfl

/-- So does the finisher. -/
theorem Update.finisher (h : Update s l s') (hl : l ≠ some .finisher) :
    s'.gracefulFinisher = s.gracefulFinisher := by
  cases h with
  | setFinisher => exact absurd rfl hl
  | nickname active => cases active <;> rfl
  | takeBuilder hd =>
    obtain ⟨-, rfl⟩ := takeBuilder_done hd
    rfl
  | useBuilder hd =>
    obtain ⟨-, rfl⟩ := takeBuilder_done hd
    rfl
  | takeTask hdt hd =>
    obtain ⟨-, -, hs⟩ := takeTask_done hd
    rw [hs]
  | _ => rfl

/-- Updates of other things leave thread W where it waits. -/
theorem Updates.inSync (h : Updates L s s') (hL : ∀ w, ¬ L (.setW w)) : s'.w.inSync = s.w.inSync :=
  h.keeps (P := fun b => b.w.inSync = s.w.inSync) rfl fun _ _ _ hb hl hu =>
    (hu.inSync fun w he => hL w (hl _ he)).trans hb

/-- Updates without the mark of the finisher leave the finisher alone. -/
theorem Updates.finisher (h : Updates L s s') (hL : ¬ L .finisher) :
    s'.gracefulFinisher = s.gracefulFinisher :=
  h.keeps (P := fun b => b.gracefulFinisher = s.gracefulFinisher) rfl fun _ _ _ hb hl hu =>
    (hu.finisher fun he => hL (hl _ he)).trans hb

/-- The destructor does not make thread W wait. -/
theorem DtorAct.inSync (h : s.DtorAct s') (hs : s.w.inSync = false) : s'.w.inSync = false := by
  cases h with
  | flushDone => rfl
  | stop => rfl
  | _ => exact hs

/-- What it does in thread U leaves the channel alone. -/
theorem DtorAct.masterChannel (h : s.DtorAct s') : s'.masterChannel = s.masterChannel := by
  cases h <;> rfl

/-- And the finisher. -/
theorem DtorAct.finisher (h : s.DtorAct s') : s'.gracefulFinisher = s.gracefulFinisher := by
  cases h <;> rfl

end Session

namespace Client

variable {cfg : Cfg} {s s' t : Client} {o : ClientOracle} {L : Mark → Prop} {f : OnDone} {a : Act}

/-- Outside of NULL state there is a channel, and some things there are in PEER state only. -/
structure Seated (s : Client) : Prop where
  placed : Placed s
  worker : s.state ≠ .peer → s.w.inSync = false
  finisher : s.state ≠ .peer → s.gracefulFinisher = none

namespace Seated

/-- In NULL state there need be no channel. -/
theorem fresh (passiveOpen : Bool) : Seated (fresh passiveOpen) where
  placed := .null rfl
  worker := fun _ => rfl
  finisher := fun _ => rfl

/-- What it speaks of stays. -/
theorem of_same (h : Seated s) (hst : s'.state = s.state)
    (hf : s'.connOnDoneFuncOrEmpty = s.connOnDoneFuncOrEmpty)
    (hm : s'.masterChannel.isSome = s.masterChannel.isSome)
    (hw : s'.state ≠ .peer → s.w.inSync = false → s'.w.inSync = false)
    (hg : s'.state ≠ .peer → s.gracefulFinisher = none → s'.gracefulFinisher = none) :
    Seated s' where
  placed := by
    refine ⟨fun hs => ?_, fun hs => ?_⟩
    · rw [hf, hm]
      exact h.placed.connecting (hst ▸ hs)
    · rw [hm]
      exact h.placed.peer (hst ▸ hs)
  worker := fun hs => hw hs (h.worker (hst ▸ hs))
  finisher := fun hs => hg hs (h.finisher (hst ▸ hs))

/-- Session code that says so keeps it. -/
theorem session {b : Session} (h : Seated s) (hu : s.toSession.Updates L b)
    (hL : s.state = .peer ∨ (∀ w, ¬ L (.setW w)) ∧ ¬ L .finisher) : Seated (s.setSession b) := by
  refine h.of_same rfl rfl hu.tame.channel (fun hs hw => ?_) fun hs hg => ?_
  · exact (hu.inSync (hL.resolve_left hs).1).trans hw
  · exact (hu.finisher (hL.resolve_left hs).2).trans hg

/-- What is seated does not depend on names and out-arguments. -/
theorem alike (h : Seated s) (ha : Alike s t) : Seated t :=
  h.of_same ha.state ha.onDone (by rw [ha.channel]) (fun _ hw => by rw [ha.worker]; exact hw)
    fun _ hg => ha.finisher.trans hg

/-- NULL state. -/
theorem null (hs : s.state = .null) (hw : s.w.inSync = false) (hg : s.gracefulFinisher = none) :
    Seated s where
  placed := .null hs
  worker := fun _ => hw
  finisher := fun _ => hg

/-- An attempt that is given up leaves NULL state. -/
theorem givenUp (h : Seated s) (hs : s.state = .connecting) (f : OnDone) (e : Err) :
    Seated (s.givenUp f e) :=
  have hp : s.state ≠ .peer := by rw [hs]; exact fun hn => by cases hn
  .null rfl (h.worker hp) (h.finisher hp)

end Seated

/-- An attempt that has succeeded. -/
theorem SuccessResult.seated {c : Bool} (h : Seated s) (hs : s.state = .connecting)
    (hr : SuccessResult s f c s') : Seated s' := by
  have hp : s.state ≠ .peer := by rw [hs]; exact fun hn => by cases hn
  have hm := (h.placed.connecting hs).2
  cases hr with
  | reported =>
    exact ⟨⟨fun hn => (by cases hn), fun _ => hm⟩, fun hn => absurd rfl hn, fun hn => absurd rfl hn⟩
  | dropped => exact .null rfl (h.worker hp) (h.finisher hp)
  | takenOver =>
    exact ⟨⟨fun _ => ⟨rfl, hm⟩, fun hn => (by cases hn)⟩, fun _ => h.worker hp,
      fun _ => h.finisher hp⟩

/-- The channel fails. -/
theorem Refused.seated {ch : MasterChannel} {b : Session} (h : Seated s)
    (hm : s.masterChannel = some ch) (hr : Refused s.toSession ch b) : Seated (s.setSession b) := by
  cases hr with
  | old => exact h.of_same rfl rfl rfl (fun _ => id) fun _ => id
  | new hh e => exact h.of_same rfl rfl (by rw [hm]; rfl) (fun _ => id) fun _ => id

/-- `async_connect()` makes the channel before it leaves NULL state. -/
theorem AsyncConnectResult.seated {attempt : Nat} {subClass : Bool} {b : Builder} (h : Seated s)
    (hr : AsyncConnectResult cfg attempt subClass b o s s') : Seated s' := by
  have hnull : s.state = .null → s.w.inSync = false ∧ s.gracefulFinisher = none := fun hs => by
    have hp : s.state ≠ .peer := by rw [hs]; exact fun hn => by cases hn
    exact ⟨h.worker hp, h.finisher hp⟩
  cases hr with
  | ignored hs => exact h.of_same rfl rfl rfl (fun _ => id) fun _ => id
  | cnsFailed hs e hc => exact .null rfl (hnull hs).1 (hnull hs).2
  | sockFailed hs pid hc hn hf e hsock => exact .null rfl (hnull hs).1 (hnull hs).2
  | sendFailed hs pid hc hn hf hm t ht ch hch e hsend =>
    subst ht
    exact .null rfl (hnull hs).1 (hnull hs).2
  | refused hs pid hc hn hf hm t ht ch hch e hsend =>
    subst ht
    exact ⟨⟨fun _ => ⟨rfl, rfl⟩, fun hn => (by cases hn)⟩, fun _ => (hnull hs).1,
      fun _ => (hnull hs).2⟩
  | sent hs pid hc hn hf hm t ht ch hch hsend =>
    subst ht
    exact ⟨⟨fun _ => ⟨rfl, rfl⟩, fun hn => (by cases hn)⟩, fun _ => (hnull hs).1,
      fun _ => (hnull hs).2⟩

/-- The log-in response leaves a channel in CONNECTING or PEER state, or NULL state. -/
theorem LogInRspResult.seated {m : Msg} {attempt : Nat} (h : Seated s) (hs : s.state = .connecting)
    (hr : LogInRspResult cfg m attempt o s s') : Seated s' := by
  cases hr with
  | rejected ha hf e => exact (h.alike ha).givenUp (ha.state.trans hs) _ e
  | refused ha hm hb => exact hb.seated (h.alike ha) (ha.channel.trans hm)
  | expects ha hm hh cap =>
    exact (h.alike ha).of_same rfl rfl (by rw [ha.channel, hm]; rfl) (fun _ => id) fun _ => id
  | @succeeds t ha ch hm hh r hr hacc hn ho f hf s' hs' =>
    have hflush : Seated (t.setSession (t.flushTo ch .openChannelReq)) :=
      (h.alike ha).of_same rfl rfl (by rw [ha.channel, hm]; rfl) (fun _ => id) fun _ => id
    exact hs'.seated hflush (ha.state.trans hs)

/-- A call that is refused leaves the channel there. -/
theorem CompleteRefused.seated {ch : MasterChannel} {b : Session} (h : Seated s)
    (hm : s.masterChannel = some ch) (hr : CompleteRefused s.toSession ch b) :
    Seated (s.setSession b) := by
  cases hr with
  | undo hb => exact hb.seated h hm
  | expect hh e => exact h.of_same rfl rfl (by rw [hm]; rfl) (fun _ => id) fun _ => id
  | send hh e => exact h.of_same rfl rfl (by rw [hm]; rfl) (fun _ => id) fun _ => id

/-- So it is with an init-channel. -/
theorem InitOpenChannelResult.seated {m : Msg} {cap : InitCapture} (h : Seated s)
    (hs : s.state = .connecting) (hr : InitOpenChannelResult m cap o s s') : Seated s' := by
  have hp : s.state ≠ .peer := by rw [hs]; exact fun hn => by cases hn
  cases hr with
  | waits ha => exact h.alike ha
  | refused ha hm hb => exact hb.seated (h.alike ha) (ha.channel.trans hm)
  | failed ha hm hh hf e =>
    refine .null rfl ?_ ((h.alike ha).finisher (by rw [ha.state]; exact hp))
    exact (h.alike ha).worker (by rw [ha.state]; exact hp)
  | @succeeds t ha ch hm hh hl hu he hd msg u hu' f hf s' hs' =>
    have hsent : Seated (t.setSession ((swapHandlers ch t.toSession).transmit (swapped ch) msg)) :=
      (h.alike ha).of_same rfl rfl (by rw [ha.channel, hm]; rfl) (fun _ => id) fun _ => id
    exact hs'.seated (hsent.alike hu') (hu'.state.trans (ha.state.trans hs))

/-- The report of an error gives the channel up in CONNECTING state only. -/
theorem ErrorResult.seated {chan : Nat} {e : Err} (h : Seated s)
    (hr : ErrorResult cfg chan e s s') :
    Seated s' := by
  cases hr with
  | other hc => exact h
  | failed hc hs hf => exact h.givenUp hs _ e
  | peer hs hb =>
    exact h.session (L := Mark.any) (Session.onMasterChannelErrorPeer_updates trivial trivial hb)
      (.inl hs)

/-- A sub-class's completion gives it up, or keeps it. -/
theorem CompleteResult.seated {r : Ret} {e : ErrorCode} (h : Seated s) (hs : s.state = .connecting)
    (hr : CompleteResult r s e s') : Seated s' := by
  cases hr with
  | failed hf e => exact h.givenUp hs _ e
  | @succeeds b hb f hf =>
    have hm := (h.placed.connecting hs).2
    have hm' : b.masterChannel.isSome = true := by
      rcases hb with rfl | hb
      · exact hm
      · exact (Session.emplaceGracefulFinisher_updates (L := Mark.any) trivial
          hb).tame.channel.trans hm
    exact ⟨⟨fun hn => (by cases hn), fun _ => hm'⟩, fun hn => absurd rfl hn,
      fun hn => absurd rfl hn⟩

/-! ### A step -/

/-- What a step can come to. -/
inductive StepResult (cfg : Cfg) (s : Client) : Act → Client → Prop
  /-- Session code of any state. -/
  | anywhere {a : Act} {b : Session}
      (hn : ∀ o, a = .run o → s.queue.head?.any Task.isAsyncConnect = false)
      (h : s.toSession.Updates (fun k => k.isAnywhere = true) b) :
        StepResult cfg s a (s.setSession b)
  /-- Session code of PEER state. -/
  | inPeer {a : Act} {b : Session} (hs : s.state = .peer)
      (h : s.toSession.Updates (· ≠ .expect) b) :
      StepResult cfg s a (s.setSession b)
  /-- Thread U calls `sync_connect()`. -/
  | called {call attempt : Nat} {out : OutArgs} {subClass : Bool} {b : Session} {bl : Builder}
      (h : s.takeBuilder call = .done (some bl, b)) :
      StepResult cfg s (.connect call attempt out subClass)
        (((s.setSession b).setOut attempt out).post (.asyncConnect attempt subClass bl))
  /-- Thread W handles a request for an open channel. -/
  | request {o : ClientOracle} {chan : Nat} {m : Msg} {b b' : Session}
      (ht : s.takeTask = .done (.openChannelReq chan m, b))
      (h : onMasterChannelOpenChannelReq cfg m o b = .done b') :
      StepResult cfg s (.run o) (s.setSession b')
  | connects {o : ClientOracle} {attempt : Nat} {subClass : Bool} {bl : Builder} {b : Session}
      {s' : Client} (ht : s.takeTask = .done (.asyncConnect attempt subClass bl, b))
      (h : AsyncConnectResult cfg attempt subClass bl o (s.setSession b) s') :
      StepResult cfg s (.run o) s'
  | logInRsp {o : ClientOracle} {chan attempt : Nat} {m : Msg} {b : Session} {s' : Client}
      (ht : s.takeTask = .done (.logInRsp chan m attempt, b)) (hs : s.state = .connecting)
      (h : LogInRspResult cfg m attempt o (s.setSession b) s') : StepResult cfg s (.run o) s'
  | initOpenChannel {o : ClientOracle} {chan : Nat} {m : Msg} {cap : InitCapture} {b : Session}
      {s' : Client} (ht : s.takeTask = .done (.initOpenChannel chan m cap, b))
      (hs : s.state = .connecting) (h : InitOpenChannelResult m cap o (s.setSession b) s') :
      StepResult cfg s (.run o) s'
  | error {o : ClientOracle} {chan : Nat} {e : Err} {b : Session} {s' : Client}
      (ht : s.takeTask = .done (.masterChannelError chan e, b))
      (h : ErrorResult cfg chan e (s.setSession b) s') : StepResult cfg s (.run o) s'
  /-- A sub-class completes the connect that it has taken over. -/
  | completed {e : ErrorCode} {r : Ret} {s' : Client} (ht : s.takenOver = true)
      (hp : s.peerStateErrCodeOrOk = none) (h : CompleteResult r s e s') :
      StepResult cfg s (.complete e r) s'
  | dtorAct {a : Act} {b : Session} (hn : ∀ o, a ≠ .run o) (h : s.toSession.DtorAct b) :
      StepResult cfg s a (s.setSession b)
  | dtorTask {o : ClientOracle} {t : Task} {b b' : Session} (ht : s.takeTask = .done (t, b))
      (h : b.DtorTask t b') : StepResult cfg s (.run o) (s.setSession b')

/-- Where thread W works in PEER state only, and a finisher is there only. -/
theorem runTask_result {t : Task} {b : Session} (h : Seated s) (ht : s.takeTask = .done (t, b))
    (hd : (s.setSession b).runTask cfg o t = .done s') : StepResult cfg s (.run o) s' := by
  obtain ⟨hw, hq, hbs⟩ := Session.takeTask_done ht
  have hwb : b.w = .idle := by rw [hbs]; exact hw
  cases hdt : t.isDtor with
  | true =>
    cases t with
    | dtorFinisherQuery => cases hd; exact .dtorTask ht .finisherQuery
    | dtorSendEnd =>
      obtain ⟨b', hb', rfl⟩ := liftUnit_done hd
      exact .dtorTask (s := s) ht (Session.dtorSendEnd_task hb')
    | dtorFlush => cases hd; exact .dtorTask ht (Session.dtorFlush_task _)
    | _ => cases hdt
  | false =>
    have htake : ∀ {L : Mark → Prop}, s.toSession.Updates L b := .of (.takeTask hdt ht)
    cases t with
    | masterChannelError chan e => exact .error ht (onMasterChannelError_result hd)
    | logInRsp chan m attempt =>
      obtain ⟨hs, hr⟩ := onMasterChannelLogInRsp_result hd
      exact .logInRsp ht hs hr
    | initOpenChannel chan m cap =>
      obtain ⟨hs, hr⟩ := onMasterChannelInitOpenChannel_result hd
      exact .initOpenChannel ht hs hr
    | openChannelReq chan m =>
      obtain ⟨b', hb', rfl⟩ := liftUnit_done hd
      exact .request (s := s) ht hb'
    -- The handler requires an unfulfilled finisher, which only a session in PEER state has.
    | gracefulSessionEnd chan =>
      obtain ⟨b', hb', rfl⟩ := liftUnit_done hd
      obtain ⟨hf, -⟩ := Session.onGracefulSessionEnd_done hb'
      have hf : b.gracefulFinisher = some false := hf
      have hs : s.state = .peer := by
        by_contra hp
        have hnone := h.finisher hp
        rw [hbs] at hf
        rw [hnone] at hf
        cases hf
      have hrun : b.Updates (· ≠ .expect) b' :=
        Session.onGracefulSessionEnd_updates (fun hn => by cases hn) (fun hn => by cases hn) hb'
      exact .inPeer (s := s) hs (htake.trans hrun)
    | asyncConnect attempt subClass bl => exact .connects ht (asyncConnect_done hd)
    -- Allowed in any state: it hands out a builder or nothing.
    | mdtBuilder call mdt =>
      simp only [runTask, mdtBuilder] at hd
      split at hd <;> cases hd <;>
        exact .anywhere (s := s) (fun _ _ => by rw [hq]; rfl)
          (htake.tail (.giveBuilder _ fun bl h => by cases h <;> rfl))
    | openChannel call bl =>
      obtain ⟨b', hb', rfl⟩ := liftUnit_done hd
      obtain ⟨hs, -⟩ := Session.openChannelBody_done hb'
      have hrun : b.Updates (· ≠ .expect) b' :=
        Session.openChannelBody_updates (fun k hk hn => by subst hn; cases hk)
          (fun id hn => by cases hn) hwb hb'
      exact .inPeer (s := s) (of_decide_eq_true hs) (htake.trans hrun)
    -- Outside PEER state the nil token; in PEER state the session's own.
    | sessionToken =>
      simp only [runTask, sessionToken] at hd
      split at hd
      · cases hd
        exact .anywhere (s := s) (fun _ _ => by rw [hq]; rfl)
          (htake.tailMark (k := .call (.sessionTokenReturned true)) rfl (.record rfl))
      · obtain ⟨b', hb', rfl⟩ := liftUnit_done hd
        have hrun : b.Updates (fun k => k.isAnywhere = true) b' :=
          Session.sessionToken_updates (fun _ => rfl) hb'
        exact .anywhere (s := s) (fun _ _ => by rw [hq]; rfl) (htake.trans hrun)
    | dtorFinisherQuery => cases hdt
    | dtorSendEnd => cases hdt
    | dtorFlush => cases hdt
    -- The server's tasks: a client never runs them.
    | logInReq => cases hd
    | acceptLogIn => cases hd
    | initHandlers => cases hd
    | preInitError => cases hd

/-- Every step is one of the cases of `StepResult`. -/
theorem step_result (h : Seated s) (hd : step cfg s a = .done s') : StepResult cfg s a s' := by
  cases a with
  | mdtBuilder call mdt =>
    simp only [step, Outcome.bind_eq_done] at hd
    obtain ⟨-, -, hd⟩ := hd
    cases hd
    exact .anywhere (s := s) (fun _ h => by cases h) (.of (.post rfl))
  -- connect() requires a builder of its own; without one the user broke the rule and the step is
  -- not done.
  | connect call attempt out subClass =>
    simp only [step, connect, Outcome.bind_eq_done, Prod.exists] at hd
    obtain ⟨-, -, bl, s₁, h₁, hd⟩ := hd
    obtain ⟨b, hb, rfl⟩ := lift_done h₁
    cases bl with
    | none => cases hd
    | some bl =>
      simp only [Outcome.bind_eq_done] at hd
      obtain ⟨-, -, hd⟩ := hd
      cases hd
      exact .called hb
  -- Allowed in every state: the call posts, and thread W decides what it finds.
  | openChannel call =>
    simp only [step, Outcome.bind_eq_done] at hd
    obtain ⟨-, -, hd⟩ := hd
    obtain ⟨b, hb, rfl⟩ := liftUnit_done hd
    simp only [openChannel, Outcome.bind_eq_done, Prod.exists] at hb
    obtain ⟨bl, b₁, h₁, hb⟩ := hb
    cases bl with
    | none =>
      cases hb
      have htake : s.toSession.Updates (fun k => k.isAnywhere = true) b₁ := .of (.takeBuilder h₁)
      exact .anywhere (fun _ h => by cases h)
        (htake.tailMark (k := .call (.openChannelReturned call none false none none)) rfl
          Session.returned_update)
    | some bl =>
      cases hb
      exact .anywhere (fun _ h => by cases h) (.of (.useBuilder h₁))
  | sessionToken =>
    simp only [step, Outcome.bind_eq_done] at hd
    obtain ⟨-, -, hd⟩ := hd
    cases hd
    exact .anywhere (s := s) (fun _ h => by cases h) (.of (.post rfl))
  | run o =>
    simp only [step, Outcome.bind_eq_done, Prod.exists] at hd
    obtain ⟨t, s₁, h₁, hd⟩ := hd
    obtain ⟨b, hb, rfl⟩ := lift_done h₁
    exact runTask_result h hb hd
  -- Thread W waits in sync_request() only in PEER state.
  | syncReturn r mqOpen =>
    simp only [step] at hd
    split at hd
    · rename_i hw
      obtain ⟨b, hb, rfl⟩ := liftUnit_done hd
      have hserv : s.w.isServing = true := by rw [hw]; rfl
      have hs : s.state = .peer := by
        by_contra hp
        have hno := h.worker hp
        rw [hw] at hno
        cases hno
      exact .inPeer hs (openChannelSyncReturn_updates (fun k hk hn => by subst hn; cases hk) hserv
        hb)
    · cases hd
  | subClassSend r =>
    simp only [step, Outcome.bind_eq_done, Prod.exists] at hd
    obtain ⟨-, -, c, s₁, h₁, hd⟩ := hd
    obtain ⟨b, hb, rfl⟩ := lift_done h₁
    obtain ⟨ch, hm, hr⟩ := Session.send_done hb
    cases hd
    exact .anywhere (fun _ h => by cases h) (hr.updates (fun _ => rfl) hm)
  -- A sub-class completes the connect it took over.
  | complete e r =>
    simp only [step, Outcome.bind_eq_done, Outcome.require_eq_done, Bool.and_eq_true] at hd
    obtain ⟨-, ⟨ht, hp⟩, hd⟩ := hd
    exact .completed ht (Option.isNone_iff_eq_none.mp hp) (complete_result hd)
  | deliver m =>
    obtain ⟨b, hb, rfl⟩ := liftUnit_done hd
    exact .anywhere (fun _ h => by cases h) (Session.deliver_updates rfl hb)
  | channelError e =>
    obtain ⟨b, hb, rfl⟩ := liftUnit_done hd
    exact .anywhere (fun _ h => by cases h) (Session.channelError_updates hb)
  | dtorStart =>
    obtain ⟨b, hb, rfl⟩ := liftUnit_done hd
    exact .dtorAct (fun _ h => by cases h) (Session.dtorStart_act hb)
  | dtorStep =>
    obtain ⟨b, hb, rfl⟩ := liftUnit_done hd
    exact .dtorAct (fun _ h => by cases h) (Session.dtorStep_act hb)
  | flushDone =>
    obtain ⟨b, hb, rfl⟩ := liftUnit_done hd
    exact .dtorAct (fun _ h => by cases h) (Session.dtorFlushDone_act hb)

/-- Thread W takes a task. -/
theorem Seated.takeTask {t : Task} {b : Session} (h : Seated s) (ht : s.takeTask = .done (t, b)) :
    Seated (s.setSession b) := by
  obtain ⟨-, -, hb⟩ := Session.takeTask_done ht
  have hm : b.masterChannel = s.masterChannel := by rw [hb]
  refine h.of_same rfl rfl ?_ (fun _ hw => ?_) fun _ hg => ?_
  · exact congrArg Option.isSome hm
  · show b.w.inSync = false
    rw [hb]
    exact hw
  · show b.gracefulFinisher = none
    rw [hb]
    exact hg

/-- **Every step keeps it.** -/
theorem StepResult.seated (h : Seated s) (hr : StepResult cfg s a s') : Seated s' := by
  cases hr with
  | anywhere hn hu => exact h.session hu (.inr ⟨fun w hw => (by cases hw), fun hf => (by cases hf)⟩)
  | inPeer hs hu => exact h.session hu (.inl hs)
  | called ht =>
    have htake : Seated _ := h.session (L := fun _ => False) (.of (.takeBuilder ht))
      (.inr ⟨fun _ => id, id⟩)
    exact htake.of_same rfl rfl rfl (fun _ => id) fun _ => id
  | @request o chan m b b' ht hd =>
    -- The mark in the log is neither a wait nor a finisher.
    have hmark : Seated ((s.setSession b).record (.openChannelReqRan m.id)) :=
      (h.takeTask ht).of_same rfl rfl rfl (fun _ => id) fun _ => id
    have hrun := onMasterChannelOpenChannelReq_session
      (L := fun k => k.isRespond = true ∨ k.isAnywhere = true) (fun _ => .inl)
        (fun _ _ _ => .inr rfl) hd
    refine hmark.session hrun (.inr ⟨fun w => ?_, ?_⟩)
    · rintro (hw | hw) <;> cases hw
    · rintro (hf | hf) <;> cases hf
  | connects ht hr => exact hr.seated (h.takeTask ht)
  | logInRsp ht hs hr => exact hr.seated (h.takeTask ht) hs
  | initOpenChannel ht hs hr => exact hr.seated (h.takeTask ht) hs
  | error ht hr => exact hr.seated (h.takeTask ht)
  | completed ht hp hr => exact hr.seated h (takenOver_state ht)
  | dtorAct hn hact =>
    exact h.of_same rfl rfl (by rw [setSession_toSession, hact.masterChannel])
      (fun _ => hact.inSync) fun _ => hact.finisher.trans
  | @dtorTask o t b b' ht htask =>
    have hb := h.takeTask ht
    cases htask with
    | finisherQuery => exact hb.of_same rfl rfl rfl (fun _ => id) fun _ => id
    | @sendEnd b₁ hf hu hw =>
      -- The destructor's message starts no wait and puts no finisher in place.
      have hsent : Seated (s.setSession b₁) := by
        refine Seated.session (s := s.setSession b) hb hu (.inr ⟨fun w hn => ?_, fun hn => ?_⟩)
        · cases hn
        · cases hn
      exact hsent.of_same rfl rfl rfl (fun _ => id) fun _ => id
    | noChannel hm => exact hb.of_same rfl rfl rfl (fun _ => id) fun _ => id
    | flush hm willRun => exact hb.of_same rfl rfl rfl (fun _ _ => rfl) fun _ => id

/-- And keeps what there is outside of NULL state. -/
theorem step_seated (h : Seated s) (hd : step cfg s a = .done s') : Seated s' :=
  (step_result h hd).seated h

end Client

end IpcSession
