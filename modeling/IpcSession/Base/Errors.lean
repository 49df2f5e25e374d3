import IpcSession.Base.Frame

namespace IpcSession

/-!
# What session code does about errors

The channel emits at most one hosing error: through its on-error handler, which posts a task, or
out of a call made on it, and then the code that made the call must see to it.  `Session.Did F s s'`
says what a piece of the common session code can do about errors (`F` is what its caller knows
when a call emits one), with `Session.Quiet` for all that does nothing about them.  Each piece of
code has one lemma; what holds of errors over a run is derived from these.
-/

namespace Event

/-- The channel emits its hosing error. -/
def isChannelError : Event → Bool
  | channelError .. => true
  | _ => false

/-- The on-error handler runs. -/
def isOnErr : Event → Bool
  | onErr .. => true
  | _ => false

/-- An `open_channel()` that returns `false` without code or channel. -/
def returnsNothing : Event → Bool
  | openChannelReturned _ _ ret err target => !ret && err.isNone && target.isNone
  | _ => false

/-- What session code records, apart from errors: in a hosed session there is no passive open, and
    `open_channel()` returns nothing, unless it finds the builder blank. -/
def calm (hosed : Bool) : Event → Bool
  | channelError .. => false
  | onErr .. => false
  | logInDone .. => false
  | passiveOpen .. => !hosed
  | openChannelReturned call req ret err target =>
    !hosed || (openChannelReturned call req ret err target).returnsNothing ||
      (req.isNone && err = some .sessionOpenChannelServerCannotProceedResourceUnavailable &&
        target.isNone)
  | _ => true

end Event

/-- The tasks that common session code may post; not those that report an error of the channel, nor
    those that take a server from one phase to the next. -/
def Task.calm : Task → Bool
  | masterChannelError .. => false
  | preInitError => false
  | acceptLogIn => false
  | initHandlers _ => false
  | _ => true

/-- A request of the peer's makes nothing of an error. -/
@[simp] theorem OpenReqHandler.task_calm (h : OpenReqHandler) (chan : Nat) (m : Msg) :
    (h.task chan m).calm = true := by
  cases h <;> rfl

/-- Thread U is in the destructor, and thread W is not stopped yet. -/
def Dtor.running : Dtor → Bool
  | notStarted => false
  | stopped => false
  | returned => false
  | _ => true

/-- Thread U has stopped thread W. -/
def Dtor.halted : Dtor → Bool
  | stopped => true
  | returned => true
  | _ => false

/-- A destructor that is under way still has a thread W to run things. -/
theorem Dtor.halted_of_running {d : Dtor} (h : d.running = true) : d.halted = false := by
  cases d <;> first | rfl | cases h

/-- Thread W waits in `open_channel()`. -/
def Worker.inOpenChannel : Worker → Bool
  | inSyncRequest (.openChannel ..) _ _ => true
  | _ => false

/-- Thread W waits in `sync_request()`. -/
def Worker.inSync : Worker → Bool
  | inSyncRequest .. => true
  | _ => false

namespace Session

variable {F : Prop} {s s' s'' : Session} {ch : MasterChannel} {r : Ret} {c : Called} {cfg : Cfg}

/-- What of the channel matters for errors. -/
def errorState (s : Session) : Option (Nat × Bool) :=
  s.masterChannel.map (fun ch => (ch.id, ch.hosed))

/-- Nothing happens to errors. -/
structure Quiet (s s' : Session) : Prop where
  onErrFuncSet : s'.onErrFuncSet = s.onErrFuncSet
  peerStateErrCodeOrOk : s'.peerStateErrCodeOrOk = s.peerStateErrCodeOrOk
  gracefulFinisher : s'.gracefulFinisher = s.gracefulFinisher
  channel : s'.errorState = s.errorState
  queue : ∃ ts, s'.queue = s.queue ++ ts ∧ ∀ t ∈ ts, t.calm = true
  log : ∃ es, s'.log = s.log ++ es ∧ ∀ e ∈ es, e.calm s.peerStateErrCodeOrOk.isSome = true
  worker : s'.w.inOpenChannel = true → s.w.inOpenChannel = true ∨ s.peerStateErrCodeOrOk = none
  sync : s'.w.inSync = true → s.w.inSync = true ∨ s.masterChannel.isSome = true
  dtor : s'.dtor = s.dtor ∨ s'.dtor.running = true
  frozen : s.w = .stopped → s.dtor.halted = true → s'.w = .stopped ∧ s'.dtor = s.dtor

namespace Quiet

theorem refl (s : Session) : Quiet s s :=
  ⟨rfl, rfl, rfl, rfl, ⟨[], by simp⟩, ⟨[], by simp⟩, .inl, .inl, .inl rfl, fun hw _ => ⟨hw, rfl⟩⟩

/-- There is a channel after quiet code if there was one before. -/
theorem channel_isSome (h : Quiet s s') : s'.masterChannel.isSome = s.masterChannel.isSome := by
  have hc := congrArg Option.isSome h.channel
  simpa [errorState] using hc

theorem trans (h : Quiet s s') (h' : Quiet s' s'') : Quiet s s'' where
  onErrFuncSet := h'.onErrFuncSet.trans h.onErrFuncSet
  peerStateErrCodeOrOk := h'.peerStateErrCodeOrOk.trans h.peerStateErrCodeOrOk
  gracefulFinisher := h'.gracefulFinisher.trans h.gracefulFinisher
  channel := h'.channel.trans h.channel
  queue := by
    obtain ⟨ts, hq, ht⟩ := h.queue
    obtain ⟨ts', hq', ht'⟩ := h'.queue
    refine ⟨ts ++ ts', by rw [hq', hq, List.append_assoc], fun t hm => ?_⟩
    exact (List.mem_append.mp hm).elim (ht t) (ht' t)
  log := by
    obtain ⟨es, hl, he⟩ := h.log
    obtain ⟨es', hl', he'⟩ := h'.log
    refine ⟨es ++ es', by rw [hl', hl, List.append_assoc], fun e hm => ?_⟩
    exact (List.mem_append.mp hm).elim (he e) (fun hm => h.peerStateErrCodeOrOk ▸ he' e hm)
  worker := fun hw => (h'.worker hw).elim h.worker (fun hp => .inr (h.peerStateErrCodeOrOk ▸ hp))
  sync := fun hw => (h'.sync hw).elim h.sync (fun hm => .inr (h.channel_isSome ▸ hm))
  dtor := by
    rcases h'.dtor with hd | hd
    · rw [hd]; exact h.dtor
    · exact .inr hd
  frozen := fun hw hd => by
    obtain ⟨hw', hd'⟩ := h.frozen hw hd
    obtain ⟨hw'', hd''⟩ := h'.frozen hw' (hd' ▸ hd)
    exact ⟨hw'', hd''.trans hd'⟩

/-- The destructor is not started by it. -/
theorem dtor_notStarted (h : Quiet s s') (hd : s'.dtor = .notStarted) : s.dtor = .notStarted := by
  rcases h.dtor with he | he
  · rw [← he, hd]
  · rw [hd] at he
    cases he

/-- Something is recorded. -/
theorem record {e : Event} (he : e.calm s.peerStateErrCodeOrOk.isSome = true) :
    Quiet s (s.record e) :=
  { Quiet.refl s with log := ⟨[e], rfl, by simpa using he⟩ }

/-- `open_channel()` returns something while the session is not hosed. -/
theorem returned {call : Nat} {req : Option Nat} {ret : Bool} {err : ErrorCode}
    {target : Option ChannelObj} (hp : s.peerStateErrCodeOrOk = none) :
    Quiet s (s.returned call req ret err target) :=
  { Quiet.refl s with log := ⟨[_], rfl, by simp [Event.calm, hp]⟩ }

/-- `open_channel()` returns nothing. -/
theorem returnedNothing {call : Nat} {req : Option Nat} :
    Quiet s (s.returned call req false none none) :=
  { Quiet.refl s with log := ⟨[_], rfl, by simp [Event.calm, Event.returnsNothing]⟩ }

/-- `open_channel()` finds the builder blank. -/
theorem returnedBlank {call : Nat} : Quiet s (s.returned call none true
    (some .sessionOpenChannelServerCannotProceedResourceUnavailable) none) :=
  { Quiet.refl s with log := ⟨[_], rfl, by simp [Event.calm]⟩ }

/-- A task that makes nothing of an error joins the queue. -/
theorem post {t : Task} (ht : t.calm = true) : Quiet s (s.post t) :=
  { Quiet.refl s with queue := ⟨[t], rfl, by simpa using ht⟩ }

/-- Thread W starts or stops waiting, for something that it may wait for. -/
theorem setW {w : Worker} (hs : s.w ≠ .stopped) (hw : w.inOpenChannel = true →
    s.w.inOpenChannel = true ∨ s.peerStateErrCodeOrOk = none)
    (hy : w.inSync = true → s.w.inSync = true ∨ s.masterChannel.isSome = true) :
    Quiet s (s.setW w) :=
  { Quiet.refl s with worker := hw, sync := hy, frozen := fun h => absurd h hs }

/-- Thread W is between tasks again. -/
theorem setIdle (hs : s.w ≠ .stopped) : Quiet s (s.setW .idle) := .setW hs nofun nofun

/-- The destructor goes on while thread W is there to run its tasks. -/
theorem setDtor {d : Dtor} (hd : d.running = true)
    (hs : s.w ≠ .stopped ∨ s.dtor.halted = false) : Quiet s (s.setDtor d) :=
  { Quiet.refl s with
    dtor := .inr hd
    frozen := fun hw hh => by
      rcases hs with hs | hs
      · exact absurd hw hs
      · rw [hs] at hh; cases hh }

/-- The channel changes, but neither its name nor whether it has emitted its error. -/
theorem setChannel {ch' : MasterChannel} (hm : s.masterChannel = some ch) (hi : ch'.id = ch.id)
    (hh : ch'.hosed = ch.hosed) : Quiet s (s.setChannel ch') :=
  { Quiet.refl s with channel := by simp [errorState, hm, hi, hh] }

/-- A message goes out. -/
theorem transmit (hm : s.masterChannel = some ch) (m : Msg) : Quiet s (s.transmit ch m) :=
  { Quiet.refl s with
    channel := by simp [errorState, hm]
    log := ⟨[.sent m], rfl, by simp [Event.calm]⟩ }

/-- Messages kept for a handler become its tasks. -/
theorem flushTo (hm : s.masterChannel = some ch) (h : OpenReqHandler) : Quiet s (s.flushTo ch h) :=
  { Quiet.refl s with
    channel := by simp [errorState, hm]
    queue := ⟨_, rfl, fun t ht => by obtain ⟨m, -, rfl⟩ := List.mem_map.mp ht; simp⟩ }

/-- A nickname is used up. -/
theorem nextNickname (active : Bool) : Quiet s (s.nextNickname active).2 := by
  cases active <;> exact { Quiet.refl s with }

/-- The user gets a builder. -/
theorem giveBuilder (call : Nat) (b : Option Builder) : Quiet s (s.giveBuilder call b) :=
  { Quiet.refl s with log := ⟨[_], rfl, by simp [Event.calm]⟩ }

/-- A builder is used up. -/
theorem takeBuilder {call : Nat} {b : Option Builder} (hd : s.takeBuilder call = .done (b, s')) :
    Quiet s s' := by
  obtain ⟨-, rfl⟩ := takeBuilder_done hd
  exact { Quiet.refl s with }

end Quiet

/-! ### What a piece of code can do -/

/-- What common session code does about errors; `F` is known where a call emits one. -/
inductive Did (F : Prop) (s : Session) : Session → Prop
  | quiet {s' : Session} (h : Quiet s s') : Did F s s'
  /-- The channel emits its error through its handler. -/
  | emitted {s₁ s' : Session} (h : Quiet s s₁) (ch : MasterChannel)
      (hm : s₁.masterChannel = some ch) (hh : ch.hosed = false) (e : Err)
      (h' : Quiet (s₁.emitError ch e) s') : Did F s s'
  /-- Its error comes out of the `sync_request()` of `open_channel()`. -/
  | hosedInOpenChannel {s₁ : Session} (h : Quiet s s₁) (ch : MasterChannel)
      (hm : s₁.masterChannel = some ch) (hh : ch.hosed = false)
      (hp : s₁.onErrFuncSet = true ∧ s₁.peerStateErrCodeOrOk = none)
        (hw : s₁.w.inOpenChannel = false) (hF : F) (e : Err)
      (call : Nat) (req : Option Nat) :
      Did F s (((s₁.failCall ch e).emitHosed e .openChannel).returned call req false none none)
  /-- Its error comes out of the `send()` of the response to a request. -/
  | hosedInOpenChannelReq {s₁ : Session} (h : Quiet s s₁) (ch : MasterChannel)
      (hm : s₁.masterChannel = some ch) (hh : ch.hosed = false)
      (hp : s₁.onErrFuncSet = true ∧ s₁.peerStateErrCodeOrOk = none)
        (hw : s₁.w.inOpenChannel = false) (hF : F) (e : Err) :
      Did F s ((s₁.failCall ch e).emitHosed e .openChannelReq)
  /-- Its error comes out of the `send()` of the destructor, which ignores it. -/
  | ignoredInDtor {s₁ : Session} (h : Quiet s s₁) (ch : MasterChannel)
      (hm : s₁.masterChannel = some ch) (hh : ch.hosed = false)
      (hg : s₁.gracefulFinisher.isSome = true) (hw : s₁.w = .idle) (hF : F) (e : Err) :
      Did F s ((s₁.failCall ch e).setDtor .awaitingPeer)
  /-- Thread U stops thread W. -/
  | halted {s₁ : Session} (h : Quiet s s₁) (hw : s₁.w = .idle) :
      Did F s ((s₁.setW .stopped).setDtor .stopped)

namespace Did

/-- What was done under one assumption was done under a weaker one. -/
theorem mono {F' : Prop} (h : Did F s s') (hF : F → F') : Did F' s s' := by
  cases h with
  | quiet h => exact .quiet h
  | emitted h ch hm hh e h' => exact .emitted h ch hm hh e h'
  | hosedInOpenChannel h ch hm hh hp hw hf e call req =>
    exact .hosedInOpenChannel h ch hm hh hp hw (hF hf) e call req
  | hosedInOpenChannelReq h ch hm hh hp hw hf e =>
    exact .hosedInOpenChannelReq h ch hm hh hp hw (hF hf) e
  | ignoredInDtor h ch hm hh hg hw hf e => exact .ignoredInDtor h ch hm hh hg hw (hF hf) e
  | halted h hw => exact .halted h hw

/-- Quiet code first. -/
theorem after (h₀ : Quiet s s') (h : Did F s' s'') : Did F s s'' := by
  cases h with
  | quiet h => exact .quiet (h₀.trans h)
  | emitted h ch hm hh e h' => exact .emitted (h₀.trans h) ch hm hh e h'
  | hosedInOpenChannel h ch hm hh hp hw hf e call req =>
    exact .hosedInOpenChannel (h₀.trans h) ch hm hh hp hw hf e call req
  | hosedInOpenChannelReq h ch hm hh hp hw hf e =>
    exact .hosedInOpenChannelReq (h₀.trans h) ch hm hh hp hw hf e
  | ignoredInDtor h ch hm hh hg hw hf e =>
    exact .ignoredInDtor (h₀.trans h) ch hm hh hg hw hf e
  | halted h hw => exact .halted (h₀.trans h) hw

/-- No such code sets the handlers. -/
theorem onErrFuncSet (h : Did F s s') : s'.onErrFuncSet = s.onErrFuncSet := by
  cases h with
  | quiet h => exact h.onErrFuncSet
  | emitted h ch hm hh e h' => exact h'.onErrFuncSet.trans h.onErrFuncSet
  | hosedInOpenChannel h => exact h.onErrFuncSet
  | hosedInOpenChannelReq h => exact h.onErrFuncSet
  | ignoredInDtor h => exact h.onErrFuncSet
  | halted h => exact h.onErrFuncSet

/-- No such code engages or fulfils a finisher. -/
theorem gracefulFinisher (h : Did F s s') : s'.gracefulFinisher = s.gracefulFinisher := by
  cases h with
  | quiet h => exact h.gracefulFinisher
  | emitted h ch hm hh e h' => exact h'.gracefulFinisher.trans h.gracefulFinisher
  | hosedInOpenChannel h => exact h.gracefulFinisher
  | hosedInOpenChannelReq h => exact h.gracefulFinisher
  | ignoredInDtor h => exact h.gracefulFinisher
  | halted h => exact h.gracefulFinisher

/-- Only in PEER state does the error that the session has been hosed with change. -/
theorem peerStateErrCodeOrOk (h : Did F s s') :
    s'.peerStateErrCodeOrOk = s.peerStateErrCodeOrOk ∨
      s.onErrFuncSet = true ∧ s.peerStateErrCodeOrOk = none := by
  cases h with
  | quiet h => exact .inl h.peerStateErrCodeOrOk
  | emitted h ch hm hh e h' => exact .inl (h'.peerStateErrCodeOrOk.trans h.peerStateErrCodeOrOk)
  | hosedInOpenChannel h ch hm hh hp =>
    exact .inr ⟨h.onErrFuncSet ▸ hp.1, h.peerStateErrCodeOrOk ▸ hp.2⟩
  | hosedInOpenChannelReq h ch hm hh hp =>
    exact .inr ⟨h.onErrFuncSet ▸ hp.1, h.peerStateErrCodeOrOk ▸ hp.2⟩
  | ignoredInDtor h => exact .inl h.peerStateErrCodeOrOk
  | halted h => exact .inl h.peerStateErrCodeOrOk

/-- A session that has been hosed stays so. -/
theorem peerStateErrCodeOrOk_isSome (h : Did F s s') (hp : s.peerStateErrCodeOrOk.isSome = true) :
    s'.peerStateErrCodeOrOk.isSome = true := by
  rcases h.peerStateErrCodeOrOk with he | ⟨-, hn⟩
  · rw [he]; exact hp
  · rw [hn] at hp; cases hp

/-- Where no call emits an error it does not change at all. -/
theorem peerStateErrCodeOrOk_eq (h : Did F s s') (hF : ¬ F) :
    s'.peerStateErrCodeOrOk = s.peerStateErrCodeOrOk := by
  cases h with
  | quiet h => exact h.peerStateErrCodeOrOk
  | emitted h ch hm hh e h' => exact h'.peerStateErrCodeOrOk.trans h.peerStateErrCodeOrOk
  | hosedInOpenChannel _ _ _ _ _ _ hf => exact absurd hf hF
  | hosedInOpenChannelReq _ _ _ _ _ _ hf => exact absurd hf hF
  | ignoredInDtor h => exact h.peerStateErrCodeOrOk
  | halted h => exact h.peerStateErrCodeOrOk

/-- Of the tasks posted, only the report of the channel's error is more than calm. -/
theorem queue (h : Did F s s') : ∃ ts, s'.queue = s.queue ++ ts ∧
    ∀ t ∈ ts, t.calm = true ∨ ∃ chan e, t = .masterChannelError chan e := by
  cases h with
  | quiet h =>
    obtain ⟨ts, hq, ht⟩ := h.queue
    exact ⟨ts, hq, fun t hm => .inl (ht t hm)⟩
  | emitted h ch hm hh e h' =>
    obtain ⟨ts, hq, ht⟩ := h.queue
    obtain ⟨ts', hq', ht'⟩ := h'.queue
    refine ⟨ts ++ .masterChannelError ch.id e :: ts', by rw [hq']; simp [hq], fun t hm => ?_⟩
    rcases List.mem_append.mp hm with hm | hm
    · exact .inl (ht t hm)
    · rcases List.mem_cons.mp hm with rfl | hm
      · exact .inr ⟨_, _, rfl⟩
      · exact .inl (ht' t hm)
  | hosedInOpenChannel h =>
    obtain ⟨ts, hq, ht⟩ := h.queue
    exact ⟨ts, hq, fun t hm => .inl (ht t hm)⟩
  | hosedInOpenChannelReq h =>
    obtain ⟨ts, hq, ht⟩ := h.queue
    exact ⟨ts, hq, fun t hm => .inl (ht t hm)⟩
  | ignoredInDtor h =>
    obtain ⟨ts, hq, ht⟩ := h.queue
    exact ⟨ts, hq, fun t hm => .inl (ht t hm)⟩
  | halted h =>
    obtain ⟨ts, hq, ht⟩ := h.queue
    exact ⟨ts, hq, fun t hm => .inl (ht t hm)⟩

/-- The channel is there as before. -/
theorem channel_isSome (h : Did F s s') : s'.masterChannel.isSome = s.masterChannel.isSome := by
  cases h with
  | quiet h => exact h.channel_isSome
  | emitted h ch hm hh e h' => rw [h'.channel_isSome, ← h.channel_isSome, hm]; rfl
  | hosedInOpenChannel h ch hm => rw [← h.channel_isSome, hm]; rfl
  | hosedInOpenChannelReq h ch hm => rw [← h.channel_isSome, hm]; rfl
  | ignoredInDtor h ch hm => rw [← h.channel_isSome, hm]; rfl
  | halted h => rw [← h.channel_isSome]; rfl

/-- Where thread W waits in `sync_request()` there is a channel. -/
theorem sync (h : Did F s s') (hw : s'.w.inSync = true) :
    s.w.inSync = true ∨ s.masterChannel.isSome = true := by
  cases h with
  | quiet h => exact h.sync hw
  | emitted h ch hm => exact .inr (by rw [← h.channel_isSome, hm]; rfl)
  | hosedInOpenChannel h ch hm => exact .inr (by rw [← h.channel_isSome, hm]; rfl)
  | hosedInOpenChannelReq h ch hm => exact .inr (by rw [← h.channel_isSome, hm]; rfl)
  | ignoredInDtor h ch hm => exact .inr (by rw [← h.channel_isSome, hm]; rfl)
  | halted h => cases hw

/-- The channel emits its error through its handler, and nothing else happens. -/
theorem emitError (hm : s.masterChannel = some ch) (hh : ch.hosed = false) (e : Err) :
    Did F s (s.emitError ch e) :=
  .emitted (.refl s) ch hm hh e (.refl _)

end Did

/-- A call on the channel that emits no error does no more than its effect. -/
theorem NoErrorResult.did {t : Session} {ok : Bool} (hm : s.masterChannel = some ch)
    (h : NoErrorResult s ch t ok s') (ht : Quiet s t) : Did F s s' := by
  cases h with
  | ok => exact .quiet ht
  | refusedOld => exact .quiet (.refl s)
  | refusedNew hh e => exact .emitError hm hh e

/-- `expect_msgs()` for the peer's requests. -/
theorem expectOpenChannelReqs_did {h : OpenReqHandler} {ok : Bool}
    (hd : s.expectOpenChannelReqs h r = .done (ok, s')) : Did F s s' := by
  obtain ⟨ch, hm, hr⟩ := expectOpenChannelReqs_done hd
  exact hr.did hm (.flushTo hm h)

/-- `undo_expect_msgs()` for the peer's requests. -/
theorem undoExpectOpenChannelReqs_did {ok : Bool}
    (hd : s.undoExpectOpenChannelReqs r = .done (ok, s')) : Did F s s' := by
  obtain ⟨ch, hm, hr⟩ := undoExpectOpenChannelReqs_done hd
  exact hr.did hm (.setChannel hm rfl rfl)

/-- The channel finds an error, and its report is queued. -/
theorem channelError_did {e : Err} (hd : s.channelError e = .done s') : Did F s s' := by
  obtain ⟨ch, hm, hh, rfl⟩ := channelError_done hd
  exact .emitError hm hh e

/-- A response goes to the call that waits for it, or nowhere. -/
theorem deliverRsp_quiet {req : Nat} {m : Msg} (hm : s.masterChannel = some ch) :
    Quiet s (s.deliverRsp ch req m) := by
  unfold deliverRsp
  split
  · split
    · refine Quiet.trans ?_ (.post rfl)
      exact .setChannel hm rfl rfl
    · exact .refl s
  · split
    · rename_i k id hw
      split
      · refine .setW (by simp [hw]) (fun h => .inl ?_) (fun _ => .inl (by rw [hw]; rfl))
        rw [hw]
        cases k
        · rfl
        · cases h
      · exact .refl s
    · exact .refl s

/-- Any other message is queued, kept or dropped. -/
theorem deliverUnsolicited_quiet {m : Msg} (hm : s.masterChannel = some ch) :
    Quiet s (s.deliverUnsolicited ch m) := by
  unfold deliverUnsolicited
  split
  · split
    · refine Quiet.trans ?_ (.post rfl)
      exact .setChannel hm rfl rfl
    · exact .setChannel hm rfl rfl
  · split
    · refine Quiet.trans ?_ (.post rfl)
      exact .setChannel hm rfl rfl
    · exact .setChannel hm rfl rfl
  · split
    · exact .post (by simp)
    · exact .setChannel hm rfl rfl

/-- No message of the peer's is an error. -/
theorem deliver_quiet {m : Msg} (hd : s.deliver m = .done s') : Quiet s s' := by
  obtain ⟨ch, hm, -, ⟨req, -, rfl⟩ | ⟨-, rfl⟩⟩ := deliver_done hd
  · exact deliverRsp_quiet hm
  · exact deliverUnsolicited_quiet hm

/-! ### The code of PEER state -/

/-- Up to its `sync_request()`, `open_channel()` hoses the session only if the call emits the error.
    -/
theorem openChannelBody_did {inPeer : Bool} {call : Nat} {b : Builder} (hw : s.w = .idle)
    (hd : s.openChannelBody inPeer call b r = .done s') :
    Did ((∃ e, r = .failed e) ∧ s.peerStateErrCodeOrOk = none) s s' := by
  obtain ⟨-, hs, hr⟩ := openChannelBody_done hd
  cases hr with
  | hosed => exact .quiet .returnedNothing
  | sent hp ch hm => 
    exact .quiet ((Quiet.transmit hm _).trans (.setW (by simp [hw]) (fun _ => .inr hp)
      (fun _ => .inr rfl)))
  | refusedOld => exact .quiet .returnedNothing
  | refusedNew hp ch hm hh e => exact .emitted (.refl s) ch hm hh e .returnedNothing
  | failed hp ch hm hh e =>
    exact .hosedInOpenChannel (.refl s) ch hm hh ⟨hs, hp⟩ (by rw [hw]; rfl) ⟨⟨e, rfl⟩, hp⟩ e
      call none

/-- Coming back without a response, it hoses the session only if the call emitted the error. -/
theorem NoResponseResult.did {call req : Nat} {r : SyncRes} (h : NoResponseResult s call req r s')
    (hp : s.peerStateErrCodeOrOk = none) (hw : s.w ≠ .stopped) :
    Did (∃ e, r = .failed e) s s' := by
  have hidle : Quiet s (s.setW .idle) := .setIdle hw
  cases h with
  | timeout => exact .quiet (hidle.trans (.returned hp))
  | refusedOld => exact .quiet (hidle.trans .returnedNothing)
  | refusedNew ch hm hh e => exact .emitted hidle ch hm hh e .returnedNothing
  | failed ch hm hh hp e =>
    exact .hosedInOpenChannel hidle ch hm hh hp rfl ⟨e, rfl⟩ e call (some req)

/-- The answer to the peer hoses the session only if its `send()` emits the error. -/
theorem RespondResult.did {m : Msg} {p : Prepared} (hm : s.masterChannel = some ch)
    (h : RespondResult s m p ch r s') (hp : s.peerStateErrCodeOrOk = none)
    (hw : s.w.inOpenChannel = false) : Did (∃ e, r = .failed e) s s' := by
  cases h with
  | accepted =>
    refine .quiet ((Quiet.transmit hm _).trans (.record ?_))
    simp [Event.calm, hp]
  | rejected => exact .quiet (.transmit hm _)
  | refusedOld => exact .quiet (.refl s)
  | refusedNew hh e => exact .emitError hm hh e
  | failed hh hp e => exact .hosedInOpenChannelReq (.refl s) ch hm hh hp hw ⟨e, rfl⟩ e

/-- `session_token()` runs. -/
theorem sessionToken_quiet (hd : s.sessionToken = .done s') : Quiet s s' := by
  obtain ⟨nil, rfl⟩ := sessionToken_done hd
  exact .record rfl

/-- The user's channel is made, which is not the master channel. -/
theorem createChannelObj_quiet {mqC2s mqS2c : SharedName} {hndl : Option NativeHandle}
    {active : Bool} {mqOpen : ErrorCode} {obj : ChannelObj}
    (hd : s.createChannelObj cfg mqC2s mqS2c hndl active mqOpen = .done (obj, s')) :
    Quiet s s' := by
  simp [createChannelObj] at hd
  obtain ⟨-, -, -, -, rfl⟩ := hd
  exact .nextNickname active

/-- `Graceful_finisher`'s constructor, once the finisher is there. -/
theorem FinisherResult.did (hm : s.masterChannel = some ch) (h : FinisherResult s ch s') :
    Did F (s.setFinisher false) s' := by
  have hm : (s.setFinisher false).masterChannel = some ch := hm
  cases h with
  | cached hh =>
    refine .quiet (Quiet.trans ?_ (.post rfl))
    exact .setChannel hm rfl rfl
  | expected hh => exact .quiet (.setChannel hm rfl rfl)
  | refusedOld hh => exact .quiet (.refl _)
  | refusedNew hh e => exact .emitError hm hh e

/-! ### The destructor -/

/-- The destructor asks whether there is a finisher. -/
theorem dtorFinisherQuery_quiet (hw : s.w = .idle) : Quiet s s.dtorFinisherQuery :=
  .setDtor rfl (.inl (by simp [hw]))

/-- Its `GracefulSessionEnd` may emit the error, which is then not reported to anybody. -/
theorem dtorSendEnd_did (hw : s.w = .idle) (hd : s.dtorSendEnd r = .done s') :
    Did (∃ e, r = .failed e) s s' := by
  obtain ⟨ch, c, s₁, hm, hf, hr, rfl⟩ := dtorSendEnd_done hd
  have hs : s.w ≠ .stopped := by simp [hw]
  cases hr with
  | ok => exact .quiet ((Quiet.transmit hm _).trans (.setDtor rfl (.inl hs)))
  | refusedOld => exact .quiet (.setDtor rfl (.inl hs))
  | refusedNew hh e => exact .emitted (.refl s) ch hm hh e (.setDtor rfl (.inl hs))
  | failed hh e => exact .ignoredInDtor (.refl s) ch hm hh hf hw ⟨e, rfl⟩ e

/-- It flushes what has been sent. -/
theorem dtorFlush_quiet (hw : s.w ≠ .stopped) (willRun : Bool) : Quiet s (s.dtorFlush willRun) := by
  unfold dtorFlush
  split
  · exact .setDtor rfl (.inl hw)
  · exact .setW hw nofun nofun

/-- It starts. -/
theorem dtorStart_quiet (hd : s.dtorStart cfg = .done s') : Quiet s s' := by
  simp only [dtorStart, Outcome.bind_eq_done, Outcome.require_eq_done] at hd
  obtain ⟨-, hn, hd⟩ := hd
  have hn : s.dtor.halted = false := by rw [of_decide_eq_true hn]; rfl
  split at hd <;> cases hd <;> exact (Quiet.post rfl).trans (.setDtor rfl (.inr hn))

/-- It goes on to its next point. -/
theorem dtorStep_did (hd : s.dtorStep = .done s') : Did F s s' := by
  have running : ∀ {t : Task} {d : Dtor}, t.calm = true → d.running = true →
      s.dtor.running = true → Did F s ((s.post t).setDtor d) := fun ht hd hs =>
    .quiet ((Quiet.post ht).trans (.setDtor hd (.inr (Dtor.halted_of_running hs))))
  simp only [dtorStep] at hd
  split at hd <;> rename_i hdt <;> simp at hd
  · subst hd; exact running rfl rfl (by rw [hdt]; rfl)
  · subst hd; exact running rfl rfl (by rw [hdt]; rfl)
  · obtain ⟨-, rfl⟩ := hd; exact running rfl rfl (by rw [hdt]; rfl)
  · obtain ⟨hw, rfl⟩ := hd; exact .halted (.refl s) hw

/-- The flush is over. -/
theorem dtorFlushDone_quiet (hd : s.dtorFlushDone = .done s') : Quiet s s' := by
  simp [dtorFlushDone] at hd
  obtain ⟨hw, rfl⟩ := hd
  have hidle : Quiet s (s.setW .idle) := .setIdle (by simp [hw])
  exact hidle.trans (.setDtor rfl (.inl (by rintro ⟨⟩)))

/-! ### Thread W stays stopped -/

/-- Where the destructor has stopped thread W, it is stopped. -/
def Halts (s : Session) : Prop := s.dtor.halted = true → s.w = .stopped

/-- Quiet code keeps thread W and the destructor in step. -/
theorem Quiet.halts (h : Quiet s s') (hs : s.Halts) : s'.Halts := by
  intro hd
  rcases h.dtor with he | he
  · rw [he] at hd
    exact (h.frozen (hs hd) hd).1
  · rw [Dtor.halted_of_running he] at hd
    cases hd

/-- So does whatever was done. -/
theorem Did.halts (h : Did F s s') (hs : s.Halts) : s'.Halts := by
  cases h with
  | quiet h => exact h.halts hs
  | emitted h ch hm hh e h' => exact h'.halts (h.halts hs)
  | hosedInOpenChannel h => exact h.halts hs
  | hosedInOpenChannelReq h => exact h.halts hs
  | ignoredInDtor h => exact nofun
  | halted h => exact fun _ => rfl

/-- Common code does not return from the destructor, nor back into it. -/
theorem Quiet.returned_iff (h : Quiet s s') (hs : s.Halts) :
    s'.dtor = .returned ↔ s.dtor = .returned := by
  constructor
  · intro hd
    rcases h.dtor with he | he
    · rw [← he, hd]
    · rw [hd] at he
      cases he
  · intro hd
    have hh : s.dtor.halted = true := by rw [hd]; rfl
    rw [(h.frozen (hs hh) hh).2, hd]

/-- The destructor returns in a step of its own only. -/
theorem Did.returned_iff (h : Did F s s') (hs : s.Halts) :
    s'.dtor = .returned ↔ s.dtor = .returned := by
  cases h with
  | quiet h => exact h.returned_iff hs
  | emitted h ch hm hh e h' => exact (h'.returned_iff (h.halts hs)).trans (h.returned_iff hs)
  | hosedInOpenChannel h => exact h.returned_iff hs
  | hosedInOpenChannelReq h => exact h.returned_iff hs
  | ignoredInDtor h ch hm hh hg hw =>
    have hn : ¬ s.dtor = .returned := by
      intro hd
      have hd' := (h.returned_iff hs).mpr hd
      have hst := h.halts hs (by rw [hd']; rfl)
      rw [hw] at hst
      cases hst
    exact ⟨nofun, fun hd => absurd hd hn⟩
  | halted h hw =>
    have hn : ¬ s.dtor = .returned := by
      intro hd
      have hd' := (h.returned_iff hs).mpr hd
      have hst := h.halts hs (by rw [hd']; rfl)
      rw [hw] at hst
      cases hst
    exact ⟨nofun, fun hd => absurd hd hn⟩

end Session

end IpcSession
