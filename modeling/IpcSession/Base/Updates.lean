import IpcSession.Base.Frame
import Mathlib.Logic.Relation

namespace IpcSession

/-!
# Session code as elementary updates

* `Session.Update s l s'` — one elementary update of a session, with what the code knows when it
  makes it; `l` is the `Mark` of the updates that not every piece of code makes.
* `Session.Updates L` — any number of them, with marks in `L` only; each piece of common session
  code is such a sequence, by one lemma each.
* `Session.Updates.keeps` — what every update keeps, all common session code keeps.
* `Session.DtorAct`, `Session.DtorTask` — the destructor's own steps, in thread U and in thread W.
-/

/-- What common session code records of its own accord. -/
def Event.isPlain : Event → Bool
  | passiveOpen .. => true
  | openChannelReturned .. => true
  | sessionTokenReturned _ => true
  | _ => false

/-- What common session code records, of its own or through its calls on the channel. -/
def Event.isCommon : Event → Bool
  | sent _ => true
  | channelError .. => true
  | onErr .. => true
  | passiveOpen .. => true
  | openChannelReturned .. => true
  | sessionTokenReturned _ => true
  | mdtBuilderReturned .. => true
  | _ => false

/-- A plain event can occur in any update. -/
theorem Event.isCommon_of_isPlain {e : Event} (h : e.isPlain = true) : e.isCommon = true := by
  cases e <;> first | rfl | cases h

/-- The tasks that thread U posts on a session in any state, with nothing but its arguments. -/
def Task.isFromUser : Task → Bool
  | mdtBuilder .. => true
  | sessionToken => true
  | _ => false

/-- The tasks that the destructor posts. -/
def Task.isDtor : Task → Bool
  | dtorFinisherQuery => true
  | dtorSendEnd => true
  | dtorFlush => true
  | _ => false

/-- Thread W waits for the answer to the last init-channel. -/
def Worker.inInitChannels : Worker → Bool
  | inSyncRequest (.initChannels ..) _ _ => true
  | _ => false

/-- Thread W is between tasks or in a `sync_request()`. -/
def Worker.isServing : Worker → Bool
  | idle => true
  | inSyncRequest .. => true
  | _ => false

/-- The sites where the code hoses the session with the error of its own call on the channel. -/
def HoseSite.isOwnCall : HoseSite → Bool
  | openChannel => true
  | openChannelReq => true
  | _ => false

/-- What sets an elementary update apart from those that any code makes. -/
inductive Mark where
  /-- The finisher, its promise, or what the channel expects for it. -/
  | finisher
  /-- The handlers for requests to open a channel. -/
  | expect
  /-- Message `m` comes in. -/
  | arrive (m : Msg)
  | transmit (m : Msg)
  | hose (e : Err) (site : HoseSite)
  /-- The server keeps the error for later. -/
  | keepErr (e : Err)
  /-- A call returns to the user, or a handler of the user's is called. -/
  | call (e : Event)
  | setW (w : Worker)

namespace Mark

/-- The marks of `open_channel()`, but for its request. -/
def isOpenChannel : Mark → Bool
  | call (.openChannelReturned ..) => true
  | setW _ => true
  | hose _ .openChannel => true
  | _ => false

/-- The marks of answering a request to open a channel, but for the answer. -/
def isRespond : Mark → Bool
  | call (.passiveOpen ..) => true
  | hose _ .openChannelReq => true
  | _ => false

/-- The marks of connecting: the handlers, the log-in request, the acknowledgement of the
    init-channels. -/
def isConnect : Mark → Bool
  | expect => true
  | transmit ⟨_, none, _, .logInReq _⟩ => true
  | transmit ⟨_, some _, _, .openChannelToClientRsp .accepted⟩ => true
  | _ => false

/-- The marks of handling a log-in request: its answer, the init-channels. -/
def isLogIn : Mark → Bool
  | transmit ⟨_, some _, none, .logInRsp _⟩ => true
  | transmit ⟨_, none, _, .openChannelToClientReq ..⟩ => true
  | setW _ => true
  | _ => false

/-- The peer is told that the destructor has started. -/
def isSendEnd : Mark → Prop
  | transmit m => m.body = .gracefulSessionEnd
  | _ => False

/-- The marks that running task `t` can bring. -/
def ofTask : Task → Mark → Prop
  | .masterChannelError _ e, k => k = finisher ∨ k = hose e .masterChannelError ∨ k = keepErr e
  | .gracefulSessionEnd _, k => k = finisher ∨ k = hose .sessionFinished .gracefulSessionEnd
  | .openChannelReq _ m, k =>
    k.isRespond = true ∨ ∃ id hndl rsp, k = transmit ⟨id, some m.id, hndl, rsp⟩
  | .openChannel _ b, k => k.isOpenChannel = true ∨ ∃ id, k = transmit ⟨id, none, b.hndl, b.body⟩
  | .sessionToken, k => ∃ nil, k = call (.sessionTokenReturned nil)
  | .asyncConnect .., k => k.isConnect = true
  | .logInRsp .., k => k.isConnect = true
  | .initOpenChannel .., k => k.isConnect = true
  | .logInReq .., k => k.isLogIn = true
  | .initHandlers _, k => k = finisher ∨ k = expect
  | _, _ => False

/-- Any mark. -/
abbrev any : Mark → Prop := fun _ => True

end Mark

/-- The label `l` is no mark, or one in `L`. -/
def Mark.Within (L : Mark → Prop) (l : Option Mark) : Prop := ∀ k, l = some k → L k

/-- An update without a mark is within any set of them. -/
theorem Mark.Within.none {L : Mark → Prop} : Mark.Within L none := fun _ h => by cases h

namespace Session

variable {s s' s'' : Session} {ch : MasterChannel} {r : Ret} {c : Called} {cfg : Cfg}
  {l : Option Mark} {L : Mark → Prop}

/-- An elementary update. -/
inductive Update (s : Session) : Option Mark → Session → Prop
  | record {e : Event} (he : e.isPlain = true) : Update s (some (.call e)) (s.record e)
  | post {t : Task} (ht : t.isFromUser = true) : Update s none (s.post t)
  | setW {w : Worker} (hs : s.w.isServing = true) (hw : w.isServing = true)
      (hi : w.inInitChannels = false) : Update s (some (.setW w)) (s.setW w)
  | setFinisher (b : Bool) : Update s (some .finisher) (s.setFinisher b)
  | nickname (active : Bool) : Update s none (s.nextNickname active).2
  | giveBuilder (call : Nat) {b : Option Builder}
      (hb : ∀ bl, b = some bl → bl.body.isOpenChannelReq = true) :
      Update s none (s.giveBuilder call b)
  | takeBuilder {call : Nat} {b : Option Builder} {s' : Session}
      (hd : s.takeBuilder call = .done (b, s')) : Update s none s'
  /-- `open_channel()` is given a builder. -/
  | useBuilder {call : Nat} {b : Builder} {s' : Session}
      (hd : s.takeBuilder call = .done (some b, s')) : Update s none (s'.post (.openChannel call b))
  | emitHosed {e : Err} {site : HoseSite} (hp : s.peerStateErrCodeOrOk = none)
      (hc : site.isOwnCall = true → Event.channelError false e ∈ s.log) :
      Update s (some (.hose e site)) (s.emitHosed e site)
  | emitError {ch : MasterChannel} (hm : s.masterChannel = some ch) (hh : ch.hosed = false)
      (e : Err) : Update s none (s.emitError ch e)
  | failCall {ch : MasterChannel} (hm : s.masterChannel = some ch) (hh : ch.hosed = false)
      (e : Err) : Update s none (s.failCall ch e)
  | transmit {ch : MasterChannel} (hm : s.masterChannel = some ch) (hh : ch.hosed = false)
      (m : Msg) : Update s (some (.transmit m)) (s.transmit ch m)
  | flushTo {ch : MasterChannel} (hm : s.masterChannel = some ch) (hh : ch.hosed = false) :
      Update s (some .expect) (s.flushTo ch .openChannelReq)
  | undoExpect {ch : MasterChannel} (hm : s.masterChannel = some ch) (hh : ch.hosed = false) :
      Update s (some .expect) (s.setChannel { ch with openReqHandler := none })
  | expectEnd {ch : MasterChannel} (hm : s.masterChannel = some ch) (hh : ch.hosed = false) :
      Update s (some .finisher) (s.setChannel { ch with expectsGracefulEnd := true })
  /-- The peer's `GracefulSessionEnd` is cached already. -/
  | takeEnd {ch : MasterChannel} (hm : s.masterChannel = some ch) (hh : ch.hosed = false)
      (hc : ch.cached.any (fun m => m.body = .gracefulSessionEnd)) :
      Update s (some .finisher) ((s.setChannel { ch with
        cached := ch.cached.eraseP (fun m => m.body = .gracefulSessionEnd) }).post
          (.gracefulSessionEnd ch.id))
  | cache {ch : MasterChannel} (hm : s.masterChannel = some ch) (hh : ch.hosed = false)
      {m : Msg} (hr : m.rspTo = none) :
      Update s (some (.arrive m)) (s.setChannel { ch with cached := ch.cached ++ [m] })
  | gotOpenReq {ch : MasterChannel} (hm : s.masterChannel = some ch) (hh : ch.hosed = false)
      {m : Msg} (hr : m.rspTo = none) {h : OpenReqHandler} (ho : ch.openReqHandler = some h)
      (ha : ch.answers m.body = true) : Update s (some (.arrive m)) (s.post (h.task ch.id m))
  | gotLogInReq {ch : MasterChannel} (hm : s.masterChannel = some ch) (hh : ch.hosed = false)
      {m : Msg} (hr : m.rspTo = none) (he : ch.expectsLogInReq = true) {r : LogInReq}
      (hb : m.body = .logInReq r) :
      Update s (some (.arrive m))
        ((s.setChannel { ch with expectsLogInReq := false }).post (.logInReq ch.id m))
  | gotLogInRsp {ch : MasterChannel} (hm : s.masterChannel = some ch) (hh : ch.hosed = false)
      {m : Msg} {id attempt : Nat} (hr : m.rspTo = some id)
      (he : ch.expectsLogInRsp = some (id, attempt)) :
      Update s (some (.arrive m))
        ((s.setChannel { ch with expectsLogInRsp := none }).post (.logInRsp ch.id m attempt))
  | gotEnd {ch : MasterChannel} (hm : s.masterChannel = some ch) (hh : ch.hosed = false)
      {m : Msg} (hr : m.rspTo = none) (he : ch.expectsGracefulEnd = true)
      (hb : m.body = .gracefulSessionEnd) :
      Update s (some (.arrive m)) ((s.setChannel { ch with expectsGracefulEnd := false }).post
        (.gracefulSessionEnd ch.id))
  /-- The response that thread W waits for is in. -/
  | gotRsp {k : SyncCall} {id : Nat} (hw : s.w = .inSyncRequest k id none) (m : Msg) :
      Update s (some (.arrive m)) (s.setW (.inSyncRequest k id (some m)))
  /-- Thread W takes its next task. -/
  | takeTask {t : Task} {s' : Session} (ht : t.isDtor = false) (hd : s.takeTask = .done (t, s')) :
      Update s none s'

/-- Any number of elementary updates, with marks in `L` only. -/
abbrev Updates (L : Mark → Prop) : Session → Session → Prop :=
  Relation.ReflTransGen fun s s' => ∃ l, Mark.Within L l ∧ Update s l s'

namespace Updates

theorem refl (s : Session) : Updates L s s := Relation.ReflTransGen.refl

theorem trans (h : Updates L s s') (h' : Updates L s' s'') : Updates L s s'' :=
  Relation.ReflTransGen.trans h h'

/-- An update without a mark. -/
theorem of (h : Update s none s') : Updates L s s' := .single ⟨none, .none, h⟩

/-- An update with a mark in `L`. -/
theorem ofMark {k : Mark} (hk : L k) (h : Update s (some k) s') : Updates L s s' :=
  .single ⟨some k, fun _ he => Option.some.inj he ▸ hk, h⟩

/-- One more update without a mark. -/
theorem tail (h : Updates L s s') (hu : Update s' none s'') : Updates L s s'' := h.trans (.of hu)

/-- One more update, with a mark in `L`. -/
theorem tailMark {k : Mark} (h : Updates L s s') (hk : L k) (hu : Update s' (some k) s'') :
    Updates L s s'' :=
  h.trans (.ofMark hk hu)

/-- **What every update keeps, all common session code keeps.** -/
theorem keeps {P : Session → Prop} (h : Updates L s s') (hs : P s)
    (hstep : ∀ b l b', P b → Mark.Within L l → Update b l b' → P b') : P s' := by
  induction h with
  | refl => exact hs
  | tail _ hu ih =>
    obtain ⟨l, hl, hu⟩ := hu
    exact hstep _ _ _ ih hl hu

end Updates

/-- Thread W is not stopped, nor sent into the final flush, by an update. -/
theorem Update.isServing (h : Update s l s') : s'.w.isServing = s.w.isServing := by
  cases h with
  | setW hs hw hi => exact hw.trans hs.symm
  | nickname active => cases active <;> rfl
  | takeBuilder hd =>
    obtain ⟨-, rfl⟩ := takeBuilder_done hd
    rfl
  | useBuilder hd =>
    obtain ⟨-, rfl⟩ := takeBuilder_done hd
    rfl
  | gotRsp hw m =>
    rw [hw]
    rfl
  | takeTask ht hd =>
    obtain ⟨-, -, hs⟩ := takeTask_done hd
    rw [hs]
  | _ => rfl

/-- No update changes a namespace. -/
theorem Update.namespaces (h : Update s l s') :
    s'.srvNamespace = s.srvNamespace ∧ s'.cliNamespace = s.cliNamespace := by
  cases h with
  | nickname active => cases active <;> exact ⟨rfl, rfl⟩
  | takeBuilder hd =>
    obtain ⟨-, rfl⟩ := takeBuilder_done hd
    exact ⟨rfl, rfl⟩
  | useBuilder hd =>
    obtain ⟨-, rfl⟩ := takeBuilder_done hd
    exact ⟨rfl, rfl⟩
  | takeTask ht hd =>
    obtain ⟨-, -, hs⟩ := takeTask_done hd
    rw [hs]
    exact ⟨rfl, rfl⟩
  | _ => exact ⟨rfl, rfl⟩

/-- What an update adds to the record. -/
theorem Update.log (h : Update s l s') :
    ∃ es, s'.log = s.log ++ es ∧ ∀ e ∈ es, e.isCommon = true := by
  have same : ∀ {t : Session}, t.log = s.log →
      ∃ es, t.log = s.log ++ es ∧ ∀ e ∈ es, e.isCommon = true :=
    fun ht => ⟨[], by simp [ht], fun e h => by cases h⟩
  have one : ∀ {t : Session} {e : Event}, t.log = s.log ++ [e] → e.isCommon = true →
      ∃ es, t.log = s.log ++ es ∧ ∀ e ∈ es, e.isCommon = true := by
    intro t e ht he
    exact ⟨[e], ht, fun e' h' => by rw [List.mem_singleton.mp h']; exact he⟩
  cases h with
  | record he => exact one rfl (Event.isCommon_of_isPlain he)
  | nickname active => cases active <;> exact same rfl
  | giveBuilder call hb => exact one rfl rfl
  | takeBuilder hd =>
    obtain ⟨-, rfl⟩ := takeBuilder_done hd
    exact same rfl
  | useBuilder hd =>
    obtain ⟨-, rfl⟩ := takeBuilder_done hd
    exact same rfl
  | emitHosed hp hc => exact one rfl rfl
  | emitError hm hh e => exact one rfl rfl
  | failCall hm hh e => exact one rfl rfl
  | transmit hm hh m => exact one rfl rfl
  | flushTo hm hh => exact same (flushTo_log _ _ _)
  | takeTask ht hd =>
    obtain ⟨-, -, hs⟩ := takeTask_done hd
    exact same (by rw [hs])
  | _ => exact same rfl

/-- No update makes thread W wait for the answer to the last init-channel. -/
theorem Update.inInitChannels (h : Update s l s') (hs : s.w.inInitChannels = false) :
    s'.w.inInitChannels = false := by
  cases h with
  | setW hs hw hi => exact hi
  | nickname active => cases active <;> exact hs
  | takeBuilder hd =>
    obtain ⟨-, rfl⟩ := takeBuilder_done hd
    exact hs
  | useBuilder hd =>
    obtain ⟨-, rfl⟩ := takeBuilder_done hd
    exact hs
  | gotRsp hw m =>
    rename_i k id
    rw [hw] at hs
    cases k <;> exact hs
  | takeTask ht hd =>
    obtain ⟨-, -, hb⟩ := takeTask_done hd
    rw [hb]
    exact hs
  | _ => exact hs

/-! ### What an update posts, and what it leaves of the channel's handlers -/

/-- The tasks that an update can post on `s`. -/
inductive Posted (s : Session) : Task → Prop
  | fromUser {t : Task} (ht : t.isFromUser = true) : Posted s t
  | openChannel {k call : Nat} {b : Builder} (hb : (k, some b) ∈ s.builders) :
      Posted s (.openChannel call b)
  | masterChannelError {ch : MasterChannel} (hm : s.masterChannel = some ch) (e : Err) :
      Posted s (.masterChannelError ch.id e)
  | gracefulSessionEnd {ch : MasterChannel} (hm : s.masterChannel = some ch) :
      Posted s (.gracefulSessionEnd ch.id)
  | openChannelReq {ch : MasterChannel} (hm : s.masterChannel = some ch) (m : Msg) :
      Posted s (.openChannelReq ch.id m)
  | openReq {ch : MasterChannel} (hm : s.masterChannel = some ch) {h : OpenReqHandler}
      (ho : ch.openReqHandler = some h) (m : Msg) : Posted s (h.task ch.id m)
  | logInReq {ch : MasterChannel} (hm : s.masterChannel = some ch)
      (he : ch.expectsLogInReq = true) (m : Msg) : Posted s (.logInReq ch.id m)
  | logInRsp {ch : MasterChannel} (hm : s.masterChannel = some ch) {id attempt : Nat}
      (he : ch.expectsLogInRsp = some (id, attempt)) (m : Msg) :
      Posted s (.logInRsp ch.id m attempt)

/-- What is in the queue after a post was there before, or has been posted. -/
theorem mem_queue_post {t u : Task} (ht : t ∈ (s.post u).queue) (hu : Posted s u) :
    t ∈ s.queue ∨ Posted s t := by
  simp only [post_queue, List.mem_append, List.mem_singleton] at ht
  rcases ht with ht | rfl
  · exact .inl ht
  · exact .inr hu

/-- **A queued task was queued before, or it is one that an update can post.** -/
theorem Update.posted (h : Update s l s') {t : Task} (ht : t ∈ s'.queue) :
    t ∈ s.queue ∨ Posted s t := by
  cases h with
  | post hu => exact mem_queue_post ht (.fromUser hu)
  | nickname active => exact .inl (by cases active <;> exact ht)
  | takeBuilder hd =>
    obtain ⟨-, rfl⟩ := takeBuilder_done hd
    exact .inl ht
  | useBuilder hd =>
    obtain ⟨⟨k, hb⟩, rfl⟩ := takeBuilder_done hd
    exact mem_queue_post (s := s) ht (.openChannel hb)
  | emitError hm hh e =>
    have ht : t ∈ (s.post (.masterChannelError _ e)).queue := ht
    exact mem_queue_post ht (.masterChannelError hm e)
  | flushTo hm hh =>
    simp only [flushTo_queue, List.mem_append, List.mem_map] at ht
    rcases ht with ht | ⟨m, -, rfl⟩
    · exact .inl ht
    · exact .inr (.openChannelReq hm m)
  | takeEnd hm hh => exact mem_queue_post (s := s) ht (.gracefulSessionEnd hm)
  | gotOpenReq hm hh hr ho ha => exact mem_queue_post ht (.openReq hm ho _)
  | gotLogInReq hm hh hr he hb => exact mem_queue_post (s := s) ht (.logInReq hm he _)
  | gotLogInRsp hm hh hr he => exact mem_queue_post (s := s) ht (.logInRsp hm he _)
  | gotEnd hm hh hr he => exact mem_queue_post (s := s) ht (.gracefulSessionEnd hm)
  | takeTask hdt hd =>
    obtain ⟨-, hq, -⟩ := takeTask_done hd
    exact .inl (by rw [hq]; exact List.mem_cons_of_mem _ ht)
  | _ => exact .inl ht

/-- Channel `ch'` is `ch`, with no handler for log-in messages or init-channels that `ch` lacks. -/
structure SameHandlers (ch ch' : MasterChannel) : Prop where
  id : ch'.id = ch.id
  isServer : ch'.isServer = ch.isServer
  logInReq : ch'.expectsLogInReq = true → ch.expectsLogInReq = true
  logInRsp : ∀ p, ch'.expectsLogInRsp = some p → ch.expectsLogInRsp = some p
  openReq : ∀ h, ch'.openReqHandler = some h → h = .openChannelReq ∨ ch.openReqHandler = some h

/-- A channel has its own handlers. -/
theorem SameHandlers.refl (ch : MasterChannel) : SameHandlers ch ch :=
  ⟨rfl, rfl, fun h => h, fun _ h => h, fun _ h => .inr h⟩

/-- **An update leaves no channel where there was none, and adds no handler for log-in messages or
    init-channels.** -/
theorem Update.channel (h : Update s l s') {ch' : MasterChannel}
    (hm' : s'.masterChannel = some ch') :
    ∃ ch, s.masterChannel = some ch ∧ SameHandlers ch ch' := by
  cases h with
  | nickname active => cases active <;> exact ⟨ch', hm', .refl ch'⟩
  | takeBuilder hd =>
    obtain ⟨-, rfl⟩ := takeBuilder_done hd
    exact ⟨ch', hm', .refl ch'⟩
  | useBuilder hd =>
    obtain ⟨-, rfl⟩ := takeBuilder_done hd
    exact ⟨ch', hm', .refl ch'⟩
  | emitError hm hh e =>
    cases hm'
    exact ⟨_, hm, rfl, rfl, fun h => h, fun _ h => h, fun _ h => .inr h⟩
  | failCall hm hh e =>
    cases hm'
    exact ⟨_, hm, rfl, rfl, fun h => h, fun _ h => h, fun _ h => .inr h⟩
  | transmit hm hh m =>
    cases hm'
    exact ⟨_, hm, rfl, rfl, fun h => h, fun _ h => h, fun _ h => .inr h⟩
  -- Of all updates, only the two expectations of requests set a handler, and they set it on the
  -- same channel.
  | flushTo hm hh =>
    cases hm'
    exact ⟨_, hm, rfl, rfl, fun h => h, fun _ h => h, fun _ h => .inl (Option.some.inj h).symm⟩
  | undoExpect hm hh =>
    cases hm'
    exact ⟨_, hm, rfl, rfl, fun h => h, fun _ h => h, fun _ h => by cases h⟩
  | expectEnd hm hh =>
    cases hm'
    exact ⟨_, hm, rfl, rfl, fun h => h, fun _ h => h, fun _ h => .inr h⟩
  | takeEnd hm hh =>
    cases hm'
    exact ⟨_, hm, rfl, rfl, fun h => h, fun _ h => h, fun _ h => .inr h⟩
  | cache hm hh hr =>
    cases hm'
    exact ⟨_, hm, rfl, rfl, fun h => h, fun _ h => h, fun _ h => .inr h⟩
  -- A one-off expectation that is met is gone.
  | gotLogInReq hm hh hr he hb =>
    cases hm'
    exact ⟨_, hm, rfl, rfl, fun h => (by cases h), fun _ h => h, fun _ h => .inr h⟩
  | gotLogInRsp hm hh hr he =>
    cases hm'
    exact ⟨_, hm, rfl, rfl, fun h => h, fun _ h => (by cases h), fun _ h => .inr h⟩
  | gotEnd hm hh hr he =>
    cases hm'
    exact ⟨_, hm, rfl, rfl, fun h => h, fun _ h => h, fun _ h => .inr h⟩
  | takeTask hdt hd =>
    obtain ⟨-, -, hs⟩ := takeTask_done hd
    rw [hs] at hm'
    exact ⟨ch', hm', .refl ch'⟩
  | _ => exact ⟨ch', hm', .refl ch'⟩

/-! ### The calls on the channel -/

/-- `send()` is an update for the message that goes out, or for the error that it emits. -/
theorem SendResult.updates {m : Nat → Msg} (hL : ∀ id, L (.transmit (m id)))
    (hm : s.masterChannel = some ch) (h : SendResult s ch m r c s') : Updates L s s' := by
  cases h with
  | ok hh => exact .ofMark (hL _) (.transmit hm hh _)
  | refusedOld => exact .refl s
  | refusedNew hh e => exact .of (.emitError hm hh e)
  | failed hh e => exact .of (.failCall hm hh e)

/-- A call on the channel that emits no error is no update but for its effect. -/
theorem NoErrorResult.updates {t : Session} {ok : Bool} (hm : s.masterChannel = some ch)
    (h : NoErrorResult s ch t ok s') (ht : ch.hosed = false → Updates L s t) : Updates L s s' := by
  cases h with
  | ok hh => exact ht hh
  | refusedOld => exact .refl s
  | refusedNew hh e => exact .of (.emitError hm hh e)

/-- `expect_msgs()` is the update of what is expected. -/
theorem expectOpenChannelReqs_updates {ok : Bool} (hL : L .expect)
    (hd : s.expectOpenChannelReqs .openChannelReq r = .done (ok, s')) : Updates L s s' := by
  obtain ⟨ch, hm, hr⟩ := expectOpenChannelReqs_done hd
  exact hr.updates hm fun hh => .ofMark hL (.flushTo hm hh)

/-- So is `undo_expect_msgs()`. -/
theorem undoExpectOpenChannelReqs_updates {ok : Bool} (hL : L .expect)
    (hd : s.undoExpectOpenChannelReqs r = .done (ok, s')) : Updates L s s' := by
  obtain ⟨ch, hm, hr⟩ := undoExpectOpenChannelReqs_done hd
  exact hr.updates hm fun hh => .ofMark hL (.undoExpect hm hh)

/-- An error of the channel's own is an update. -/
theorem channelError_updates {e : Err} (hd : s.channelError e = .done s') : Updates L s s' := by
  obtain ⟨ch, hm, hh, rfl⟩ := channelError_done hd
  exact .of (.emitError hm hh e)

/-- So is a message that arrives. -/
theorem deliver_updates {m : Msg} (hL : L (.arrive m)) (hd : s.deliver m = .done s') :
    Updates L s s' := by
  obtain ⟨ch, hm, hh, ⟨req, hr, rfl⟩ | ⟨hr, rfl⟩⟩ := deliver_done hd
  · unfold deliverRsp
    split
    · rename_i id attempt he
      split
      · rename_i hid
        subst hid
        exact .ofMark hL (.gotLogInRsp hm hh hr he)
      · exact .refl s
    · split
      · rename_i k id hw
        split
        · exact .ofMark hL (.gotRsp hw m)
        · exact .refl s
      · exact .refl s
  · unfold deliverUnsolicited
    split
    · rename_i r hb
      split
      · rename_i he
        exact .ofMark hL (.gotLogInReq hm hh hr he hb)
      · exact .ofMark hL (.cache hm hh hr)
    · rename_i hb
      split
      · rename_i he
        exact .ofMark hL (.gotEnd hm hh hr he hb)
      · exact .ofMark hL (.cache hm hh hr)
    · split
      · rename_i ha ho
        exact .ofMark hL (.gotOpenReq hm hh hr ho ha)
      · exact .ofMark hL (.cache hm hh hr)

/-! ### The code of PEER state -/

/-- So is the return of a call. -/
theorem returned_update {call : Nat} {req : Option Nat} {ret : Bool} {err : ErrorCode}
    {target : Option ChannelObj} :
    Update s (some (.call (.openChannelReturned call req ret err target)))
      (s.returned call req ret err target) :=
  .record (e := .openChannelReturned call req ret err target) rfl

/-- Thread W's part of `open_channel()` is made of its own updates, and of the request that it
    sends. -/
theorem openChannelBody_updates {inPeer : Bool} {call : Nat} {b : Builder}
    (hL : ∀ k, k.isOpenChannel = true → L k) (hT : ∀ id, L (.transmit ⟨id, none, b.hndl, b.body⟩))
    (hw : s.w = .idle) (hd : s.openChannelBody inPeer call b r = .done s') : Updates L s s' := by
  obtain ⟨-, -, hr⟩ := openChannelBody_done hd
  cases hr with
  | hosed => exact .ofMark (hL _ rfl) returned_update
  | sent hp ch hm hh =>
    have h₁ : Updates L s (s.transmit ch ⟨ch.nextMsgId, none, b.hndl, b.body⟩) :=
      .ofMark (hT _) (.transmit hm hh _)
    exact h₁.tailMark (hL _ rfl) (.setW (by exact hw ▸ rfl) rfl rfl)
  | refusedOld => exact .ofMark (hL _ rfl) returned_update
  | refusedNew hp ch hm hh e =>
    have h₁ : Updates L s (s.emitError ch e) := .of (.emitError hm hh e)
    exact h₁.tailMark (hL _ rfl) returned_update
  | failed hp ch hm hh e =>
    have h₁ : Updates L s (s.failCall ch e) := .of (.failCall hm hh e)
    have h₂ := h₁.tailMark (hL (.hose e .openChannel) rfl) (.emitHosed hp fun _ => by simp)
    exact h₂.tailMark (hL _ rfl) returned_update

/-- Thread W comes back from a `sync_request()` without a response. -/
theorem SyncNoResponse.updates {r : SyncRes} {e : Option Err} (hL : L (.setW .idle))
    (hw : s.w.isServing = true) (h : SyncNoResponse s r e s') : Updates L s s' := by
  have hidle : Updates L s (s.setW .idle) := .ofMark hL (.setW hw rfl rfl)
  cases h with
  | timeout => exact hidle
  | refusedOld => exact hidle
  | refusedNew ch hm hh e =>
    have hm : (s.setW .idle).masterChannel = some ch := hm
    exact hidle.tail (.emitError hm hh e)
  | failed ch hm hh e he =>
    have hm : (s.setW .idle).masterChannel = some ch := hm
    exact hidle.tail (.failCall hm hh e)

/-- `open_channel()` comes back without a response, with its own updates. -/
theorem NoResponseResult.updates {call req : Nat} {r : SyncRes}
    (hL : ∀ k, k.isOpenChannel = true → L k) (hw : s.w.isServing = true)
    (h : NoResponseResult s call req r s') : Updates L s s' := by
  have hidle : Updates L s (s.setW .idle) := .ofMark (hL _ rfl) (.setW hw rfl rfl)
  cases h with
  | timeout => exact hidle.tailMark (hL _ rfl) returned_update
  | refusedOld => exact hidle.tailMark (hL _ rfl) returned_update
  | refusedNew ch hm hh e =>
    have hm : (s.setW .idle).masterChannel = some ch := hm
    have h₁ : Updates L s ((s.setW .idle).emitError ch e) := hidle.tail (.emitError hm hh e)
    exact h₁.tailMark (hL _ rfl) returned_update
  | failed ch hm hh hp e =>
    have hm : (s.setW .idle).masterChannel = some ch := hm
    have h₁ : Updates L s ((s.setW .idle).failCall ch e) := hidle.tail (.failCall hm hh e)
    have h₂ := h₁.tailMark (hL (.hose e .openChannel) rfl) (.emitHosed hp.2 fun _ => by simp)
    exact h₂.tailMark (hL _ rfl) returned_update

/-- The answer to the peer is made of its own updates, and of the response that it sends. -/
theorem RespondResult.updates {m : Msg} {p : Prepared} (hL : ∀ k, k.isRespond = true → L k)
    (hT : ∀ id, L (.transmit ⟨id, some m.id, p.hndl, p.rsp⟩)) (hm : s.masterChannel = some ch)
    (h : RespondResult s m p ch r s') : Updates L s s' := by
  cases h with
  | accepted hh ha =>
    have h₁ : Updates L s (s.transmit ch ⟨ch.nextMsgId, some m.id, p.hndl, p.rsp⟩) :=
      .ofMark (hT _) (.transmit hm hh _)
    exact h₁.tailMark (hL _ rfl) (.record (e := .passiveOpen m.id p.opened m.body.mdt) rfl)
  | rejected hh ha => exact .ofMark (hT _) (.transmit hm hh _)
  | refusedOld => exact .refl s
  | refusedNew hh e => exact .of (.emitError hm hh e)
  | failed hh hp e =>
    have h₁ : Updates L s (s.failCall ch e) := .of (.failCall hm hh e)
    exact h₁.tailMark (hL _ rfl) (.emitHosed hp.2 fun _ => by simp)

/-- The session is hosed, if it is not yet. -/
theorem hoseIfNot_updates {e : Err} {site : HoseSite} (hL : L (.hose e site))
    (hc : site.isOwnCall = false) (hd : s.hoseIfNot e site = .done s') : Updates L s s' := by
  obtain ⟨-, ⟨-, rfl⟩ | ⟨hp, rfl⟩⟩ := hoseIfNot_done hd
  · exact .refl _
  · exact .ofMark hL (.emitHosed hp fun h => by rw [hc] at h; cases h)

/-- The report of an error hoses the session and tells the finisher. -/
theorem onMasterChannelErrorPeer_updates {e : Err} (hL : L .finisher)
    (hH : L (.hose e .masterChannelError)) (hd : s.onMasterChannelErrorPeer cfg e = .done s') :
    Updates L s s' := by
  obtain ⟨s₁, h₁, h₂⟩ := onMasterChannelErrorPeer_done hd
  have h₁' : Updates L s s₁ := by
    rcases h₁ with ⟨-, rfl⟩ | ⟨hp, rfl⟩
    · exact .refl _
    · exact .ofMark hH (.emitHosed hp fun h => by cases h)
  rcases h₂ with ⟨-, -, rfl⟩ | ⟨-, rfl⟩
  · exact h₁'.tailMark hL (.setFinisher true)
  · exact h₁'

/-- So does the peer's `GracefulSessionEnd`. -/
theorem onGracefulSessionEnd_updates (hL : L .finisher)
    (hH : L (.hose .sessionFinished .gracefulSessionEnd)) (hd : s.onGracefulSessionEnd = .done s') :
    Updates L s s' := by
  have hf : Updates L s (s.setFinisher true) := .ofMark hL (.setFinisher true)
  obtain ⟨-, -, ⟨-, rfl⟩ | ⟨hp, rfl⟩⟩ := onGracefulSessionEnd_done hd
  · exact hf
  · exact hf.tailMark hH (.emitHosed hp fun h => by cases h)

/-- Engaging the finisher is an update of it. -/
theorem FinisherResult.updates (hL : L .finisher) (hm : s.masterChannel = some ch)
    (h : FinisherResult s ch s') : Updates L s s' := by
  have hf : Updates L s (s.setFinisher false) := .ofMark hL (.setFinisher false)
  cases h with
  | cached hh hc => exact hf.tailMark hL (.takeEnd hm hh hc)
  | expected hh hc => exact hf.tailMark hL (.expectEnd hm hh)
  | refusedOld => exact hf
  | refusedNew hh e =>
    have h₁ : Updates L s (s.emitError ch e) := .of (.emitError hm hh e)
    exact h₁.tailMark hL (.setFinisher false)

/-- So is the call that engages it. -/
theorem emplaceGracefulFinisher_updates (hL : L .finisher)
    (hd : s.emplaceGracefulFinisher r = .done s') : Updates L s s' := by
  obtain ⟨ch, hm, hr⟩ := emplaceGracefulFinisher_done hd
  exact hr.updates hL hm

/-- `session_token()` is the update of its return. -/
theorem sessionToken_updates (hL : ∀ nil, L (.call (.sessionTokenReturned nil)))
    (hd : s.sessionToken = .done s') : Updates L s s' := by
  obtain ⟨nil, rfl⟩ := sessionToken_done hd
  exact .ofMark (hL nil) (.record rfl)

/-- The user's channel is made without a mark. -/
theorem createChannelObj_updates {mqC2s mqS2c : SharedName} {hndl : Option NativeHandle}
    {active : Bool} {mqOpen : ErrorCode} {obj : ChannelObj}
    (hd : s.createChannelObj cfg mqC2s mqS2c hndl active mqOpen = .done (obj, s')) :
    Updates L s s' := by
  simp [createChannelObj] at hd
  obtain ⟨-, -, -, -, rfl⟩ := hd
  exact .of (.nickname active)

/-! ### The destructor -/

/-- What thread U does in the destructor, and the handler of the final flush. -/
inductive DtorAct (s : Session) : Session → Prop
  | startGraceful (hd : s.dtor = .notStarted) :
      DtorAct s ((s.post .dtorFinisherQuery).setDtor .querying)
  | startPlain (hd : s.dtor = .notStarted) : DtorAct s ((s.post .dtorFlush).setDtor .flushing)
  | sendEnd (hd : s.dtor = .queried true) :
      DtorAct s ((s.post .dtorSendEnd).setDtor .sendingEnd)
  | noFinisher (hd : s.dtor = .queried false) : DtorAct s ((s.post .dtorFlush).setDtor .flushing)
  | peerDone (hd : s.dtor = .awaitingPeer) (hf : s.gracefulFinisher = some true) :
      DtorAct s ((s.post .dtorFlush).setDtor .flushing)
  | flushDone (hw : s.w = .flushing true) : DtorAct s ((s.setW .idle).setDtor .flushed)
  | stop (hd : s.dtor = .flushed) (hw : s.w = .idle) :
      DtorAct s ((s.setW .stopped).setDtor .stopped)

/-- What thread W does for the destructor, once it has taken the task. -/
inductive DtorTask (s : Session) : Task → Session → Prop
  | finisherQuery : DtorTask s .dtorFinisherQuery (s.setDtor (.queried s.gracefulFinisher.isSome))
  | sendEnd {s' : Session} (hf : s.gracefulFinisher.isSome = true) (h : Updates Mark.isSendEnd s s')
      (hw : s'.w = s.w) :
      DtorTask s .dtorSendEnd (s'.setDtor .awaitingPeer)
  | noChannel (hm : s.masterChannel = none) : DtorTask s .dtorFlush (s.setDtor .flushed)
  | flush (hm : s.masterChannel.isSome = true) (willRun : Bool) :
      DtorTask s .dtorFlush (s.setW (.flushing willRun))

/-- The start of the destructor is a step of thread U's. -/
theorem dtorStart_act (hd : s.dtorStart cfg = .done s') : DtorAct s s' := by
  simp only [dtorStart, Outcome.bind_eq_done, Outcome.require_eq_done] at hd
  obtain ⟨-, hn, hd⟩ := hd
  have hn : s.dtor = .notStarted := of_decide_eq_true hn
  split at hd <;> cases hd
  · exact .startGraceful hn
  · exact .startPlain hn

/-- So is each of its points. -/
theorem dtorStep_act (hd : s.dtorStep = .done s') : DtorAct s s' := by
  simp only [dtorStep] at hd
  split at hd <;> rename_i hdt <;> simp at hd
  · subst hd; exact .sendEnd hdt
  · subst hd; exact .noFinisher hdt
  · obtain ⟨hf, rfl⟩ := hd; exact .peerDone hdt hf
  · obtain ⟨hw, rfl⟩ := hd; exact .stop hdt hw

/-- Only a destructor that has started goes on. -/
theorem dtorStep_started (hd : s.dtorStep = .done s') : s.dtor ≠ .notStarted := by
  intro hn
  simp [dtorStep, hn] at hd

/-- What is over is a flush whose handler runs. -/
theorem dtorFlushDone_worker (hd : s.dtorFlushDone = .done s') : s.w = .flushing true := by
  simp only [dtorFlushDone, Outcome.bind_eq_done, Outcome.require_eq_done] at hd
  obtain ⟨-, hw, -⟩ := hd
  exact of_decide_eq_true hw

/-- Its end takes thread U on. -/
theorem dtorFlushDone_act (hd : s.dtorFlushDone = .done s') : DtorAct s s' := by
  simp [dtorFlushDone] at hd
  obtain ⟨hw, rfl⟩ := hd
  exact .flushDone hw

/-- Sending the `GracefulSessionEnd` is a task of the destructor's. -/
theorem dtorSendEnd_task (hd : s.dtorSendEnd r = .done s') : DtorTask s .dtorSendEnd s' := by
  obtain ⟨ch, c, s₁, hm, hf, hr, rfl⟩ := dtorSendEnd_done hd
  have hL : ∀ id, Mark.isSendEnd (.transmit ⟨id, none, none, .gracefulSessionEnd⟩) := fun _ => rfl
  refine .sendEnd hf (hr.updates hL hm) ?_
  cases hr <;> rfl

/-- So is the flush. -/
theorem dtorFlush_task (willRun : Bool) : DtorTask s .dtorFlush (s.dtorFlush willRun) := by
  unfold dtorFlush
  split
  · exact .noChannel ‹_›
  · rename_i ch hm
    exact .flush (by rw [hm]; rfl) willRun

end Session

end IpcSession
