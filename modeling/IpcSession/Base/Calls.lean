import IpcSession.Base.Errors

namespace IpcSession

/-!
# What session code does not do for the user

The user's calls leave traces in a session: the handlers, the metadata builders that `mdt_builder()`
has returned, the queued bodies of `open_channel()` and the one that waits in `sync_request()`.
`Session.SameCalls s s'` says that a piece of code adds none; all common session code but the
calls themselves is such.
-/

/-- `init_handlers()` returned `true`. -/
def Event.isEntered : Event → Bool
  | initHandlersReturned ok => ok
  | _ => false

/-- The body of `open_channel()`. -/
def Task.isOpenChannel : Task → Bool
  | openChannel .. => true
  | _ => false

/-- A request of the peer's is not a call of the user's. -/
@[simp] theorem OpenReqHandler.task_isOpenChannel (h : OpenReqHandler) (chan : Nat) (m : Msg) :
    (h.task chan m).isOpenChannel = false := by
  cases h <;> rfl

namespace Session

variable {s s' s'' : Session} {ch : MasterChannel} {r : Ret} {c : Called} {cfg : Cfg}

/-- No call of the user has come in. -/
structure SameCalls (s s' : Session) : Prop where
  onErrFuncSet : s'.onErrFuncSet = s.onErrFuncSet
  onPassiveOpenSet : s'.onPassiveOpenSet = s.onPassiveOpenSet
  builders : ∀ p ∈ s'.builders, p ∈ s.builders
  tasks : ∀ call b, Task.openChannel call b ∈ s'.queue → Task.openChannel call b ∈ s.queue
  sync : ∀ call opened req rsp, s'.w = .inSyncRequest (.openChannel call opened) req rsp →
    ∃ rsp', s.w = .inSyncRequest (.openChannel call opened) req rsp'
  entered : s'.log.countP Event.isEntered = s.log.countP Event.isEntered

namespace SameCalls

theorem refl (s : Session) : SameCalls s s :=
  ⟨rfl, rfl, fun _ => id, fun _ _ => id, fun _ _ _ rsp h => ⟨rsp, h⟩, rfl⟩

theorem trans (h : SameCalls s s') (h' : SameCalls s' s'') : SameCalls s s'' where
  onErrFuncSet := h'.onErrFuncSet.trans h.onErrFuncSet
  onPassiveOpenSet := h'.onPassiveOpenSet.trans h.onPassiveOpenSet
  builders := fun p hp => h.builders p (h'.builders p hp)
  tasks := fun call b hb => h.tasks call b (h'.tasks call b hb)
  sync := fun call opened req rsp hw => by
    obtain ⟨rsp', hw'⟩ := h'.sync call opened req rsp hw
    exact h.sync call opened req rsp' hw'
  entered := h'.entered.trans h.entered

/-! ### The single updates -/

/-- A piece of code that leaves the handlers, the builders and thread W's place alone. -/
theorem of_eq {q : List Task} {l : List Event} (ho : s'.onErrFuncSet = s.onErrFuncSet)
    (hp : s'.onPassiveOpenSet = s.onPassiveOpenSet)
    (hb : s'.builders = s.builders) (hw : s'.w = s.w) (hq : s'.queue = s.queue ++ q)
    (ht : ∀ t ∈ q, t.isOpenChannel = false) (hl : s'.log = s.log ++ l)
    (he : ∀ e ∈ l, e.isEntered = false) : SameCalls s s' where
  onErrFuncSet := ho
  onPassiveOpenSet := hp
  builders := fun p hm => hb ▸ hm
  tasks := fun call b hm => by
    rw [hq] at hm
    rcases List.mem_append.mp hm with hm | hm
    · exact hm
    · cases ht _ hm
  sync := fun call opened req rsp h => ⟨rsp, hw ▸ h⟩
  entered := by
    have hes : l.countP Event.isEntered = 0 :=
      List.countP_eq_zero.mpr fun e hm => by simp [he e hm]
    rw [hl, List.countP_append, hes, Nat.add_zero]

/-- An event that is not the return of `init_handlers()`. -/
theorem record {e : Event} (he : e.isEntered = false) : SameCalls s (s.record e) :=
  of_eq rfl rfl rfl rfl (q := []) (by simp) (by simp) rfl (by simpa using he)

/-- A task other than that of `open_channel()` joins the queue. -/
theorem post {t : Task} (ht : t.isOpenChannel = false) : SameCalls s (s.post t) :=
  of_eq rfl rfl rfl rfl rfl (by simpa using ht) (l := []) (by simp) (by simp)

/-- A call of `open_channel()` returns: its handler is the user's own. -/
theorem returned {call : Nat} {req : Option Nat} {ret : Bool} {err : ErrorCode}
    {target : Option ChannelObj} : SameCalls s (s.returned call req ret err target) :=
  of_eq rfl rfl rfl rfl (q := []) (by simp) (by simp) rfl (by simp [Event.isEntered])

/-- The on-error handler runs. -/
theorem emitHosed (e : Err) (site : HoseSite) : SameCalls s (s.emitHosed e site) :=
  of_eq rfl rfl rfl rfl (q := []) (by simp) (by simp) rfl (by simp [Event.isEntered])

/-- The channel finds an error, which is queued to be reported. -/
theorem emitError (ch : MasterChannel) (e : Err) : SameCalls s (s.emitError ch e) :=
  of_eq rfl rfl rfl rfl rfl (by simp [Task.isOpenChannel]) rfl (by simp [Event.isEntered])

/-- A call on the channel emits the error. -/
theorem failCall (ch : MasterChannel) (e : Err) : SameCalls s (s.failCall ch e) :=
  of_eq rfl rfl rfl rfl (q := []) (by simp) (by simp) rfl (by simp [Event.isEntered])

/-- A message goes out. -/
theorem transmit (ch : MasterChannel) (m : Msg) : SameCalls s (s.transmit ch m) :=
  of_eq rfl rfl rfl rfl (q := []) (by simp) (by simp) rfl (by simp [Event.isEntered])

/-- Messages kept for a handler become its tasks, none of which is a call. -/
theorem flushTo (ch : MasterChannel) (h : OpenReqHandler) : SameCalls s (s.flushTo ch h) := by
  refine of_eq rfl rfl rfl rfl rfl (fun t ht => ?_) (l := []) (by simp) (by simp)
  obtain ⟨m, -, rfl⟩ := List.mem_map.mp ht
  simp

/-- The channel, the finisher, the namespaces and the destructor are no calls. -/
theorem setChannel (ch : MasterChannel) : SameCalls s (s.setChannel ch) := { SameCalls.refl s with }

/-- The channel goes. -/
theorem dropChannel : SameCalls s s.dropChannel := { SameCalls.refl s with }

/-- The finisher's promise is fulfilled. -/
theorem setFinisher (b : Bool) : SameCalls s (s.setFinisher b) := { SameCalls.refl s with }

/-- The destructor comes to its next point. -/
theorem setDtor (d : Dtor) : SameCalls s (s.setDtor d) := { SameCalls.refl s with }

/-- The session gets its cli-namespace. -/
theorem putCliNamespace (name : SharedName) : SameCalls s (s.putCliNamespace name) :=
  { SameCalls.refl s with }

/-- Thread W comes to a place other than the `sync_request()` of `open_channel()`. -/
theorem setW {w : Worker} (hw : w.inOpenChannel = false) : SameCalls s (s.setW w) :=
  { SameCalls.refl s with
    sync := fun call opened req rsp h => by
      have h : w = .inSyncRequest (.openChannel call opened) req rsp := h
      rw [h] at hw
      cases hw }

/-- A builder is used up. -/
theorem takeBuilder {call : Nat} {b : Option Builder} (hd : s.takeBuilder call = .done (b, s')) :
    SameCalls s s' := by
  obtain ⟨-, rfl⟩ := takeBuilder_done hd
  exact { SameCalls.refl s with builders := fun p hp => List.mem_of_mem_eraseP hp }

/-- A task leaves the queue: those that are left were there before. -/
theorem takeTask {t : Task} (hd : s.takeTask = .done (t, s')) : SameCalls s s' := by
  obtain ⟨-, hq, hs⟩ := takeTask_done hd
  have hqm : ∀ t, t ∈ s'.queue → t ∈ s.queue := fun t ht => hq ▸ List.mem_cons_of_mem _ ht
  generalize s'.queue = q at hs hqm
  subst hs
  exact { SameCalls.refl s with tasks := fun call b => hqm _ }

/-- Running numbers and records. -/
theorem adds {es : List Event} (he : ∀ e ∈ es, e.isEntered = false) {n m : Nat} :
    SameCalls s { s with
      lastPassivelyOpenedChannelId := n, lastActivelyOpenedChannelId := m, log := s.log ++ es } :=
  of_eq rfl rfl rfl rfl (q := []) (by simp) (by simp) rfl he

end SameCalls

/-! ### The calls on the channel -/

/-- Whatever `send()` comes to, the calls are not its business. -/
theorem SendResult.sameCalls {m : Nat → Msg} (h : SendResult s ch m r c s') : SameCalls s s' := by
  cases h with
  | ok => exact .transmit ch _
  | refusedOld => exact .refl s
  | refusedNew => exact .emitError ch _
  | failed => exact .failCall ch _

/-- A call on the channel that emits no error does no more than its effect. -/
theorem NoErrorResult.sameCalls {t : Session} {ok : Bool} (h : NoErrorResult s ch t ok s')
    (ht : SameCalls s t) : SameCalls s s' := by
  cases h with
  | ok => exact ht
  | refusedOld => exact .refl s
  | refusedNew => exact .emitError ch _

/-- An error of the channel's own. -/
theorem channelError_sameCalls {e : Err} (hd : s.channelError e = .done s') : SameCalls s s' := by
  obtain ⟨ch, -, -, rfl⟩ := channelError_done hd
  exact .emitError ch e

/-- A message of the peer's. -/
theorem deliver_sameCalls {m : Msg} (hd : s.deliver m = .done s') : SameCalls s s' := by
  obtain ⟨ch, -, -, ⟨req, -, rfl⟩ | ⟨-, rfl⟩⟩ := deliver_done hd
  · unfold deliverRsp
    split
    · split
      · exact (SameCalls.setChannel _).trans (.post rfl)
      · exact .refl s
    · split
      · rename_i k id hw
        split
        · -- the waiting call stays the same, only its response is in
          refine { SameCalls.refl s with sync := fun call opened req' rsp h => ⟨none, ?_⟩ }
          have h : Worker.inSyncRequest k id (some m) =
            .inSyncRequest (.openChannel call opened) req' rsp := h
          cases h
          exact hw
        · exact .refl s
      · exact .refl s
  · unfold deliverUnsolicited
    split
    · split
      · exact (SameCalls.setChannel _).trans (.post rfl)
      · exact .setChannel _
    · split
      · exact (SameCalls.setChannel _).trans (.post rfl)
      · exact .setChannel _
    · split
      · exact .post (by simp)
      · exact .setChannel _

/-! ### The code of PEER state -/

/-- `open_channel()` either comes to an end or waits in its `sync_request()`. -/
theorem openChannelBody_calls {inPeer : Bool} {call : Nat} {b : Builder}
    (hd : s.openChannelBody inPeer call b r = .done s') :
    SameCalls s s' ∨ ∃ s₁ req, SameCalls s s₁ ∧
      s' = s₁.setW (.inSyncRequest (.openChannel call b.openedChannel) req none) := by
  obtain ⟨-, -, hr⟩ := openChannelBody_done hd
  cases hr with
  | hosed => exact .inl .returned
  | sent hp ch hm => exact .inr ⟨_, _, .transmit ch _, rfl⟩
  | refusedOld => exact .inl .returned
  | refusedNew hp ch hm hh e => exact .inl ((SameCalls.emitError ch e).trans .returned)
  | failed hp ch hm hh e =>
    exact .inl (((SameCalls.failCall ch e).trans (.emitHosed e _)).trans .returned)

/-- The `sync_request()` comes back without a response. -/
theorem NoResponseResult.sameCalls {call req : Nat} {r : SyncRes}
    (h : NoResponseResult s call req r s') : SameCalls s s' := by
  have hidle : SameCalls s (s.setW .idle) := .setW rfl
  cases h with
  | timeout => exact hidle.trans .returned
  | refusedOld => exact hidle.trans .returned
  | refusedNew ch hm hh e => exact (hidle.trans (.emitError ch e)).trans .returned
  | failed ch hm hh hp e =>
    exact ((hidle.trans (.failCall ch e)).trans (.emitHosed e _)).trans .returned

/-- The peer's request is answered. -/
theorem RespondResult.sameCalls {m : Msg} {p : Prepared} (h : RespondResult s m p ch r s') :
    SameCalls s s' := by
  cases h with
  | accepted => exact (SameCalls.transmit ch _).trans (.record rfl)
  | rejected => exact .transmit ch _
  | refusedOld => exact .refl s
  | refusedNew hh e => exact .emitError ch e
  | failed hh hp e => exact (SameCalls.failCall ch e).trans (.emitHosed e _)

/-- The error is reported in PEER state. -/
theorem onMasterChannelErrorPeer_sameCalls {e : Err}
    (hd : s.onMasterChannelErrorPeer cfg e = .done s') : SameCalls s s' := by
  obtain ⟨s₁, h₁, h₂⟩ := onMasterChannelErrorPeer_done hd
  have h₁' : SameCalls s s₁ := by
    rcases h₁ with ⟨-, rfl⟩ | ⟨-, rfl⟩
    · exact .refl _
    · exact .emitHosed e _
  rcases h₂ with ⟨-, -, rfl⟩ | ⟨-, rfl⟩
  · exact h₁'.trans (.setFinisher true)
  · exact h₁'

/-- The peer has started its destructor. -/
theorem onGracefulSessionEnd_sameCalls (hd : s.onGracefulSessionEnd = .done s') :
    SameCalls s s' := by
  obtain ⟨-, -, ⟨-, rfl⟩ | ⟨-, rfl⟩⟩ := onGracefulSessionEnd_done hd
  · exact .setFinisher true
  · exact (SameCalls.setFinisher true).trans (.emitHosed _ _)

/-- The finisher is engaged. -/
theorem FinisherResult.sameCalls (h : FinisherResult s ch s') : SameCalls s s' := by
  have hf : SameCalls s (s.setFinisher false) := .setFinisher false
  cases h with
  | cached hh hc => exact (hf.trans (.setChannel _)).trans (.post rfl)
  | expected hh hc => exact hf.trans (.setChannel _)
  | refusedOld hh => exact hf
  | refusedNew hh e => exact (SameCalls.emitError ch e).trans (.setFinisher false)

/-- `session_token()` runs. -/
theorem sessionToken_sameCalls (hd : s.sessionToken = .done s') : SameCalls s s' := by
  obtain ⟨nil, rfl⟩ := sessionToken_done hd
  exact .record rfl

/-! ### The destructor -/

/-- The destructor starts. -/
theorem dtorStart_sameCalls (hd : s.dtorStart cfg = .done s') : SameCalls s s' := by
  simp only [dtorStart, Outcome.bind_eq_done] at hd
  obtain ⟨-, -, hd⟩ := hd
  split at hd <;> cases hd <;> exact (SameCalls.post rfl).trans (.setDtor _)

/-- It tells the peer so. -/
theorem dtorSendEnd_sameCalls (hd : s.dtorSendEnd r = .done s') : SameCalls s s' := by
  obtain ⟨ch, c, s₁, -, -, hr, rfl⟩ := dtorSendEnd_done hd
  exact hr.sameCalls.trans (.setDtor _)

/-- It flushes what has been sent. -/
theorem dtorFlush_sameCalls (willRun : Bool) : SameCalls s (s.dtorFlush willRun) := by
  unfold dtorFlush
  split
  · exact .setDtor _
  · exact .setW rfl

/-- It goes on to its next point. -/
theorem dtorStep_sameCalls (hd : s.dtorStep = .done s') : SameCalls s s' := by
  simp only [dtorStep] at hd
  split at hd <;> simp at hd
  · subst hd; exact (SameCalls.post rfl).trans (.setDtor _)
  · subst hd; exact (SameCalls.post rfl).trans (.setDtor _)
  · obtain ⟨-, rfl⟩ := hd; exact (SameCalls.post rfl).trans (.setDtor _)
  · obtain ⟨-, rfl⟩ := hd
    have hw : SameCalls s (s.setW .stopped) := .setW rfl
    exact hw.trans (.setDtor _)

/-- The flush is over. -/
theorem dtorFlushDone_sameCalls (hd : s.dtorFlushDone = .done s') : SameCalls s s' := by
  simp [dtorFlushDone] at hd
  obtain ⟨-, rfl⟩ := hd
  have hw : SameCalls s (s.setW .idle) := .setW rfl
  exact hw.trans (.setDtor _)

end Session

end IpcSession
