import IpcSession.Base.Calls
import IpcSession.Base.Hosing
import IpcSession.Base.Updates

namespace IpcSession

/-!
# The barrier of a graceful finish, on one side

`Graceful_finisher` has one promise and two that fulfil it: the peer's `GracefulSessionEnd`, which
must be the first to, and an error of the channel, which need not.

* `Session.Barrier` — a `GracefulSessionEnd` that is to come finds the promise unfulfilled; every
  update keeps it but those of the finisher itself, which `Barrier.onGracefulSessionEnd`,
  `Barrier.onMasterChannelErrorPeer` and `Barrier.emplaceGracefulFinisher` are about.
* `Session.EndBook K D` — where the code has from what it says of a graceful finish: what it says of
  the peer from the peer's `GracefulSessionEnd`, if `K`, or from the channel; what it says to the
  peer from its own destructor, if `D`; and the on-error handler runs once.
* `Mark.FitsBook` — the marks of the updates that keep the book.
-/

/-- The message with which a side says that its destructor has started. -/
def Msg.isEnd (m : Msg) : Bool := m.rspTo.isNone && m.body = .gracefulSessionEnd

/-- An unsolicited `GracefulSessionEnd` is the peer's last word. -/
theorem Msg.isEnd_of {m : Msg} (hr : m.rspTo = none) (hb : m.body = .gracefulSessionEnd) :
    m.isEnd = true := by
  simp [isEnd, hr, hb]

/-- The report of the error of channel `chan`. -/
def Task.isErrorOf (chan : Nat) : Task → Bool
  | masterChannelError c _ => c = chan
  | _ => false

/-- Neither the peer's `GracefulSessionEnd` nor an error. -/
def Task.isBeside : Task → Bool
  | gracefulSessionEnd _ => false
  | masterChannelError .. => false
  | _ => true

/-- The marks of the updates that keep the book; `F` says that the channel has emitted
    `S_SESSION_FINISHED`. -/
def Mark.FitsBook (K D F : Prop) : Mark → Prop
  | arrive m => m.isEnd = true → K
  | transmit m => m.isEnd = true → D
  | hose e site => e = .sessionFinished → site.isOwnCall = true ∨ K ∨ F
  | keepErr e => e = .sessionFinished → F
  | _ => True

/-- What fits the books fits them under a weaker assumption. -/
theorem Mark.FitsBook.mono {K D F F' : Prop} {k : Mark} (h : k.FitsBook K D F) (hF : F → F') :
    k.FitsBook K D F' := by
  cases k with
  | hose e site => exact fun he => (h he).imp id (Or.imp id hF)
  | keepErr e => exact fun he => hF (h he)
  | _ => exact h

namespace Task

variable {t : Task}

/-- A task beside the session's end is not the report of an error. -/
theorem isErrorOf_of_isBeside (h : t.isBeside = true) (chan : Nat) : t.isErrorOf chan = false := by
  cases t <;> first | rfl | cases h

/-- Nor is it the peer's `GracefulSessionEnd`. -/
theorem isGracefulSessionEnd_of_isBeside (h : t.isBeside = true) :
    t.isGracefulSessionEnd = false := by
  cases t <;> first | rfl | cases h

/-- What the user posts is beside the session's end. -/
theorem isBeside_of_isFromUser (h : t.isFromUser = true) : t.isBeside = true := by
  cases t <;> first | rfl | cases h

end Task

/-- So is a request of the peer's. -/
@[simp] theorem OpenReqHandler.task_isBeside (h : OpenReqHandler) (chan : Nat) (m : Msg) :
    (h.task chan m).isBeside = true := by
  cases h <;> rfl

namespace Session

variable {s s' : Session} {ch : MasterChannel} {cfg : Cfg} {l : Option Mark} {L : Mark → Prop}
  {K D : Prop}

/-! ### The promise -/

/-- The tasks queued for a `GracefulSessionEnd` of the peer. -/
def ends (s : Session) : Nat := s.queue.countP Task.isGracefulSessionEnd

/-- The finisher's handler can still fire. -/
def awaitsEnd (s : Session) : Bool :=
  s.masterChannel.any fun ch => ch.expectsGracefulEnd && !ch.hosed

/-- A `GracefulSessionEnd` that is to come finds the promise unfulfilled. -/
structure Barrier (s : Session) : Prop where
  /-- An error that waits for thread W has hosed its channel. -/
  emitted : ∀ ch, s.masterChannel = some ch → ch.hosed = false →
    ∀ t ∈ s.queue, t.isErrorOf ch.id = false
  once : s.ends + s.awaitsEnd.toNat ≤ 1
  /-- Only a finisher that waits has one to come. -/
  waiting : s.gracefulFinisher ≠ some false → s.ends = 0 ∧ s.awaitsEnd = false
  /-- None comes after an error of the channel. -/
  order : ∀ ch, s.masterChannel = some ch →
    s.queue.Pairwise fun t u => t.isErrorOf ch.id = true → u.isGracefulSessionEnd = false

/-- Channel `ch'` is `ch`, and it expects no more than `ch`. -/
structure KeepsEnd (ch ch' : MasterChannel) : Prop where
  id : ch'.id = ch.id
  hosed : ch'.hosed = false → ch.hosed = false
  expects : ch'.expectsGracefulEnd = true → ch.expectsGracefulEnd = true

/-- A channel keeps what it is. -/
theorem KeepsEnd.refl (ch : MasterChannel) : KeepsEnd ch ch := ⟨rfl, fun h => h, fun h => h⟩

/-- A channel that keeps the handler of `GracefulSessionEnd` awaits it only if it did before. -/
theorem awaitsEnd_of_keepsEnd (hm : ∀ ch', s'.masterChannel = some ch' →
    ∃ ch, s.masterChannel = some ch ∧ KeepsEnd ch ch') (h : s'.awaitsEnd = true) :
    s.awaitsEnd = true := by
  simp only [awaitsEnd, Option.any_eq_true, Bool.and_eq_true, Bool.not_eq_true'] at h ⊢
  obtain ⟨ch', hch', he, hh⟩ := h
  obtain ⟨ch, hch, hk⟩ := hm ch' hch'
  exact ⟨ch, hch, hk.expects he, hk.hosed hh⟩

namespace Barrier

/-- Without a channel there is no `GracefulSessionEnd` to come. -/
theorem constructed (hm : s.masterChannel = none) (hq : s.ends = 0) : Barrier s where
  emitted := fun ch hch => by rw [hm] at hch; cases hch
  once := by simp [hq, awaitsEnd, hm]
  waiting := fun _ => ⟨hq, by simp [awaitsEnd, hm]⟩
  order := fun ch hch => by rw [hm] at hch; cases hch

/-- What else is posted changes nothing, nor does what else the channel keeps account of. -/
theorem of_posts (h : Barrier s) {u : List Task} (hq : s'.queue = s.queue ++ u)
    (ht : ∀ t ∈ u, t.isBeside = true) (hf : s'.gracefulFinisher = s.gracefulFinisher)
    (hm : ∀ ch', s'.masterChannel = some ch' →
      ∃ ch, s.masterChannel = some ch ∧ KeepsEnd ch ch') : Barrier s' := by
  have hends : s'.ends = s.ends := by
    have hts : u.countP Task.isGracefulSessionEnd = 0 := by
      rw [List.countP_eq_zero]
      exact fun t hm => by simp [Task.isGracefulSessionEnd_of_isBeside (ht t hm)]
    rw [ends, hq, List.countP_append, hts]
    rfl
  have hawaits := awaitsEnd_of_keepsEnd hm
  refine ⟨fun ch' hch' hh t hmem => ?_, ?_, fun hw => ?_, fun ch' hch' => ?_⟩
  · obtain ⟨ch, hch, hk⟩ := hm ch' hch'
    rw [hq] at hmem
    rcases List.mem_append.mp hmem with hmem | hmem
    · rw [hk.id]
      exact h.emitted ch hch (hk.hosed hh) t hmem
    · exact Task.isErrorOf_of_isBeside (ht t hmem) _
  · have honce := h.once
    rw [hends]
    cases ha : s'.awaitsEnd with
    | false => exact Nat.le_trans (Nat.le_add_right _ _) honce
    | true =>
      rw [hawaits ha] at honce
      exact honce
  · obtain ⟨he, ha⟩ := h.waiting (hf ▸ hw)
    refine ⟨hends.trans he, ?_⟩
    by_contra hn
    rw [hawaits (by simpa using hn)] at ha
    cases ha
  · obtain ⟨ch, hch, hk⟩ := hm ch' hch'
    rw [hq, hk.id, List.pairwise_append]
    refine ⟨h.order ch hch, List.Pairwise.imp_of_mem (R := fun _ _ => True) ?_ ?_, ?_⟩
    · exact fun _ hu _ _ => Task.isGracefulSessionEnd_of_isBeside (ht _ hu)
    · exact List.pairwise_of_forall fun _ _ => trivial
    · exact fun _ _ u hu _ => Task.isGracefulSessionEnd_of_isBeside (ht u hu)

/-- Nothing is posted, and the channel stays or goes. -/
theorem of_same (h : Barrier s) (hq : s'.queue = s.queue)
    (hf : s'.gracefulFinisher = s.gracefulFinisher)
    (hm : s'.masterChannel = s.masterChannel ∨ s'.masterChannel = none) : Barrier s' := by
  refine h.of_posts (u := []) (by rw [hq, List.append_nil]) (by simp) hf fun ch' hch' => ?_
  rcases hm with hm | hm
  · exact ⟨ch', hm ▸ hch', .refl ch'⟩
  · rw [hm] at hch'
    cases hch'

/-- The channel keeps account of something else, or expects the message no more; what else there is
    is posted. -/
theorem setChannel (h : Barrier s) {ch' : MasterChannel} {u : List Task}
    (hm : s.masterChannel = some ch) (hm' : s'.masterChannel = some ch') (hk : KeepsEnd ch ch')
    (hq : s'.queue = s.queue ++ u) (ht : ∀ t ∈ u, t.isBeside = true)
    (hf : s'.gracefulFinisher = s.gracefulFinisher) : Barrier s' :=
  h.of_posts hq ht hf fun ch'' hch'' => ⟨ch, hm, by rw [hm'] at hch''; cases hch''; exact hk⟩

/-- A channel is made, and no report in the queue is of it. -/
theorem makeChannel (h : Barrier s) (hm : s'.masterChannel = some ch)
    (he : ch.expectsGracefulEnd = false) (hnone : ∀ t ∈ s.queue, t.isErrorOf ch.id = false)
    (hq : s'.queue = s.queue) (hf : s'.gracefulFinisher = s.gracefulFinisher) : Barrier s' := by
  have hends : s'.ends = s.ends := by rw [ends, hq, ← ends]
  have haw : s'.awaitsEnd = false := by simp [awaitsEnd, hm, he]
  have honce := h.once
  refine ⟨fun ch' hch' _ => ?_, ?_, fun hw => ⟨hends.trans (h.waiting (hf ▸ hw)).1, haw⟩,
    fun ch' hch' => ?_⟩
  · rw [hm] at hch'
    cases hch'
    rw [hq]
    exact hnone
  · rw [hends, haw]
    exact Nat.le_trans (Nat.le_add_right _ _) honce
  · rw [hm] at hch'
    cases hch'
    rw [hq]
    refine List.Pairwise.imp_of_mem (R := fun _ _ => True) (fun ha _ _ hte => ?_)
      (List.pairwise_of_forall fun _ _ => trivial)
    rw [hnone _ ha] at hte
    cases hte

/-- The channel reports its error. -/
theorem emitError (h : Barrier s) (hm : s.masterChannel = some ch) (e : Err) :
    Barrier (s.emitError ch e) := by
  have hends : (s.emitError ch e).ends = s.ends := by
    simp [ends, Task.isGracefulSessionEnd]
  refine ⟨fun ch' hch' hh => ?_, ?_, fun hw => ?_, fun ch' hch' => ?_⟩
  · cases hch'
    cases hh
  · have honce := h.once
    simp only [hends, awaitsEnd, emitError_masterChannel, Option.any_some, Bool.not_true,
      Bool.and_false, Bool.toNat_false, Nat.add_zero]
    omega
  · exact ⟨hends.trans (h.waiting hw).1, by simp [awaitsEnd]⟩
  · cases hch'
    rw [emitError_queue, List.pairwise_append]
    refine ⟨h.order ch hm, List.pairwise_singleton _ _, fun _ _ u hu _ => ?_⟩
    rw [List.mem_singleton.mp hu]
    rfl

/-- A channel that has emitted its error expects nothing any more. -/
theorem hose (h : Barrier s) (hm : s.masterChannel = some ch) {ch' : MasterChannel}
    (hm' : s'.masterChannel = some ch') (hi : ch'.id = ch.id) (hh : ch'.hosed = true)
    (he : ch'.expectsGracefulEnd = ch.expectsGracefulEnd) (hq : s'.queue = s.queue)
    (hf : s'.gracefulFinisher = s.gracefulFinisher) : Barrier s' :=
  h.setChannel (u := []) hm hm' ⟨hi, fun h => (by rw [hh] at h; cases h), fun h => he ▸ h⟩
    (by rw [hq, List.append_nil]) (by simp) hf

/-- The peer's message comes to the finisher's handler. -/
theorem gotEnd (h : Barrier s) (hm : s.masterChannel = some ch) (hh : ch.hosed = false)
    (he : ch.expectsGracefulEnd = true) :
    Barrier ((s.setChannel { ch with expectsGracefulEnd := false }).post
      (.gracefulSessionEnd ch.id)) := by
  have haw : s.awaitsEnd = true := by simp [awaitsEnd, hm, hh, he]
  have honce := h.once
  rw [haw] at honce
  have hzero : s.ends = 0 := by simpa using honce
  have hone : ((s.setChannel { ch with expectsGracefulEnd := false }).post
      (.gracefulSessionEnd ch.id)).ends = s.ends + 1 := by
    simp [ends, Task.isGracefulSessionEnd]
  refine ⟨fun ch' hch' hh' t ht => ?_, ?_, fun hw => ?_, fun ch' hch' => ?_⟩
  · cases hch'
    rcases List.mem_append.mp ht with ht | ht
    · exact h.emitted ch hm hh t ht
    · rw [List.mem_singleton.mp ht]
      rfl
  · rw [hone, hzero]
    simp [awaitsEnd]
  · -- a finisher that waits no more has nothing to come
    rw [(h.waiting hw).2] at haw
    cases haw
  · cases hch'
    rw [post_queue, setChannel_queue, List.pairwise_append]
    refine ⟨h.order ch hm, List.pairwise_singleton _ _, fun t ht u _ hte => ?_⟩
    rw [h.emitted ch hm hh t ht] at hte
    cases hte

/-- Thread W takes a task. -/
theorem takeTask {t : Task} (h : Barrier s) (hd : s.takeTask = .done (t, s')) : Barrier s' := by
  obtain ⟨-, hq, hs⟩ := takeTask_done hd
  have hm : s'.masterChannel = s.masterChannel := by rw [hs]
  have hf : s'.gracefulFinisher = s.gracefulFinisher := by rw [hs]
  have haw : s'.awaitsEnd = s.awaitsEnd := by rw [awaitsEnd, hm, awaitsEnd]
  have hends : s'.ends ≤ s.ends := by
    rw [ends, ends, hq, List.countP_cons]
    exact Nat.le_add_right _ _
  refine ⟨fun ch hch hh u hu => h.emitted ch (hm ▸ hch) hh u ?_, ?_, fun hw => ?_,
    fun ch hch => ?_⟩
  · rw [hq]
    exact List.mem_cons_of_mem t hu
  · rw [haw]
    exact Nat.le_trans (Nat.add_le_add_right hends _) h.once
  · obtain ⟨he, ha⟩ := h.waiting (hf ▸ hw)
    exact ⟨Nat.le_zero.mp (he ▸ hends), haw.trans ha⟩
  · have ho := h.order ch (hm ▸ hch)
    rw [hq] at ho
    exact (List.pairwise_cons.mp ho).2

end Barrier

/-- **Every update but those of the finisher keeps the barrier.** -/
theorem Update.barrier (hu : Update s l s') (hl : l ≠ some .finisher) (h : Barrier s) :
    Barrier s' := by
  -- Every update but those of the finisher posts only tasks beside the end.
  have one : ∀ {t : Task}, t.isBeside = true → ∀ u ∈ [t], u.isBeside = true := by
    intro t ht u hu
    rw [List.mem_singleton.mp hu]
    exact ht
  have keep : ∀ ch : MasterChannel, KeepsEnd ch ch := .refl
  cases hu with
  | post ht => exact h.of_posts rfl (one (Task.isBeside_of_isFromUser ht)) rfl fun ch hch =>
      ⟨ch, hch, keep ch⟩
  | setFinisher => exact absurd rfl hl
  | expectEnd => exact absurd rfl hl
  | takeEnd => exact absurd rfl hl
  | nickname active => cases active <;> exact h.of_same rfl rfl (.inl rfl)
  | takeBuilder hd =>
    obtain ⟨-, rfl⟩ := takeBuilder_done hd
    exact h.of_same rfl rfl (.inl rfl)
  | useBuilder hd =>
    obtain ⟨-, rfl⟩ := takeBuilder_done hd
    exact h.of_posts rfl (one rfl) rfl fun ch hch => ⟨ch, hch, keep ch⟩
  | emitError hm hh e => exact h.emitError hm e
  | failCall hm hh e => exact h.hose hm rfl rfl rfl rfl rfl rfl
  | transmit hm hh m =>
    exact h.setChannel (u := []) hm rfl ⟨rfl, id, id⟩ (List.append_nil _).symm (by simp) rfl
  | flushTo hm hh =>
    refine h.setChannel hm rfl ⟨rfl, id, id⟩ (flushTo_queue _ _ _) (fun t ht => ?_) rfl
    obtain ⟨m, -, rfl⟩ := List.mem_map.mp ht
    rfl
  | undoExpect hm hh =>
    exact h.setChannel (u := []) hm rfl ⟨rfl, id, id⟩ (List.append_nil _).symm (by simp) rfl
  | cache hm hh hr =>
    exact h.setChannel (u := []) hm rfl ⟨rfl, id, id⟩ (List.append_nil _).symm (by simp) rfl
  | gotOpenReq hm hh hr ho ha =>
    exact h.of_posts rfl (one (by simp)) rfl fun ch hch => ⟨ch, hch, keep ch⟩
  | gotLogInReq hm hh hr he hb => exact h.setChannel hm rfl ⟨rfl, id, id⟩ rfl (one rfl) rfl
  | gotLogInRsp hm hh hr he => exact h.setChannel hm rfl ⟨rfl, id, id⟩ rfl (one rfl) rfl
  -- The end is delivered: the expectation is spent and its one task is queued.
  | gotEnd hm hh hr he hb => exact h.gotEnd hm hh he
  | takeTask ht hd => exact h.takeTask hd
  | _ => exact h.of_same rfl rfl (.inl rfl)

/-- Updates that leave the finisher alone keep the barrier: no promise is fulfilled by them. -/
theorem Updates.barrier (hu : Updates L s s') (hL : ¬ L .finisher) (h : Barrier s) : Barrier s' :=
  hu.keeps h fun _ _ _ hb hl hu => hu.barrier (fun he => hL (hl _ he)) hb

/-! ### The finisher's own code -/

namespace Barrier

variable {t : Task} {c : Nat} {e : Err} {r : Ret}

/-- With nothing to come, the finisher may be engaged or its promise fulfilled. -/
theorem settle (h : Barrier s) (he : s.ends = 0) (ha : s.awaitsEnd = false)
    (hq : s'.queue = s.queue) (hm : s'.masterChannel = s.masterChannel) : Barrier s' := by
  have hends : s'.ends = 0 := by rw [ends, hq, ← ends, he]
  have haw : s'.awaitsEnd = false := by rw [awaitsEnd, hm, ← awaitsEnd, ha]
  refine ⟨by rw [hq, hm]; exact h.emitted, ?_, fun _ => ⟨hends, haw⟩, by rw [hq, hm]; exact h.order⟩
  rw [hends, haw]
  exact Nat.zero_le 1

/-- **The peer's message finds the promise unfulfilled**, and it is the last. -/
theorem finisher_of_gracefulSessionEnd (h : Barrier s)
    (hd : s.takeTask = .done (.gracefulSessionEnd c, s')) :
    s.gracefulFinisher = some false ∧ s'.ends = 0 ∧ s'.awaitsEnd = false := by
  obtain ⟨-, hq, hs⟩ := takeTask_done hd
  have hm : s'.masterChannel = s.masterChannel := by rw [hs]
  have hone : s.ends = s'.ends + 1 := by
    rw [ends, hq, List.countP_cons]
    rfl
  have haw : s'.awaitsEnd = s.awaitsEnd := by rw [awaitsEnd, hm, awaitsEnd]
  have honce := h.once
  refine ⟨?_, by omega, ?_⟩
  · by_contra hn
    have hzero := (h.waiting hn).1
    omega
  · rw [haw]
    cases hx : s.awaitsEnd with
    | false => rfl
    | true =>
      rw [hx, hone] at honce
      simp at honce

/-- The handler of `GracefulSessionEnd` fulfils the promise for the one message that has come. -/
theorem onGracefulSessionEnd {b : Session} (h : Barrier s)
    (ht : s.takeTask = .done (.gracefulSessionEnd c, b)) (hd : b.onGracefulSessionEnd = .done s') :
    Barrier s' := by
  obtain ⟨-, he, ha⟩ := h.finisher_of_gracefulSessionEnd ht
  have hb : Barrier b := h.takeTask ht
  obtain ⟨-, -, ⟨-, rfl⟩ | ⟨-, rfl⟩⟩ := onGracefulSessionEnd_done hd
  · exact hb.settle he ha rfl rfl
  · exact hb.settle he ha rfl rfl

/-- Behind the report of the channel's error no message of the peer comes. -/
theorem behind_error (h : Barrier s) (hd : s.takeTask = .done (t, s'))
    (hm : s.masterChannel = some ch)
    (ht : t.isErrorOf ch.id = true) : s'.ends = 0 ∧ s'.awaitsEnd = false := by
  obtain ⟨-, hq, hs⟩ := takeTask_done hd
  have ho := h.order ch hm
  rw [hq] at ho
  refine ⟨?_, ?_⟩
  · rw [ends, List.countP_eq_zero]
    exact fun u hu => by simp [(List.pairwise_cons.mp ho).1 u hu ht]
  · have hhosed : ch.hosed = true := by
      by_contra hn
      have he := h.emitted ch hm (by simpa using hn) t (by rw [hq]; exact List.mem_cons_self)
      rw [ht] at he
      cases he
    rw [awaitsEnd, hs]
    simp [hm, hhosed]

/-- The report of the channel's error fulfils the promise: the channel has emitted one. -/
theorem onMasterChannelErrorPeer {b : Session} (h : Barrier s) (ht : s.takeTask = .done (t, b))
    (hm : s.masterChannel = some ch) (he : t.isErrorOf ch.id = true)
    (hd : b.onMasterChannelErrorPeer cfg e = .done s') : Barrier s' := by
  obtain ⟨hends, haw⟩ := h.behind_error ht hm he
  have hb : Barrier b := h.takeTask ht
  obtain ⟨b₁, h₁, h₂⟩ := onMasterChannelErrorPeer_done hd
  refine hb.settle hends haw ?_ ?_
  · rcases h₁ with ⟨-, rfl⟩ | ⟨-, rfl⟩ <;> rcases h₂ with ⟨-, -, rfl⟩ | ⟨-, rfl⟩ <;> rfl
  · rcases h₁ with ⟨-, rfl⟩ | ⟨-, rfl⟩ <;> rcases h₂ with ⟨-, -, rfl⟩ | ⟨-, rfl⟩ <;> rfl

/-- The finisher is engaged: it takes the peer's message out of the cache, or it expects it. -/
theorem emplaceGracefulFinisher (h : Barrier s) (hf : s.gracefulFinisher = none)
    (hd : s.emplaceGracefulFinisher r = .done s') : Barrier s' := by
  obtain ⟨hends, haw⟩ := h.waiting (by rw [hf]; exact nofun)
  obtain ⟨ch, hm, hr⟩ := emplaceGracefulFinisher_done hd
  -- Before the finisher is there nobody expects the end.
  have hnot : ch.hosed = false → ch.expectsGracefulEnd = false := by
    intro hh
    simpa [awaitsEnd, hm, hh] using haw
  cases hr with
  | cached hh hc =>
    refine ⟨fun ch' hch' _ t ht => ?_, ?_, fun hw => absurd rfl hw, fun ch' hch' => ?_⟩
    · cases hch'
      rcases List.mem_append.mp ht with ht | ht
      · exact h.emitted ch hm hh t ht
      · rw [List.mem_singleton.mp ht]
        rfl
    · have hends : s.queue.countP Task.isGracefulSessionEnd = 0 := hends
      simp [ends, awaitsEnd, hends, hnot hh, Task.isGracefulSessionEnd]
    · cases hch'
      simp only [post_queue, setChannel_queue, setFinisher_queue, List.pairwise_append]
      refine ⟨h.order ch hm, List.pairwise_singleton _ _, fun t ht u _ hte => ?_⟩
      rw [h.emitted ch hm hh t ht] at hte
      cases hte
  | expected hh hc =>
    refine ⟨fun ch' hch' _ t ht => ?_, ?_, fun hw => absurd rfl hw, fun ch' hch' => ?_⟩
    · cases hch'
      exact h.emitted ch hm hh t ht
    · have hends : ((s.setFinisher false).setChannel
          { ch with expectsGracefulEnd := true }).ends = 0 := hends
      rw [hends, Nat.zero_add]
      exact Bool.toNat_le _
    · cases hch'
      exact h.order ch hm
  -- On a hosed channel nothing can be expected, and the finisher waits for the error.
  | refusedOld hh => exact h.settle hends haw rfl rfl
  | refusedNew hh e =>
    have hends : (s.emitError ch e).ends = 0 := by
      simpa [ends, Task.isGracefulSessionEnd] using hends
    exact (h.emitError hm e).settle hends (by simp [awaitsEnd]) rfl rfl

end Barrier

/-! ### The book -/

/-- The channel has emitted `S_SESSION_FINISHED` of its own accord. -/
def channelFinished (s : Session) : Prop := ∃ via, Event.channelError via .sessionFinished ∈ s.log

/-- Where the code has from what it says of a graceful finish; `K` says that a `GracefulSessionEnd`
    of the peer has come in, and `D` that the destructor has started. -/
structure EndBook (K D : Prop) (s : Session) : Prop where
  cached : ∀ ch, s.masterChannel = some ch → ∀ m ∈ ch.cached, m.body = .gracefulSessionEnd → K
  queued : ∀ c, Task.gracefulSessionEnd c ∈ s.queue → K
  reported : ∀ c, Task.masterChannelError c .sessionFinished ∈ s.queue → s.channelFinished
  onErr : ∀ site, Event.onErr .sessionFinished site ∈ s.log → K ∨ s.channelFinished
  /-- The on-error handler runs once. -/
  once : s.log.countP Event.isOnErr = s.peerStateErrCodeOrOk.isSome.toNat
  /-- The user sends requests to open a channel and no other messages. -/
  builders : ∀ k b, (k, some b) ∈ s.builders → b.body.isOpenChannelReq = true
  tasks : ∀ call b, Task.openChannel call b ∈ s.queue → b.body.isOpenChannelReq = true
  sent : ∀ m ∈ s.outbox, m.isEnd = true → D

/-- Once the channel has finished, it has for good. -/
theorem channelFinished_of_log {v : List Event} (h : s.channelFinished)
    (hl : s'.log = s.log ++ v) : s'.channelFinished :=
  h.imp fun _ hv => by rw [hl]; exact List.mem_append_left v hv

namespace EndBook

/-- What has nothing to do with a graceful finish changes nothing. -/
theorem adds (h : EndBook K D s) {u : List Task} {v : List Event}
    (hc : ∀ ch', s'.masterChannel = some ch' →
      ∃ ch, s.masterChannel = some ch ∧ ∀ m ∈ ch'.cached, m ∈ ch.cached)
    (hq : s'.queue = s.queue ++ u)
    (ht : ∀ t ∈ u, t.isBeside = true ∧ t.isOpenChannel = false)
    (hl : s'.log = s.log ++ v) (he : ∀ e ∈ v, e.isOnErr = false)
    (hp : s'.peerStateErrCodeOrOk = s.peerStateErrCodeOrOk)
    (hb : ∀ p ∈ s'.builders, p ∈ s.builders) (ho : s'.outbox = s.outbox) : EndBook K D s' := by
  have old : ∀ {t : Task}, t ∈ s'.queue →
      t ∈ s.queue ∨ t.isBeside = true ∧ t.isOpenChannel = false := by
    intro t hm
    rw [hq] at hm
    exact (List.mem_append.mp hm).imp id (ht t)
  refine ⟨fun ch' hch' m hm hbody => ?_, fun c hmem => ?_, fun c hmem => ?_,
    fun site hmem => ?_, ?_,
    fun k b hm => h.builders k b (hb _ hm), fun call b hmem => ?_, ?_⟩
  · obtain ⟨ch, hch, hsub⟩ := hc ch' hch'
    exact h.cached ch hch m (hsub m hm) hbody
  · rcases old hmem with hmem | ⟨hbes, -⟩
    · exact h.queued c hmem
    · cases hbes
  · rcases old hmem with hmem | ⟨hbes, -⟩
    · exact channelFinished_of_log (h.reported c hmem) hl
    · cases hbes
  · rw [hl] at hmem
    rcases List.mem_append.mp hmem with hmem | hmem
    · exact (h.onErr site hmem).imp id fun hf => channelFinished_of_log hf hl
    · cases he _ hmem
  · have hes : v.countP Event.isOnErr = 0 :=
      List.countP_eq_zero.mpr fun e hm => by simp [he e hm]
    rw [hl, hp, List.countP_append, hes, h.once, Nat.add_zero]
  · rcases old hmem with hmem | ⟨-, hno⟩
    · exact h.tasks call b hmem
    · cases hno
  · rw [ho]
    exact h.sent

/-- Nothing but the channel changes. -/
theorem setChannel (h : EndBook K D s) (hm : s.masterChannel = some ch) {ch' : MasterChannel}
    (hc : ∀ m ∈ ch'.cached, m ∈ ch.cached) : EndBook K D (s.setChannel ch') :=
  h.adds (u := []) (v := []) (fun ch'' hch'' => ⟨ch, hm, by cases hch''; exact hc⟩)
    (List.append_nil _).symm (by simp) (List.append_nil _).symm (by simp) rfl (fun _ hp => hp)
    rfl

/-- A channel is made. -/
theorem makeChannel (h : EndBook K D s) {ch' : MasterChannel} (hc : ch'.cached = []) :
    EndBook K D (s.setChannel ch') :=
  { h with
    cached := fun ch hch m hm => by
      cases hch
      rw [hc] at hm
      cases hm }

/-- Another task is posted. -/
theorem post (h : EndBook K D s) {t : Task} (ht : t.isBeside = true)
    (hno : t.isOpenChannel = false) : EndBook K D (s.post t) :=
  h.adds (u := [t]) (v := []) (fun ch hch => ⟨ch, hch, fun _ hm => hm⟩) rfl
    (by simpa using ⟨ht, hno⟩) (List.append_nil _).symm (by simp) rfl (fun _ hp => hp) rfl

/-- The peer's message is posted. -/
theorem postEnd (h : EndBook K D s) (hK : K) (chan : Nat) :
    EndBook K D (s.post (.gracefulSessionEnd chan)) :=
  { h with
    queued := fun _ _ => hK
    reported := fun c hm => h.reported c (by simpa using hm)
    tasks := fun call b hm => h.tasks call b (by simpa using hm) }

/-- Only the record grows. -/
theorem record (h : EndBook K D s) {e : Event} (he : e.isOnErr = false) :
    EndBook K D (s.record e) :=
  h.adds (u := []) (v := [e]) (fun ch hch => ⟨ch, hch, fun _ hm => hm⟩)
    (List.append_nil _).symm (by simp) rfl (by simpa using he) rfl (fun _ hp => hp) rfl

/-- What the book does not speak of. -/
theorem of_same (h : EndBook K D s)
    (hm : s'.masterChannel = s.masterChannel ∨ s'.masterChannel = none)
    (hq : s'.queue = s.queue) (hl : s'.log = s.log)
    (hp : s'.peerStateErrCodeOrOk = s.peerStateErrCodeOrOk)
    (hb : ∀ p ∈ s'.builders, p ∈ s.builders) (ho : s'.outbox = s.outbox) : EndBook K D s' := by
  refine h.adds (u := []) (v := []) (fun ch hch => ?_) (by rw [hq, List.append_nil]) (by simp)
    (by rw [hl, List.append_nil]) (by simp) hp hb ho
  rcases hm with hm | hm
  · exact ⟨ch, hm ▸ hch, fun _ h => h⟩
  · rw [hm] at hch
    cases hch

/-- A channel emits its error out of a call. -/
theorem failCall (h : EndBook K D s) (hm : s.masterChannel = some ch) (e : Err) :
    EndBook K D (s.failCall ch e) :=
  h.adds (u := []) (v := [_]) (fun ch' hch' => ⟨ch, hm, by cases hch'; exact fun _ h => h⟩)
    (List.append_nil _).symm (by simp) rfl (by simp [Event.isOnErr]) rfl (fun _ hp => hp) rfl

/-- A channel emits its error through its handler. -/
theorem emitError (h : EndBook K D s) (hm : s.masterChannel = some ch) (e : Err) :
    EndBook K D (s.emitError ch e) := by
  have hf : EndBook K D (s.failCall ch e) := h.failCall hm e
  refine { hf with
    queued := fun c hmem => ?_
    reported := fun c hmem => ?_
    onErr := ?_
    once := ?_
    tasks := ?_ }
  · exact h.queued c (by simpa using hmem)
  · rcases List.mem_append.mp hmem with hmem | hmem
    · exact channelFinished_of_log (h.reported c hmem) rfl
    · cases List.mem_singleton.mp hmem
      exact ⟨true, by simp⟩
  · intro site hmem
    have hmem : Event.onErr .sessionFinished site ∈ s.log := by simpa using hmem
    exact (h.onErr site hmem).imp id fun hf => channelFinished_of_log hf rfl
  · simpa [Event.isOnErr] using h.once
  · exact fun call b hmem => h.tasks call b (by simpa using hmem)

/-- The on-error handler runs. -/
theorem emitHosed (h : EndBook K D s) {e : Err} {site : HoseSite}
    (hp : s.peerStateErrCodeOrOk = none) (he : e = .sessionFinished → K ∨ s.channelFinished) :
    EndBook K D (s.emitHosed e site) :=
  { h with
    reported := fun c hm => channelFinished_of_log (h.reported c hm) rfl
    onErr := fun site' hm => by
      rcases List.mem_append.mp hm with hm | hm
      · exact (h.onErr site' hm).imp id fun hf => channelFinished_of_log hf rfl
      · cases List.mem_singleton.mp hm
        exact (he rfl).imp id fun hf => channelFinished_of_log hf rfl
    once := by
      have h0 : s.log.countP Event.isOnErr = 0 := by rw [h.once, hp]; rfl
      simp [h0, Event.isOnErr] }

/-- A message is sent. -/
theorem transmit (h : EndBook K D s) (hm : s.masterChannel = some ch) {m : Msg}
    (he : m.isEnd = true → D) : EndBook K D (s.transmit ch m) := by
  have h₀ : EndBook K D (s.setChannel { ch with nextMsgId := ch.nextMsgId + 1 }) :=
    h.setChannel hm fun _ h => h
  have h₁ := h₀.record (e := .sent m) rfl
  refine { h₁ with sent := fun m' hm' => ?_ }
  rcases List.mem_append.mp hm' with hm' | hm'
  · exact h.sent m' hm'
  · rw [List.mem_singleton.mp hm']
    exact he

/-- A task is taken. -/
theorem takeTask {t : Task} (h : EndBook K D s) (hd : s.takeTask = .done (t, s')) :
    EndBook K D s' := by
  obtain ⟨-, hq, hs⟩ := takeTask_done hd
  have hmem : ∀ u ∈ s'.queue, u ∈ s.queue := fun u hu => hq ▸ List.mem_cons_of_mem t hu
  generalize s'.queue = q at hs hmem
  subst hs
  exact { h with
    queued := fun c hc => h.queued c (hmem _ hc)
    reported := fun c hc => h.reported c (hmem _ hc)
    tasks := fun call b hb => h.tasks call b (hmem _ hb) }

end EndBook

/-- The user was told of an error before, or is told of it now. -/
theorem Update.onErr_mem (hu : Update s l s') {e : Err} {site : HoseSite}
    (hm : Event.onErr e site ∈ s'.log) : Event.onErr e site ∈ s.log ∨
      l = some (.hose e site) ∧ (site.isOwnCall = true → Event.channelError false e ∈ s.log) := by
  -- An update that logs anything else leaves the reported errors as they were.
  have one : ∀ {t : Session} {e' : Event}, t.log = s.log ++ [e'] → e'.isOnErr = false →
      Event.onErr e site ∈ t.log → Event.onErr e site ∈ s.log := by
    intro t e' ht he hm
    rw [ht] at hm
    rcases List.mem_append.mp hm with hm | hm
    · exact hm
    · rw [← List.mem_singleton.mp hm] at he
      cases he
  cases hu with
  | @record e' he => exact .inl (one rfl (by cases e' <;> first | rfl | cases he) hm)
  | nickname active => cases active <;> exact .inl hm
  | giveBuilder call hb => exact .inl (one rfl rfl hm)
  | takeBuilder hd =>
    obtain ⟨-, rfl⟩ := takeBuilder_done hd
    exact .inl hm
  | useBuilder hd =>
    obtain ⟨-, rfl⟩ := takeBuilder_done hd
    exact .inl hm
  | emitHosed hp hc =>
    rcases List.mem_append.mp hm with hm | hm
    · exact .inl hm
    · cases List.mem_singleton.mp hm
      exact .inr ⟨rfl, hc⟩
  | emitError hm' hh e' => exact .inl (one rfl rfl hm)
  | failCall hm' hh e' => exact .inl (one rfl rfl hm)
  | transmit hm' hh m => exact .inl (one rfl rfl hm)
  | flushTo hm' hh =>
    rw [flushTo_log] at hm
    exact .inl hm
  | takeTask ht hd =>
    obtain ⟨-, -, hs⟩ := takeTask_done hd
    rw [hs] at hm
    exact .inl hm
  | _ => exact .inl hm

/-- **Every update keeps the book**, if its marks fit. -/
theorem Update.endBook (hu : Update s l s')
    (hl : Mark.Within (Mark.FitsBook K D s.channelFinished) l)
    (h : EndBook K D s) : EndBook K D s' := by
  cases hu with
  -- An event of the user's side is no end and no error.
  | record he =>
    rename_i e
    exact h.record (by cases e <;> first | rfl | cases he)
  | @post t ht =>
    exact h.post (Task.isBeside_of_isFromUser ht) (by cases t <;> first | rfl | cases ht)
  | nickname active =>
    cases active <;> exact h.of_same (.inl rfl) rfl rfl rfl (fun _ hp => hp) rfl
  | @giveBuilder call b hb =>
    have h₁ := h.record (e := .mdtBuilderReturned call b.isSome) rfl
    refine { h₁ with builders := fun k bl hmem => ?_ }
    rcases List.mem_cons.mp hmem with hmem | hmem
    · exact hb bl (Prod.mk.inj hmem).2.symm
    · exact h.builders k bl hmem
  | takeBuilder hd =>
    obtain ⟨-, rfl⟩ := takeBuilder_done hd
    exact h.of_same (.inl rfl) rfl rfl rfl (fun _ hp => List.mem_of_mem_eraseP hp) rfl
  -- The builder goes from the user's hands into the task that uses it.
  | useBuilder hd =>
    obtain ⟨⟨k, hb⟩, rfl⟩ := takeBuilder_done hd
    exact { h with
      queued := fun c hm => h.queued c (by simpa using hm)
      reported := fun c hm => h.reported c (by simpa using hm)
      builders := fun k' b' hp => h.builders k' b' (List.mem_of_mem_eraseP hp)
      tasks := fun call' b' hm => by
        rcases List.mem_append.mp hm with hm | hm
        · exact h.tasks call' b' hm
        · cases List.mem_singleton.mp hm
          exact h.builders k _ hb }
  -- Told to be hosed: the mark says why, by the call's own code, a cached end, or the finisher's.
  | @emitHosed e site hp hc =>
    refine h.emitHosed hp fun he => ?_
    rcases hl _ rfl he with hown | hK | hF
    · exact .inr ⟨false, he ▸ hc hown⟩
    · exact .inl hK
    · exact .inr hF
  | emitError hm hh e => exact h.emitError hm e
  | failCall hm hh e => exact h.failCall hm e
  | transmit hm hh m => exact h.transmit hm (hl _ rfl)
  -- The cache becomes tasks of the user's requests; a GracefulSessionEnd stays where it is.
  | @flushTo ch hm hh =>
    refine h.adds (u := _) (v := []) (fun ch' hch' => ⟨ch, hm, ?_⟩) (flushTo_queue _ _ _) ?_
      (List.append_nil _).symm (by simp) rfl (fun _ hp => hp) rfl
    · cases hch'
      exact fun m hm => (List.mem_filter.mp hm).1
    · intro t ht
      obtain ⟨m, -, rfl⟩ := List.mem_map.mp ht
      exact ⟨rfl, rfl⟩
  | undoExpect hm hh => exact h.setChannel hm fun _ h => h
  | expectEnd hm hh => exact h.setChannel hm fun _ h => h
  -- The cached end becomes the task.
  | takeEnd hm hh hc =>
    obtain ⟨m, hmem, hb⟩ := List.any_eq_true.mp hc
    have hK : K := h.cached _ hm m hmem (of_decide_eq_true hb)
    exact (h.setChannel hm fun _ h => List.mem_of_mem_eraseP h).postEnd hK _
  -- Nobody expects the message yet: it is kept, and if it is an end the peer sent it.
  | @cache ch hm hh m hr =>
    refine { h with cached := fun ch' hch' m' hm' hb => ?_ }
    cases hch'
    rcases List.mem_append.mp hm' with hm' | hm'
    · exact h.cached ch hm m' hm' hb
    · rw [List.mem_singleton.mp hm'] at hb
      exact hl _ rfl (Msg.isEnd_of hr hb)
  | @gotOpenReq ch hm hh m hr hd ho ha =>
    exact h.post (by simp) (by simp)
  | @gotLogInReq ch hm hh m hr he r hb =>
    have h₁ : EndBook K D (s.setChannel { ch with expectsLogInReq := false }) :=
      h.setChannel hm fun _ h => h
    exact h₁.post rfl rfl
  | @gotLogInRsp ch hm hh m id attempt hr he =>
    have h₁ : EndBook K D (s.setChannel { ch with expectsLogInRsp := none }) :=
      h.setChannel hm fun _ h => h
    exact h₁.post rfl rfl
  -- The end arrives while it is expected and is posted at once.
  | @gotEnd ch hm hh m hr he hb =>
    have h₁ : EndBook K D (s.setChannel { ch with expectsGracefulEnd := false }) :=
      h.setChannel hm fun _ h => h
    exact h₁.postEnd (hl _ rfl (Msg.isEnd_of hr hb)) _
  | takeTask ht hd => exact h.takeTask hd
  | _ => exact h.of_same (.inl rfl) rfl rfl rfl (fun _ hp => hp) rfl

/-- No update brings a channel back that has finished. -/
theorem Update.channelFinished (hu : Update s l s') (h : s.channelFinished) :
    s'.channelFinished := by
  obtain ⟨es, hl, -⟩ := hu.log
  exact channelFinished_of_log h hl

/-- Updates keep the books of the session's end, if each of their marks fits them. -/
theorem Updates.endBook (hu : Updates L s s') (hL : ∀ k, L k → k.FitsBook K D s.channelFinished)
    (h : EndBook K D s) : EndBook K D s' := by
  have hboth : EndBook K D s' ∧ (s.channelFinished → s'.channelFinished) := by
    refine hu.keeps (P := fun b => EndBook K D b ∧ (s.channelFinished → b.channelFinished))
      ⟨h, id⟩ fun b l b' hb hl hu => ⟨?_, fun hf => hu.channelFinished (hb.2 hf)⟩
    exact hu.endBook (fun k hk => (hL k (hl k hk)).mono hb.2) hb.1
  exact hboth.1

/-- Neither connecting nor the log-in hoses the session or says that it ends. -/
theorem fits_of_logIn {F : Prop} {k : Mark} (hk : k.isConnect = true ∨ k.isLogIn = true) :
    k.FitsBook K D F := by
  cases k with
  | transmit m =>
    obtain ⟨id, rspTo, hndl, body⟩ := m
    intro he
    cases rspTo with
    | some id' => cases he
    | none =>
      cases body with
      | gracefulSessionEnd => rcases hk with hk | hk <;> cases hk
      | _ => cases he
  | arrive m => rcases hk with hk | hk <;> cases hk
  | hose e site => rcases hk with hk | hk <;> cases hk
  | keepErr e => rcases hk with hk | hk <;> cases hk
  | _ => trivial

/-- Nor does `open_channel()`, but for an error of its own call. -/
theorem fits_of_isOpenChannel {F : Prop} {k : Mark} (hk : k.isOpenChannel = true) :
    k.FitsBook K D F := by
  cases k with
  | hose e site =>
    cases site with
    | openChannel => exact fun _ => .inl rfl
    | _ => cases hk
  | transmit m => cases hk
  | arrive m => cases hk
  | keepErr e => cases hk
  | _ => trivial

/-- Outside the finisher's code it is for errors of its own calls that a session hoses itself. -/
theorem isOwnCall_of_ofTask {t : Task} (ht : t.isBeside = true) {e : Err} {site : HoseSite}
    (hk : Mark.ofTask t (.hose e site)) : site.isOwnCall = true := by
  cases t with
  | masterChannelError chan e => cases ht
  | gracefulSessionEnd chan => cases ht
  | openChannelReq chan m =>
    rcases hk with hk | ⟨_, _, _, hk⟩
    · cases site <;> first | rfl | cases hk
    · cases hk
  | openChannel call b =>
    rcases hk with hk | ⟨_, hk⟩
    · cases site <;> first | rfl | cases hk
    · cases hk
  | sessionToken =>
    obtain ⟨_, hk⟩ := hk
    cases hk
  | initHandlers passiveOpen => rcases hk with hk | hk <;> cases hk
  | _ => cases hk

/-- `open_channel()` hoses the session from a call of its own. -/
theorem isOwnCall_of_isOpenChannel {e : Err} {site : HoseSite}
    (hk : (Mark.hose e site).isOpenChannel = true) : site.isOwnCall = true := by
  cases site <;> first | rfl | cases hk

/-- A response is not the peer's `GracefulSessionEnd`. -/
theorem isEnd_of_rspTo {m : Msg} (h : m.rspTo.isSome = true) : m.isEnd = false := by
  obtain ⟨id, hr⟩ := Option.isSome_iff_exists.mp h
  simp [Msg.isEnd, hr]

/-- **The marks of a queued task fit the book.** -/
theorem EndBook.fits {t : Task} {k : Mark} (h : EndBook K D s) (ht : t ∈ s.queue)
    (hk : Mark.ofTask t k) : k.FitsBook K D s.channelFinished := by
  -- A message that is no end of the session needs no leave.
  have noEnd : ∀ {m : Msg}, m.isEnd = false → Mark.FitsBook K D s.channelFinished (.transmit m) :=
    fun hm he => by rw [hm] at he; cases he
  cases t with
  -- The report may hose, and may tell the finisher, since the error was emitted.
  | masterChannelError chan e =>
    rcases hk with rfl | rfl | rfl
    · trivial
    · rintro rfl
      exact .inr (.inr (h.reported chan ht))
    · rintro rfl
      exact h.reported chan ht
  | gracefulSessionEnd chan =>
    rcases hk with rfl | rfl
    · trivial
    · exact fun _ => .inr (.inl (h.queued chan ht))
  | openChannelReq chan m =>
    rcases hk with hk | ⟨id, hndl, rsp, rfl⟩
    · cases k with
      | hose e site =>
        cases site with
        | openChannelReq => exact fun _ => .inl rfl
        | _ => cases hk
      | transmit m => cases hk
      | arrive m => cases hk
      | keepErr e => cases hk
      | _ => trivial
    · exact noEnd (isEnd_of_rspTo rfl)
  -- The request is the user's own, which the builder never makes an end.
  | openChannel call b =>
    rcases hk with hk | ⟨id, rfl⟩
    · exact fits_of_isOpenChannel hk
    · refine noEnd ?_
      have hreq := h.tasks call b ht
      cases hb : b.body with
      | gracefulSessionEnd => rw [hb] at hreq; cases hreq
      | _ => rfl
  | sessionToken =>
    obtain ⟨nil, rfl⟩ := hk
    trivial
  | asyncConnect attempt subClass b => exact fits_of_logIn (.inl hk)
  | logInRsp chan m attempt => exact fits_of_logIn (.inl hk)
  | initOpenChannel chan m cap => exact fits_of_logIn (.inl hk)
  | logInReq chan m => exact fits_of_logIn (.inr hk)
  | initHandlers passiveOpen =>
    rcases hk with rfl | rfl <;> trivial
  | _ => cases hk

/-- More has come in, or the destructor has started. -/
theorem EndBook.mono {A B : Prop} (h : EndBook K D s) (hK : K → A) (hD : D → B) :
    EndBook A B s :=
  { h with
    cached := fun ch hch m hm hb => hK (h.cached ch hch m hm hb)
    queued := fun c hc => hK (h.queued c hc)
    onErr := fun site hs => (h.onErr site hs).imp hK id
    sent := fun m hm he => hD (h.sent m hm he) }

/-- Only the channel's error is reported. -/
theorem Update.reported (hu : Update s l s') {c : Nat} {e : Err}
    (hmem : Task.masterChannelError c e ∈ s'.queue) :
    Task.masterChannelError c e ∈ s.queue ∨ ∃ ch, s.masterChannel = some ch ∧ c = ch.id := by
  rcases hu.posted hmem with hmem | hp
  · exact .inl hmem
  · generalize ht : Task.masterChannelError c e = t at hp
    cases hp with
    | masterChannelError hm e =>
      cases ht
      exact .inr ⟨_, hm, rfl⟩
    | fromUser hu =>
      rw [← ht] at hu
      cases hu
    | openReq hm ho m =>
      rename_i h
      cases h <;> cases ht
    | _ => cases ht

/-- Nothing but the finisher's own code changes the finisher. -/
theorem Update.gracefulFinisher (hu : Update s l s') (hl : l ≠ some .finisher) :
    s'.gracefulFinisher = s.gracefulFinisher := by
  cases hu with
  | setFinisher => exact absurd rfl hl
  | expectEnd => exact absurd rfl hl
  | takeEnd => exact absurd rfl hl
  | nickname active => cases active <;> rfl
  | takeBuilder hd =>
    obtain ⟨-, rfl⟩ := takeBuilder_done hd
    rfl
  | useBuilder hd =>
    obtain ⟨-, rfl⟩ := takeBuilder_done hd
    rfl
  | takeTask ht hd =>
    obtain ⟨-, -, hs⟩ := takeTask_done hd
    rw [hs]
  | _ => rfl

/-- Updates without the mark of the finisher leave the finisher alone. -/
theorem Updates.gracefulFinisher (hu : Updates L s s') (hL : ¬ L .finisher) :
    s'.gracefulFinisher = s.gracefulFinisher :=
  hu.keeps (P := fun b => b.gracefulFinisher = s.gracefulFinisher) rfl fun _ _ _ hb hl hu =>
    (hu.gracefulFinisher fun he => hL (hl _ he)).trans hb

/-! ### The destructor -/

/-- What the destructor does in thread U fulfils no promise. -/
theorem DtorAct.barrier (ha : DtorAct s s') (h : Barrier s) : Barrier s' := by
  have post : ∀ {t : Task} {d : Dtor}, t.isBeside = true → Barrier ((s.post t).setDtor d) :=
    fun ht => h.of_posts (u := [_]) rfl (by simpa using ht) rfl fun ch hch => ⟨ch, hch, .refl ch⟩
  cases ha with
  | startGraceful => exact post rfl
  | startPlain => exact post rfl
  | sendEnd => exact post rfl
  | noFinisher => exact post rfl
  | peerDone => exact post rfl
  | flushDone => exact h.of_same rfl rfl (.inl rfl)
  | stop => exact h.of_same rfl rfl (.inl rfl)

/-- It sends nothing, either. -/
theorem DtorAct.endBook (ha : DtorAct s s') (h : EndBook K D s) : EndBook K D s' := by
  have post : ∀ {t : Task} {d : Dtor}, t.isBeside = true → t.isOpenChannel = false →
      EndBook K D ((s.post t).setDtor d) :=
    fun ht hno => (h.post ht hno).of_same (.inl rfl) rfl rfl rfl (fun _ hp => hp) rfl
  cases ha with
  | startGraceful => exact post rfl rfl
  | startPlain => exact post rfl rfl
  | sendEnd => exact post rfl rfl
  | noFinisher => exact post rfl rfl
  | peerDone => exact post rfl rfl
  | flushDone => exact h.of_same (.inl rfl) rfl rfl rfl (fun _ hp => hp) rfl
  | stop => exact h.of_same (.inl rfl) rfl rfl rfl (fun _ hp => hp) rfl

/-- The destructor's own steps leave the channel alone, and report nothing of it. -/
theorem DtorAct.channel (ha : DtorAct s s') : s'.masterChannel = s.masterChannel ∧
    ∀ c e, Task.masterChannelError c e ∈ s'.queue → Task.masterChannelError c e ∈ s.queue := by
  cases ha <;> exact ⟨rfl, fun c e hm => by simpa using hm⟩

/-- The destructor's own steps leave the finisher alone. -/
theorem DtorAct.gracefulFinisher (ha : DtorAct s s') :
    s'.gracefulFinisher = s.gracefulFinisher := by
  cases ha <;> rfl

/-- Nothing of it is seen by anybody. -/
theorem DtorAct.log (ha : DtorAct s s') : s'.log = s.log := by
  cases ha <;> rfl

/-- A destructor that has started stays started. -/
theorem DtorAct.started (ha : DtorAct s s') : s.dtor ≠ .notStarted → s'.dtor ≠ .notStarted := by
  cases ha <;> exact fun _ => nofun

/-- The destructor's tasks leave the finisher's promise as it is. -/
theorem DtorTask.gracefulFinisher {t : Task} (ht : DtorTask s t s') :
    s'.gracefulFinisher = s.gracefulFinisher := by
  cases ht with
  | sendEnd hf hu hw => exact hu.gracefulFinisher id
  | _ => rfl

/-- They do not take the destructor back to where it had not started. -/
theorem DtorTask.started {t : Task} (ht : DtorTask s t s') (hd : s.dtor ≠ .notStarted) :
    s'.dtor ≠ .notStarted := by
  cases ht with
  | flush hm willRun => exact hd
  | _ => exact nofun

/-- The destructor's tasks tell the user of no error. -/
theorem DtorTask.log {t : Task} (ht : DtorTask s t s') :
    (∀ e site, Event.onErr e site ∈ s'.log → Event.onErr e site ∈ s.log) ∧
      (s.channelFinished → s'.channelFinished) := by
  cases ht with
  | sendEnd hf hu hw =>
    refine hu.keeps (P := fun b =>
      (∀ e site, Event.onErr e site ∈ b.log → Event.onErr e site ∈ s.log) ∧
      (s.channelFinished → b.channelFinished)) ⟨fun _ _ hm => hm, id⟩ fun b l b' hb hl hu => ?_
    refine ⟨fun e site hm => ?_, fun hfin => hu.channelFinished (hb.2 hfin)⟩
    rcases hu.onErr_mem hm with hm | ⟨hk, -⟩
    · exact hb.1 e site hm
    · cases hl _ hk
  | _ => exact ⟨fun _ _ hm => hm, id⟩

/-- So they keep the barrier. -/
theorem DtorTask.barrier {t : Task} (ht : DtorTask s t s') (h : Barrier s) : Barrier s' := by
  cases ht with
  | finisherQuery => exact h.of_same rfl rfl (.inl rfl)
  | sendEnd hf hu hw => exact (hu.barrier id h).of_same rfl rfl (.inl rfl)
  | noChannel hm => exact h.of_same rfl rfl (.inl rfl)
  | flush hm willRun => exact h.of_same rfl rfl (.inl rfl)

/-- With the end of this side's own the destructor has started. -/
theorem DtorTask.endBook {t : Task} (ht : DtorTask s t s') (h : EndBook K D s)
    (hD : s'.dtor ≠ .notStarted → D) : EndBook K D s' := by
  cases ht with
  | finisherQuery => exact h.of_same (.inl rfl) rfl rfl rfl (fun _ hp => hp) rfl
  | sendEnd hf hu hw =>
    have hsent := hu.endBook (K := K) (D := D) (fun k hk => ?_) h
    · exact hsent.of_same (.inl rfl) rfl rfl rfl (fun _ hp => hp) rfl
    · cases k with
      | transmit m => exact fun _ => hD nofun
      | _ => cases hk
  | noChannel hm => exact h.of_same (.inl rfl) rfl rfl rfl (fun _ hp => hp) rfl
  | flush hm willRun => exact h.of_same (.inl rfl) rfl rfl rfl (fun _ hp => hp) rfl

end Session

end IpcSession
