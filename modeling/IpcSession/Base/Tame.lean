import IpcSession.Base.Traced
import IpcSession.Base.Updates
import Mathlib.Order.Basic
import Mathlib.Order.Nat

namespace IpcSession

/-!
# Messages that move a connect attempt on

A client's thread W waits for the log-in response, then for one request for each init-channel.

* `Session.inits` — what the requests for init-channels that wait, and the handler for further ones,
  have captured.
* `Session.Ordered` — no such message waits behind an error of the channel.
* `Session.Tame` — what the code that is common to both sides does at most about them.
-/

/-- The init-channel request's handler captures this. -/
def Task.initCapture : Task → Option InitCapture
  | initOpenChannel _ _ cap => some cap
  | _ => none

/-- A message that moves a connect attempt on. -/
def Task.isStage (t : Task) : Bool := t.isLogInRsp || t.initCapture.isSome

/-- What the handler captures if it is that of init-channel requests. -/
def OpenReqHandler.initCapture : OpenReqHandler → Option InitCapture
  | initOpenChannel cap => some cap
  | openChannelReq => none

/-- The task of a handler remembers what the handler does. -/
@[simp] theorem OpenReqHandler.task_initCapture (h : OpenReqHandler) (chan : Nat) (m : Msg) :
    (h.task chan m).initCapture = h.initCapture := by
  cases h <;> rfl

namespace Session

variable {s s' s'' : Session} {t : Task} {l : Option Mark} {L : Mark → Prop}

/-! ### What waits for thread W -/

/-- What the init-channel requests that wait, and the handler for further ones, capture. -/
def inits (s : Session) : List InitCapture :=
  s.queue.filterMap Task.initCapture ++
    (s.masterChannel.bind (·.openReqHandler.bind OpenReqHandler.initCapture)).toList

/-- What an init-channel's handler remembers is in a task, or in the handler still registered. -/
theorem mem_inits {cap : InitCapture} :
    cap ∈ s.inits ↔ (∃ t ∈ s.queue, t.initCapture = some cap) ∨
      ∃ ch h, s.masterChannel = some ch ∧ ch.openReqHandler = some h ∧
        h.initCapture = some cap := by
  simp only [inits, List.mem_append, List.mem_filterMap, Option.mem_toList,
    Option.bind_eq_some_iff]
  refine or_congr Iff.rfl ⟨?_, ?_⟩
  · rintro ⟨ch, hm, h, ho, hc⟩
    exact ⟨ch, h, hm, ho, hc⟩
  · rintro ⟨ch, h, hm, ho, hc⟩
    exact ⟨ch, hm, h, ho, hc⟩

/-- Where no request for an init-channel waits, a handler for them that is set is the only one. -/
theorem eq_of_mem_inits_flushTo {ch : MasterChannel} {cap c : InitCapture} (hi : s.inits = [])
    (hc : c ∈ (s.flushTo ch (.initOpenChannel cap)).inits) : c = cap := by
  rcases mem_inits.mp hc with ⟨t, ht, htc⟩ | ⟨ch', x, hch', ho, hxc⟩
  · rw [flushTo_queue, List.mem_append, List.mem_map] at ht
    rcases ht with ht | ⟨m, -, rfl⟩
    · have hold := mem_inits.mpr (.inl ⟨t, ht, htc⟩)
      rw [hi] at hold
      cases hold
    · exact (Option.some.inj htc).symm
  · cases hch'
    cases ho
    exact (Option.some.inj hxc).symm

/-- No message of a stage waits behind an error of the channel, and a channel without error has not
    reported any. -/
structure Ordered (s : Session) : Prop where
  quiet : ∀ ch, s.masterChannel = some ch → ch.hosed = false →
    ∀ t ∈ s.queue, t.isMasterChannelError = false
  last : s.queue.Pairwise fun t u => t.isMasterChannelError = true → u.isStage = false

/-- Nothing is posted, and the channel keeps its error. -/
theorem Ordered.of_queue (h : Ordered s) (hq : s'.queue = s.queue)
    (hm : ∀ ch', s'.masterChannel = some ch' → ch'.hosed = false →
      ∃ ch, s.masterChannel = some ch ∧ ch.hosed = false) : Ordered s' where
  quiet := fun ch' hm' hh' => by
    obtain ⟨ch, hch, hh⟩ := hm ch' hm' hh'
    rw [hq]
    exact h.quiet ch hch hh
  last := by rw [hq]; exact h.last

/-- Nothing is posted, and the channel stays. -/
theorem Ordered.of_same (h : Ordered s) (hq : s'.queue = s.queue)
    (hm : s'.masterChannel = s.masterChannel) : Ordered s' :=
  h.of_queue hq fun ch hch hh => ⟨ch, hm ▸ hch, hh⟩

/-- What is posted is no error of the channel; and it is no message of a stage, or the channel has
    no error. -/
theorem Ordered.of_posts {u : List Task} (h : Ordered s) (hq : s'.queue = s.queue ++ u)
    (he : ∀ t ∈ u, t.isMasterChannelError = false)
    (hst : (∀ t ∈ u, t.isStage = false) ∨ ∀ t ∈ s.queue, t.isMasterChannelError = false)
    (hm : ∀ ch', s'.masterChannel = some ch' → ch'.hosed = false →
      ∃ ch, s.masterChannel = some ch ∧ ch.hosed = false) : Ordered s' where
  quiet := fun ch' hm' hh' t ht => by
    obtain ⟨ch, hch, hh⟩ := hm ch' hm' hh'
    rw [hq] at ht
    exact (List.mem_append.mp ht).elim (h.quiet ch hch hh t) (he t)
  last := by
    rw [hq, List.pairwise_append]
    refine ⟨h.last, List.pairwise_of_forall_mem_list fun t ht _ _ hte => ?_,
      fun t ht t' ht' hte => ?_⟩
    · rw [he t ht] at hte
      cases hte
    · rcases hst with hst | hst
      · exact hst t' ht'
      · rw [hst t ht] at hte
        cases hte

/-- The channel reports its error. -/
theorem Ordered.emitError {ch : MasterChannel} {e : Err} (h : Ordered s) :
    Ordered (s.emitError ch e) where
  quiet := fun ch' hm' hh' => by
    cases hm'
    cases hh'
  last := by
    rw [emitError_queue, List.pairwise_append]
    refine ⟨h.last, List.pairwise_singleton _ _, fun t _ u hu _ => ?_⟩
    rw [List.mem_singleton.mp hu]
    rfl

/-- Without a channel the order of what is to come does not change. -/
theorem Ordered.dropChannel (h : Ordered s) : Ordered s.dropChannel where
  quiet := nofun
  last := h.last

/-- Thread W takes a task. -/
theorem Ordered.takeTask (h : Ordered s) (hd : s.takeTask = .done (t, s')) : Ordered s' := by
  obtain ⟨-, hq, hs⟩ := takeTask_done hd
  have hm : s'.masterChannel = s.masterChannel := by rw [hs]
  refine ⟨fun ch hch hh u hu => h.quiet ch (hm ▸ hch) hh u ?_, ?_⟩
  · rw [hq]
    exact List.mem_cons_of_mem t hu
  · have hl := h.last
    rw [hq] at hl
    exact (List.pairwise_cons.mp hl).2

/-- Behind an error of the channel there is no message of a stage. -/
theorem Ordered.behind (h : Ordered s) (hd : s.takeTask = .done (t, s'))
    (ht : t.isMasterChannelError = true) : ∀ u ∈ s'.queue, u.isStage = false := by
  obtain ⟨-, hq, -⟩ := takeTask_done hd
  have hl := h.last
  rw [hq] at hl
  exact fun u hu => (List.pairwise_cons.mp hl).1 u hu ht

/-! ### What common session code does to it -/

/-- What the code that is common to both sides does at most to the messages of a stage. -/
structure Tame (s s' : Session) : Prop where
  channel : s'.masterChannel.isSome = s.masterChannel.isSome
  ordered : Ordered s → Ordered s'
  logIns : s'.logIns ≤ s.logIns
  inits : ∀ cap ∈ s'.inits, cap ∈ s.inits
  cliNamespace : s'.cliNamespace = s.cliNamespace
  srvNamespace : s'.srvNamespace = s.srvNamespace

theorem Tame.refl (s : Session) : Tame s s :=
  ⟨rfl, id, le_refl _, fun _ h => h, rfl, rfl⟩

/-- Neither the queue nor the channel nor a namespace changes. -/
theorem Tame.of_same (hq : s'.queue = s.queue) (hm : s'.masterChannel = s.masterChannel)
    (hc : s'.cliNamespace = s.cliNamespace) (hs : s'.srvNamespace = s.srvNamespace) :
    Tame s s' where
  channel := by rw [hm]
  ordered := fun h => h.of_same hq hm
  logIns := by simp only [Session.logIns, hq, hm, le_refl]
  inits := fun cap hcap => by simpa only [Session.inits, hq, hm] using hcap
  cliNamespace := hc
  srvNamespace := hs

/-- An event is noted. -/
theorem Tame.record (s : Session) (e : Event) : Tame s (s.record e) := .of_same rfl rfl rfl rfl

theorem Tame.trans (h : Tame s s') (h' : Tame s' s'') : Tame s s'' :=
  ⟨h'.channel.trans h.channel, h'.ordered ∘ h.ordered, h'.logIns.trans h.logIns,
    fun cap hc => h.inits cap (h'.inits cap hc), h'.cliNamespace.trans h.cliNamespace,
    h'.srvNamespace.trans h.srvNamespace⟩

/-- The channel of `s'` is that of `s`, `ch`, without error, and `ts` is posted. -/
theorem Ordered.of_channel {ch : MasterChannel} {ts : List Task} (h : Ordered s)
    (hm : s.masterChannel = some ch) (hh : ch.hosed = false) (hq : s'.queue = s.queue ++ ts)
    (he : ∀ t ∈ ts, t.isMasterChannelError = false) : Ordered s' :=
  h.of_posts hq he (.inr (h.quiet ch hm hh)) fun _ _ _ => ⟨ch, hm, hh⟩

/-- A task leaves the queue. -/
theorem Tame.takeTask (hd : s.takeTask = .done (t, s')) : Tame s s' := by
  obtain ⟨-, hq, hs⟩ := takeTask_done hd
  have hm : s'.masterChannel = s.masterChannel := by rw [hs]
  refine ⟨by rw [hm], fun h => h.takeTask hd, ?_, fun cap hc => ?_, by rw [hs], by rw [hs]⟩
  · simp only [Session.logIns, hq, hm, List.countP_cons]
    omega
  · rw [mem_inits, hm] at hc
    rw [mem_inits, hq]
    rcases hc with ⟨u, hu, huc⟩ | hc
    · exact .inl ⟨u, List.mem_cons_of_mem t hu, huc⟩
    · exact .inr hc

/-- A task that is of no stage of the log-in joins it. -/
theorem Tame.post (hst : t.isStage = false) (he : t.isMasterChannelError = false) :
    Tame s (s.post t) where
  channel := rfl
  ordered := fun h => h.of_posts (u := [t]) rfl (by simpa using he) (.inl (by simpa using hst))
    fun ch hch hh => ⟨ch, hch, hh⟩
  logIns := by
    simp only [Task.isStage, Bool.or_eq_false_iff] at hst
    simp [Session.logIns, hst.1]
  inits := fun cap hc => by
    rcases mem_inits.mp hc with ⟨u, hu, huc⟩ | hc
    · rcases List.mem_append.mp hu with hu | hu
      · exact mem_inits.mpr (.inl ⟨u, hu, huc⟩)
      · rw [List.mem_singleton.mp hu] at huc
        simp [Task.isStage, huc] at hst
    · exact mem_inits.mpr (.inr hc)
  cliNamespace := rfl
  srvNamespace := rfl

/-- An update keeps the order of what is to come. -/
theorem Update.ordered (h : Update s l s') (ho : Ordered s) : Ordered s' := by
  -- Most updates post at most one task, and it is no error task.
  have one : ∀ {t : Task}, t.isMasterChannelError = false →
      ∀ u ∈ [t], u.isMasterChannelError = false := by
    intro t ht u hu
    rw [List.mem_singleton.mp hu]
    exact ht
  cases h with
  | @post t ht =>
    exact (Tame.post (by cases t <;> first | rfl | cases ht)
      (by cases t <;> first | rfl | cases ht)).ordered ho
  | nickname active => cases active <;> exact ho.of_same rfl rfl
  | takeBuilder hd =>
    obtain ⟨-, rfl⟩ := takeBuilder_done hd
    exact ho.of_same rfl rfl
  | useBuilder hd =>
    obtain ⟨-, rfl⟩ := takeBuilder_done hd
    exact ho.of_posts (u := [_]) rfl (one rfl) (.inl (by simp [Task.isStage, Task.initCapture,
      Task.isLogInRsp])) fun ch hch hh => ⟨ch, hch, hh⟩
  | emitError hm hh e => exact ho.emitError
  | failCall hm hh e =>
    refine ho.of_queue rfl fun ch' hm' hh' => ?_
    cases hm'
    cases hh'
  | transmit hm hh m => exact ho.of_channel hm hh (List.append_nil _).symm (by simp)
  | flushTo hm hh =>
    refine ho.of_channel hm hh (flushTo_queue _ _ _) fun t ht => ?_
    obtain ⟨m, -, rfl⟩ := List.mem_map.mp ht
    rfl
  | undoExpect hm hh => exact ho.of_channel hm hh (List.append_nil _).symm (by simp)
  | expectEnd hm hh => exact ho.of_channel hm hh (List.append_nil _).symm (by simp)
  | takeEnd hm hh => exact ho.of_channel hm hh rfl (one rfl)
  | cache hm hh hr => exact ho.of_channel hm hh (List.append_nil _).symm (by simp)
  | @gotOpenReq ch hm hh m hr h hoh ha =>
    exact ho.of_channel hm hh rfl (one (by cases h <;> rfl))
  | gotLogInReq hm hh hr he hb => exact ho.of_channel hm hh rfl (one rfl)
  | gotLogInRsp hm hh hr he => exact ho.of_channel hm hh rfl (one rfl)
  | gotEnd hm hh hr he => exact ho.of_channel hm hh rfl (one rfl)
  | takeTask hdt hd => exact ho.takeTask hd
  | _ => exact ho.of_same rfl rfl

/-- It keeps the channel. -/
theorem Update.channel_isSome (h : Update s l s') :
    s'.masterChannel.isSome = s.masterChannel.isSome := by
  cases h with
  | nickname active => cases active <;> rfl
  | takeBuilder hd =>
    obtain ⟨-, rfl⟩ := takeBuilder_done hd
    rfl
  | useBuilder hd =>
    obtain ⟨-, rfl⟩ := takeBuilder_done hd
    rfl
  | takeTask hdt hd => exact (Tame.takeTask hd).channel
  | emitError hm | failCall hm | transmit hm | flushTo hm | undoExpect hm | expectEnd hm
  | takeEnd hm | cache hm | gotLogInReq hm | gotLogInRsp hm | gotEnd hm => rw [hm]; rfl
  | _ => rfl

/-- A task other than the log-in response is none more of them. -/
theorem logIns_post (ht : t.isLogInRsp = false) : (s.post t).logIns = s.logIns := by
  simp [logIns, ht]

/-- No update brings another log-in response. -/
theorem Update.logIns (h : Update s l s') : s'.logIns ≤ s.logIns := by
  cases h with
  | @post t ht => exact (logIns_post (by cases t <;> first | rfl | cases ht)).le
  | nickname active => cases active <;> exact le_refl _
  | takeBuilder hd =>
    obtain ⟨-, rfl⟩ := takeBuilder_done hd
    exact le_refl _
  | useBuilder hd =>
    obtain ⟨-, rfl⟩ := takeBuilder_done hd
    exact (logIns_post rfl).le
  | emitError hm hh e => exact (Frame.emitError hm e).logIns.le
  | failCall hm hh e => exact (Frame.failCall hm e).logIns.le
  | transmit hm hh m => exact (Frame.transmit hm m).logIns.le
  | flushTo hm hh => exact (Frame.flushTo hm _).logIns.le
  | undoExpect hm hh => exact (Frame.setChannel hm rfl).logIns.le
  | expectEnd hm hh => exact (Frame.setChannel hm rfl).logIns.le
  | takeEnd hm hh =>
    rw [logIns_post rfl]
    exact (Frame.setChannel hm rfl).logIns.le
  | cache hm hh hr => exact (Frame.setChannel hm rfl).logIns.le
  | gotOpenReq hm hh hr ho ha => exact (logIns_post (by simp)).le
  | gotLogInReq hm hh hr he hb =>
    rw [logIns_post rfl]
    exact (Frame.setChannel hm rfl).logIns.le
  | gotLogInRsp hm hh hr he => simp [Session.logIns, hm, he, Task.isLogInRsp]
  | gotEnd hm hh hr he =>
    rw [logIns_post rfl]
    exact (Frame.setChannel hm rfl).logIns.le
  | takeTask hdt hd => exact (Tame.takeTask hd).logIns
  | _ => exact le_refl _

/-- Nor another init-channel. -/
theorem Update.inits (h : Update s l s') : ∀ cap ∈ s'.inits, cap ∈ s.inits := by
  intro cap hc
  rw [mem_inits] at hc ⊢
  rcases hc with ⟨t, ht, htc⟩ | ⟨ch', h', hm', ho', hc⟩
  · rcases h.posted ht with ht | hp
    · exact .inl ⟨t, ht, htc⟩
    · cases hp with
      | @openReq ch hm h' ho m =>
        rw [OpenReqHandler.task_initCapture] at htc
        exact .inr ⟨ch, h', hm, ho, htc⟩
      | fromUser hu => cases t <;> cases hu <;> cases htc
      | _ => cases htc
  · obtain ⟨ch, hm, hsame⟩ := h.channel hm'
    rcases hsame.openReq h' ho' with rfl | ho
    · cases hc
    · exact .inr ⟨ch, h', hm, ho, hc⟩

/-- So an update is tame. -/
theorem Update.tame (h : Update s l s') : Tame s s' where
  channel := h.channel_isSome
  ordered := h.ordered
  logIns := h.logIns
  inits := h.inits
  cliNamespace := h.namespaces.2
  srvNamespace := h.namespaces.1

/-- And so are updates. -/
theorem Updates.tame (h : Updates L s s') : Tame s s' :=
  h.keeps (P := fun b => Tame s b) (.refl s) fun _ _ _ hb _ hu => hb.trans hu.tame

end Session

end IpcSession
