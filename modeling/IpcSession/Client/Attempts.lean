import IpcSession.Client.Stages

namespace IpcSession

/-!
# Connect attempts that wait

The tasks and handlers of a client that name a connect attempt: those that start one, and those that
wait for a message of one.

* `Session.connects`, `Session.Awaits` — the attempts to be started, and those with a message to
  come.
* `Session.Fewer` — at most these are left.
* `Session.Steady` — and no attempt has ended: what code that has nothing to do with connecting
  does; every elementary update is such code, and so are the destructor's steps.
-/

/-- The connect attempt that the task starts. -/
def Task.connectAttempt : Task → Option Nat
  | asyncConnect attempt .. => some attempt
  | _ => none

/-- The code that a connect attempt ends with. -/
def Event.connectCode : Event → Option ErrorCode
  | connectDone e _ => some e
  | _ => none

/-- A common event is not the end of an attempt. -/
theorem Event.connectCode_of_isCommon {e : Event} (h : e.isCommon = true) :
    e.connectCode = none := by
  cases e <;> first | rfl | cases h

/-- A request of the peer's belongs to no attempt. -/
@[simp] theorem OpenReqHandler.task_connectAttempt (h : OpenReqHandler) (chan : Nat) (m : Msg) :
    (h.task chan m).connectAttempt = none := by
  cases h <;> rfl

namespace Session

variable {s s' s'' : Session} {t : Task} {l : Option Mark} {L : Mark → Prop}

/-- The connect attempts to be started. -/
def connects (s : Session) : List Nat := s.queue.filterMap Task.connectAttempt

/-- A message of connect attempt `a` waits for thread W, or is expected. -/
def Awaits (s : Session) (a : Nat) : Prop :=
  (∃ chan m, .logInRsp chan m a ∈ s.queue) ∨
    (∃ ch id, s.masterChannel = some ch ∧ ch.expectsLogInRsp = some (id, a)) ∨
      ∃ cap ∈ s.inits, cap.attempt = a

/-- No more attempts are to be started, or have a message to come. -/
structure Fewer (s s' : Session) : Prop where
  connects : s'.connects.Sublist s.connects
  subClass : ∀ a b, .asyncConnect a true b ∈ s'.queue → .asyncConnect a true b ∈ s.queue
  awaits : ∀ a, s'.Awaits a → s.Awaits a
  inits : ∀ cap ∈ s'.inits, cap ∈ s.inits
  logIns : s'.logIns ≤ s.logIns
  srvNamespace : s'.srvNamespace = [] → s.srvNamespace = []

/-- What code that has nothing to do with connecting does at most. -/
structure Steady (s s' : Session) : Prop extends Fewer s s' where
  log : ∃ es, s'.log = s.log ++ es ∧ es.filterMap Event.connectCode = []

/-- Nothing is added to the record. -/
theorem log_same (h : s'.log = s.log) :
    ∃ es, s'.log = s.log ++ es ∧ es.filterMap Event.connectCode = [] :=
  ⟨[], by rw [h, List.append_nil], rfl⟩

/-- An event that ends no connect attempt is added. -/
theorem log_snoc {e : Event} (h : s'.log = s.log ++ [e]) (he : e.connectCode = none) :
    ∃ es, s'.log = s.log ++ es ∧ es.filterMap Event.connectCode = [] :=
  ⟨[e], h, by simp [he]⟩

namespace Fewer

theorem refl (s : Session) : Fewer s s :=
  ⟨List.Sublist.refl _, fun _ _ h => h, fun _ h => h, fun _ h => h, le_refl _, id⟩

theorem trans (h : Fewer s s') (h' : Fewer s' s'') : Fewer s s'' :=
  ⟨h'.connects.trans h.connects, fun a b ha => h.subClass a b (h'.subClass a b ha),
    fun a ha => h.awaits a (h'.awaits a ha), fun cap hc => h.inits cap (h'.inits cap hc),
    h'.logIns.trans h.logIns, fun hn => h.srvNamespace (h'.srvNamespace hn)⟩

/-- Neither the queue nor the channel changes. -/
theorem of_same (hq : s'.queue = s.queue) (hm : s'.masterChannel = s.masterChannel)
    (hn : s'.srvNamespace = [] → s.srvNamespace = []) : Fewer s s' := by
  have hi : s'.inits = s.inits := by simp only [Session.inits, hq, hm]
  refine ⟨?_, fun a b ha => hq ▸ ha, fun a ha => ?_, fun cap hc => hi ▸ hc, ?_, hn⟩
  · rw [Session.connects, hq]
    exact List.Sublist.refl _
  · simpa only [Awaits, hq, hm, hi] using ha
  · simp only [Session.logIns, hq, hm, le_refl]

/-- The channel goes, and what it expects with it. -/
theorem of_dropped (hq : s'.queue = s.queue) (hm : s'.masterChannel = none)
    (hn : s'.srvNamespace = [] → s.srvNamespace = []) : Fewer s s' := by
  have hi : ∀ cap ∈ s'.inits, cap ∈ s.inits := by
    intro cap hc
    rw [mem_inits, hq, hm] at hc
    rw [mem_inits]
    refine hc.imp id fun ⟨ch, h, hm', hx⟩ => ?_
    cases hm'
  refine ⟨?_, fun a b ha => hq ▸ ha, fun a ha => ?_, hi, ?_, hn⟩
  · rw [Session.connects, hq]
    exact List.Sublist.refl _
  · rcases ha with ⟨chan, m, ht⟩ | ⟨ch, id, hm', -⟩ | ⟨cap, hc, ha⟩
    · exact .inl ⟨chan, m, hq ▸ ht⟩
    · rw [hm] at hm'
      cases hm'
    · exact .inr (.inr ⟨cap, hi cap hc, ha⟩)
  · simp only [Session.logIns, hq, hm]
    exact Nat.le_add_right _ _

end Fewer

namespace Steady

theorem refl (s : Session) : Steady s s := ⟨.refl s, log_same rfl⟩

theorem trans (h : Steady s s') (h' : Steady s' s'') : Steady s s'' := by
  refine ⟨h.toFewer.trans h'.toFewer, ?_⟩
  obtain ⟨es, hl, hes⟩ := h.log
  obtain ⟨es', hl', hes'⟩ := h'.log
  exact ⟨es ++ es', by rw [hl', hl, List.append_assoc],
    by rw [List.filterMap_append, hes, hes']; rfl⟩

/-- Neither the queue nor the channel changes. -/
theorem of_same (hq : s'.queue = s.queue) (hm : s'.masterChannel = s.masterChannel)
    (hn : s'.srvNamespace = s.srvNamespace)
    (hl : ∃ es, s'.log = s.log ++ es ∧ es.filterMap Event.connectCode = []) : Steady s s' :=
  ⟨.of_same hq hm fun h => hn ▸ h, hl⟩

/-- An event that is not the end of an attempt. -/
theorem record {e : Event} (he : e.connectCode = none) (s : Session) : Steady s (s.record e) :=
  of_same rfl rfl rfl (log_snoc rfl he)

/-- A task leaves the queue. -/
theorem takeTask (hd : s.takeTask = .done (t, s')) : Steady s s' := by
  obtain ⟨-, hq, hs⟩ := takeTask_done hd
  have hm : s'.masterChannel = s.masterChannel := by rw [hs]
  have ht := Tame.takeTask hd
  refine ⟨⟨?_, fun a b ha => ?_, fun a ha => ?_, ht.inits, ht.logIns,
    fun hn => ht.srvNamespace ▸ hn⟩, log_same (by rw [hs])⟩
  · simp only [Session.connects, hq, List.filterMap_cons]
    split
    · exact List.Sublist.refl _
    · exact List.sublist_cons_self _ _
  · rw [hq]
    exact List.mem_cons_of_mem t ha
  · rcases ha with ⟨chan, m, hmem⟩ | ⟨ch, id, hch, he⟩ | ⟨cap, hc, ha⟩
    · exact .inl ⟨chan, m, by rw [hq]; exact List.mem_cons_of_mem t hmem⟩
    · exact .inr (.inl ⟨ch, id, hm ▸ hch, he⟩)
    · exact .inr (.inr ⟨cap, ht.inits cap hc, ha⟩)

end Steady

/-- A task that starts no attempt is posted. -/
theorem connects_append {ts : List Task} (hq : s'.queue = s.queue ++ ts)
    (ht : ∀ t ∈ ts, t.connectAttempt = none) : s'.connects = s.connects := by
  rw [connects, hq, List.filterMap_append, List.filterMap_eq_nil_iff.mpr ht, List.append_nil]
  rfl

/-- No update queues an attempt. -/
theorem Update.connects (h : Update s l s') : s'.connects.Sublist s.connects := by
  have same : s'.queue = s.queue → s'.connects.Sublist s.connects := by
    intro hq
    rw [Session.connects, hq]
    exact List.Sublist.refl _
  have posts : ∀ ts, s'.queue = s.queue ++ ts → (∀ t ∈ ts, t.connectAttempt = none) →
      s'.connects.Sublist s.connects := by
    intro ts hq ht
    rw [connects_append hq ht]
  have post : ∀ t, s'.queue = s.queue ++ [t] → t.connectAttempt = none →
      s'.connects.Sublist s.connects := by
    intro t hq ht
    refine posts [t] hq fun u hu => ?_
    rw [List.mem_singleton.mp hu]
    exact ht
  cases h with
  | @post t ht => exact post t rfl (by cases t <;> first | rfl | cases ht)
  | nickname active => exact same (by cases active <;> rfl)
  | takeBuilder hd =>
    obtain ⟨-, rfl⟩ := takeBuilder_done hd
    exact same rfl
  | useBuilder hd =>
    obtain ⟨-, rfl⟩ := takeBuilder_done hd
    exact post _ rfl rfl
  | emitError hm hh e => exact post _ rfl rfl
  | flushTo hm hh =>
    refine posts _ (flushTo_queue _ _ _) fun t ht => ?_
    obtain ⟨m, -, rfl⟩ := List.mem_map.mp ht
    rfl
  | takeEnd hm hh hc => exact post _ rfl rfl
  | gotOpenReq hm hh hr ho ha => exact post _ rfl (by simp)
  | gotLogInReq hm hh hr he hb => exact post _ rfl rfl
  | gotLogInRsp hm hh hr he => exact post _ rfl rfl
  | gotEnd hm hh hr he hb => exact post _ rfl rfl
  | takeTask hdt hd => exact (Steady.takeTask hd).connects
  | _ => exact same rfl

/-- Nor one of a sub-class. -/
theorem Update.subClass (h : Update s l s') {a : Nat} {b : Builder}
    (ha : .asyncConnect a true b ∈ s'.queue) : .asyncConnect a true b ∈ s.queue := by
  rcases h.posted ha with ha | hp
  · exact ha
  · generalize hu : Task.asyncConnect a true b = u at hp
    cases hp with
    | fromUser hf =>
      subst hu
      cases hf
    | @openReq ch hm h ho m' => cases h <;> cases hu
    | _ => cases hu

/-- No update makes an attempt wait for a message. -/
theorem Update.awaits (h : Update s l s') {a : Nat} (ha : s'.Awaits a) : s.Awaits a := by
  rcases ha with ⟨chan, m, ht⟩ | ⟨ch', id, hm', he'⟩ | ⟨cap, hc, ha⟩
  · rcases h.posted ht with ht | hp
    · exact .inl ⟨chan, m, ht⟩
    · -- the response has come in, so it was expected
      generalize hu : Task.logInRsp chan m a = u at hp
      cases hp with
      | fromUser hf =>
        subst hu
        cases hf
      | @openReq ch hm h ho m' => cases h <;> cases hu
      | logInRsp hm he m' =>
        cases hu
        exact .inr (.inl ⟨_, _, hm, he⟩)
      | _ => cases hu
  · obtain ⟨ch, hm, hsame⟩ := h.channel hm'
    exact .inr (.inl ⟨ch, id, hm, hsame.logInRsp _ he'⟩)
  · exact .inr (.inr ⟨cap, h.inits cap hc, ha⟩)

/-- So an update leaves the attempts as they are. -/
theorem Update.steady (h : Update s l s') : Steady s s' where
  connects := h.connects
  subClass := fun _ _ ha => h.subClass ha
  awaits := fun _ ha => h.awaits ha
  inits := h.inits
  logIns := h.logIns
  srvNamespace := fun hn => h.namespaces.1 ▸ hn
  log := by
    obtain ⟨es, hl, hes⟩ := h.log
    refine ⟨es, hl, List.filterMap_eq_nil_iff.mpr fun e he => ?_⟩
    exact Event.connectCode_of_isCommon (hes e he)

/-- And so do updates. -/
theorem Updates.steady (h : Updates L s s') : Steady s s' :=
  h.keeps (P := fun b => Steady s b) (.refl s) fun _ _ _ hb _ hu => hb.trans hu.steady

/-- No message of an attempt is posted. -/
theorem Awaits.of_post (hst : t.isStage = false) (he : t.isMasterChannelError = false) {a : Nat}
    (ha : (s.post t).Awaits a) : s.Awaits a := by
  rcases ha with ⟨chan, m, hu⟩ | he | ⟨cap, hc, ha⟩
  · rcases List.mem_append.mp hu with hu | hu
    · exact .inl ⟨chan, m, hu⟩
    · rw [← List.mem_singleton.mp hu] at hst
      cases hst
  · exact .inr (.inl he)
  · exact .inr (.inr ⟨cap, (Tame.post hst he).inits cap hc, ha⟩)

/-- A task of the destructor is posted. -/
theorem Steady.post (hst : t.isStage = false) (he : t.isMasterChannelError = false)
    (ht : t.connectAttempt = none) (s : Session) : Steady s (s.post t) := by
  have htame : Tame s (s.post t) := .post hst he
  have hcon : (s.post t).connects = s.connects := by
    refine connects_append (post_queue t s) fun u hu => ?_
    rw [List.mem_singleton.mp hu]
    exact ht
  refine ⟨⟨?_, fun a b ha => ?_, fun a ha => ha.of_post hst he, htame.inits, htame.logIns, id⟩,
    log_same rfl⟩
  · rw [hcon]
  · rcases List.mem_append.mp ha with ha | ha
    · exact ha
    · rw [← List.mem_singleton.mp ha] at ht
      cases ht

/-- What the destructor does in thread U ends no attempt. -/
theorem DtorAct.steady (h : s.DtorAct s') : Steady s s' := by
  cases h with
  | flushDone | stop => exact .of_same rfl rfl rfl (log_same rfl)
  | _ => exact (Steady.post rfl rfl rfl s).trans (.of_same rfl rfl rfl (log_same rfl))

/-- Nor do its tasks in thread W. -/
theorem DtorTask.steady (h : s.DtorTask t s') : Steady s s' := by
  cases h with
  | sendEnd hf hu hw => exact hu.steady.trans (.of_same rfl rfl rfl (log_same rfl))
  | _ => exact .of_same rfl rfl rfl (log_same rfl)

end Session

end IpcSession
