import IpcSession.Base.Tame

namespace IpcSession

/-!
# Tasks and the channel that posted them

Thread W handles what the channel's handlers have posted.  By then the channel may be gone.

* `Task.messageOf`, `Task.errorOf` — the channel whose message, or whose error, a task is about.
* `Session.Own` — every message that waits is of the channel at hand, none waits behind an error of
  the channel, and where the log-in response is to come no request is.
* `Session.Update.own` — what is common to both sides keeps this; the two places that register a
  handler and the one that drops the channel have a lemma each.
-/

namespace Task

/-- The channel whose message the task handles. -/
def messageOf : Task → Option Nat
  | logInRsp chan _ _ => some chan
  | initOpenChannel chan _ _ => some chan
  | openChannelReq chan _ => some chan
  | _ => none

/-- The channel whose error the task reports. -/
def errorOf : Task → Option Nat
  | masterChannelError chan _ => some chan
  | _ => none

/-- A request to open a channel, at either of its handlers. -/
def isOpenReq : Task → Bool
  | initOpenChannel .. => true
  | openChannelReq .. => true
  | _ => false

/-- A message that is handled is the log-in response or a request for a channel. -/
theorem isLogInRsp_or_isOpenReq {t : Task} {c : Nat} (h : t.messageOf = some c) :
    t.isLogInRsp = true ∨ t.isOpenReq = true := by
  cases t with
  | logInRsp => exact .inl rfl
  | initOpenChannel => exact .inr rfl
  | openChannelReq => exact .inr rfl
  | _ => cases h

/-- A request for a channel is a message of some channel. -/
theorem messageOf_of_isOpenReq {t : Task} (h : t.isOpenReq = true) : ∃ c, t.messageOf = some c := by
  cases t with
  | initOpenChannel => exact ⟨_, rfl⟩
  | openChannelReq => exact ⟨_, rfl⟩
  | _ => cases h

/-- A request for a channel is not the report of an error. -/
@[simp] theorem errorOf_task (h : OpenReqHandler) (chan : Nat) (m : Msg) :
    (h.task chan m).errorOf = none := by
  cases h <;> rfl

/-- It is a message of the channel that it came on. -/
@[simp] theorem messageOf_task (h : OpenReqHandler) (chan : Nat) (m : Msg) :
    (h.task chan m).messageOf = some chan := by
  cases h <;> rfl

end Task

namespace Session

variable {s s' : Session} {n : Nat} {q : List Task} {l : Option Mark} {L : Mark → Prop}

/-- Which channel there is. -/
def chanId (s : Session) : Option Nat := s.masterChannel.map (·.id)

/-- The handler for requests to open a channel. -/
def openReq (s : Session) : Option OpenReqHandler := s.masterChannel.bind (·.openReqHandler)

/-- What waits for thread W is of the channel at hand; the `n` channels so far bear the numbers
    below `n`. -/
structure Own (n : Nat) (s : Session) : Prop where
  message : ∀ t ∈ s.queue, ∀ c, t.messageOf = some c → s.chanId = some c
  error : ∀ t ∈ s.queue, ∀ c, t.errorOf = some c → c < n
  channel : ∀ c, s.chanId = some c → c < n
  /-- A channel that has not failed has not reported so. -/
  quiet : s.channelHosed = false → ∀ t ∈ s.queue, ∀ c, t.errorOf = some c → s.chanId ≠ some c
  last : s.queue.Pairwise fun t u => ∀ c, t.errorOf = some c → u.messageOf ≠ some c
  /-- Requests are handled from the log-in response on only. -/
  logIn : 0 < s.logIns → s.openReq = none ∧ ∀ t ∈ s.queue, t.isOpenReq = false
  once : s.logIns ≤ 1

namespace Own

/-- The channel, if it changes at all, stays the same one, and the tasks `q` are posted. -/
theorem of_posts (h : Own n s) (hq : s'.queue = s.queue ++ q) (hid : s'.chanId = s.chanId)
    (ho : s'.openReq = none ∨ s'.openReq = s.openReq)
    (hh : s'.channelHosed = false → s.channelHosed = false) (hl : s'.logIns ≤ s.logIns)
    (he : ∀ t ∈ q, t.errorOf = none)
    (hm : ∀ t ∈ q, t.messageOf = none ∨ s.channelHosed = false ∧ t.messageOf = s.chanId)
    (hr : ∀ t ∈ q, t.isOpenReq = true → s.openReq.isSome = true) : Own n s' where
  message := fun t ht c hc => by
    rw [hid]
    rw [hq] at ht
    rcases List.mem_append.mp ht with ht | ht
    · exact h.message t ht c hc
    · rcases hm t ht with hm | ⟨-, hm⟩
      · rw [hm] at hc
        cases hc
      · rw [← hm]
        exact hc
  error := fun t ht c hc => by
    rw [hq] at ht
    rcases List.mem_append.mp ht with ht | ht
    · exact h.error t ht c hc
    · rw [he t ht] at hc
      cases hc
  channel := by rw [hid]; exact h.channel
  quiet := fun hs t ht c hc => by
    rw [hid]
    rw [hq] at ht
    rcases List.mem_append.mp ht with ht | ht
    · exact h.quiet (hh hs) t ht c hc
    · rw [he t ht] at hc
      cases hc
  -- The posted tasks are no errors, so what follows an error is as before.
  last := by
    rw [hq, List.pairwise_append]
    refine ⟨h.last, List.pairwise_of_forall_mem_list fun t ht _ _ c hc => ?_,
      fun t ht u hu c hc => ?_⟩
    · rw [he t ht] at hc
      cases hc
    · rcases hm u hu with hm | ⟨hs, hm⟩
      · rw [hm]
        exact fun hn => by cases hn
      · rw [hm]
        exact h.quiet hs t ht c hc
  -- While the log-in is under way no request for a channel is expected or queued.
  logIn := fun hp => by
    obtain ⟨hnone, hreq⟩ := h.logIn (Nat.lt_of_lt_of_le hp hl)
    refine ⟨ho.elim id (·.trans hnone), fun t ht => ?_⟩
    rw [hq] at ht
    rcases List.mem_append.mp ht with ht | ht
    · exact hreq t ht
    · by_contra hn
      have hsome := hr t ht (by simpa using hn)
      rw [hnone] at hsome
      cases hsome
  once := hl.trans h.once

/-- Neither the queue nor the channel changes. -/
theorem of_same (h : Own n s) (hq : s'.queue = s.queue) (hm : s'.masterChannel = s.masterChannel) :
    Own n s' := by
  refine h.of_posts (q := []) (by rw [hq, List.append_nil]) ?_ (.inr ?_) ?_ ?_
    (fun _ ht => by cases ht) (fun _ ht => by cases ht) (fun _ ht => by cases ht)
  · simp only [chanId, hm]
  · simp only [openReq, hm]
  · simp only [channelHosed, hm, imp_self]
  · simp only [logIns, hq, hm, le_refl]

/-- Of the channel, `ch`, some other member changes, and `q` is posted. -/
theorem of_channel {ch ch' : MasterChannel} (h : Own n s) (hm : s.masterChannel = some ch)
    (hm' : s'.masterChannel = some ch') (hid : ch'.id = ch.id)
    (ho : ch'.openReqHandler = none ∨ ch'.openReqHandler = ch.openReqHandler)
    (hh : ch'.hosed = false → ch.hosed = false) (hq : s'.queue = s.queue ++ q)
    (hl : s'.logIns ≤ s.logIns) (he : ∀ t ∈ q, t.errorOf = none)
    (hts : ∀ t ∈ q, t.messageOf = none ∨ ch.hosed = false ∧ t.messageOf = some ch.id)
    (hr : ∀ t ∈ q, t.isOpenReq = true → ch.openReqHandler.isSome = true) : Own n s' := by
  refine h.of_posts hq ?_ ?_ ?_ hl he (fun t ht => ?_) fun t ht hreq => ?_
  · simp only [chanId, hm, hm', Option.map_some, hid]
  · simpa only [openReq, hm, hm', Option.bind_some] using ho
  · simpa only [channelHosed, hm, hm', Option.any_some] using hh
  · simpa only [channelHosed, chanId, hm, Option.any_some, Option.map_some] using hts t ht
  · simpa only [openReq, hm, Option.bind_some] using hr t ht hreq

/-- Some task that is not about the channel is posted. -/
theorem post {t : Task} (h : Own n s) (he : t.errorOf = none) (hm : t.messageOf = none) :
    Own n (s.post t) := by
  have hlog : t.isLogInRsp = false := by
    cases t <;> first | rfl | cases hm
  have hreq : t.isOpenReq = false := by
    cases t <;> first | rfl | cases hm
  refine h.of_posts (q := [t]) rfl rfl (.inr rfl) id (logIns_post hlog).le (fun u hu => ?_)
    (fun u hu => ?_) fun u hu hu' => ?_
  · rw [List.mem_singleton.mp hu]
    exact he
  · rw [List.mem_singleton.mp hu]
    exact .inl hm
  · rw [List.mem_singleton.mp hu, hreq] at hu'
    cases hu'

/-- The channel reports its error. -/
theorem emitError {ch : MasterChannel} {e : Err} (h : Own n s) (hm : s.masterChannel = some ch) :
    Own n (s.emitError ch e) where
  message := fun t ht c hc => by
    rcases List.mem_append.mp ht with ht | ht
    · have hold := h.message t ht c hc
      rw [chanId, hm] at hold
      exact hold
    · rw [List.mem_singleton.mp ht] at hc
      cases hc
  error := fun t ht c hc => by
    rcases List.mem_append.mp ht with ht | ht
    · exact h.error t ht c hc
    · rw [List.mem_singleton.mp ht] at hc
      cases hc
      exact h.channel ch.id (by rw [chanId, hm]; rfl)
  channel := fun c hc => h.channel c (by rw [chanId, hm]; exact hc)
  quiet := fun hs => by cases hs
  last := by
    rw [emitError_queue, List.pairwise_append]
    refine ⟨h.last, List.pairwise_singleton _ _, fun t _ u hu c _ => ?_⟩
    rw [List.mem_singleton.mp hu]
    exact fun hn => by cases hn
  logIn := fun hp => by
    obtain ⟨hnone, hreq⟩ := h.logIn ((Frame.emitError hm e).logIns ▸ hp)
    refine ⟨by rw [openReq, hm] at hnone; exact hnone, fun t ht => ?_⟩
    rcases List.mem_append.mp ht with ht | ht
    · exact hreq t ht
    · rw [List.mem_singleton.mp ht]
      rfl
  once := (Frame.emitError hm e).logIns.le.trans h.once

/-- Thread W takes a task. -/
theorem takeTask {t : Task} (h : Own n s) (hd : s.takeTask = .done (t, s')) : Own n s' := by
  have hl := (Tame.takeTask hd).logIns
  obtain ⟨-, hq, hs⟩ := takeTask_done hd
  have hm : s'.masterChannel = s.masterChannel := by rw [hs]
  have hmem : ∀ u ∈ s'.queue, u ∈ s.queue := fun u hu => by
    rw [hq]
    exact List.mem_cons_of_mem t hu
  have hid : s'.chanId = s.chanId := by rw [chanId, chanId, hm]
  have hh : s'.channelHosed = s.channelHosed := by rw [channelHosed, channelHosed, hm]
  have ho : s'.openReq = s.openReq := by rw [openReq, openReq, hm]
  exact {
    message := fun u hu => by rw [hid]; exact h.message u (hmem u hu)
    error := fun u hu => h.error u (hmem u hu)
    channel := by rw [hid]; exact h.channel
    quiet := fun hs u hu => by rw [hid]; exact h.quiet (hh ▸ hs) u (hmem u hu)
    last := by
      have hl := h.last
      rw [hq] at hl
      exact (List.pairwise_cons.mp hl).2
    logIn := fun hp => by
      obtain ⟨hnone, hreq⟩ := h.logIn (Nat.lt_of_lt_of_le hp hl)
      exact ⟨ho.trans hnone, fun u hu => hreq u (hmem u hu)⟩
    once := hl.trans h.once }

end Own

/-! ### Where the channel changes -/

/-- **What is common to both sides keeps it**, but where a handler is registered. -/
theorem Update.own (h : Update s l s') (hl : l ≠ some .expect) (ho : Own n s) : Own n s' := by
  have hlog := h.logIns
  have nil : ∀ {P : Task → Prop}, ∀ t ∈ ([] : List Task), P t := fun _ ht => by cases ht
  have one : ∀ {t : Task} {P : Task → Prop}, P t → ∀ u ∈ [t], P u := by
    intro t P hp u hu
    rw [List.mem_singleton.mp hu]
    exact hp
  cases h with
  -- The user's tasks carry nothing of the channel.
  | @post t ht =>
    exact ho.post (by cases t <;> first | rfl | cases ht) (by cases t <;> first | rfl | cases ht)
  | nickname active => cases active <;> exact ho.of_same rfl rfl
  | takeBuilder hd =>
    obtain ⟨-, rfl⟩ := takeBuilder_done hd
    exact ho.of_same rfl rfl
  | useBuilder hd =>
    obtain ⟨-, rfl⟩ := takeBuilder_done hd
    exact Own.post (t := .openChannel _ _) (ho.of_same rfl rfl) rfl rfl
  | emitError hm hh e => exact ho.emitError hm
  | failCall hm hh e =>
    exact ho.of_channel hm rfl rfl (.inr rfl) (fun hn => by cases hn) (List.append_nil _).symm hlog
      nil nil nil
  | transmit hm hh m =>
    exact ho.of_channel hm rfl rfl (.inr rfl) id (List.append_nil _).symm hlog nil nil nil
  -- The two expectations of requests are treated apart: they move many tasks at once.
  | flushTo hm hh => exact absurd rfl hl
  | undoExpect hm hh => exact absurd rfl hl
  | expectEnd hm hh =>
    exact ho.of_channel hm rfl rfl (.inr rfl) id (List.append_nil _).symm hlog nil nil nil
  | takeEnd hm hh =>
    exact ho.of_channel hm rfl rfl (.inr rfl) id rfl hlog (one rfl) (one (.inl rfl))
      (one fun hn => by cases hn)
  | cache hm hh hr =>
    exact ho.of_channel hm rfl rfl (.inr rfl) id (List.append_nil _).symm hlog nil nil nil
  -- A message of the channel, posted while it is unhosed.
  | @gotOpenReq ch hm hh m hr h hoh ha =>
    exact ho.of_channel hm hm rfl (.inr rfl) id rfl hlog (one (Task.errorOf_task h ch.id m))
      (one (.inr ⟨hh, Task.messageOf_task h ch.id m⟩)) (one fun _ => by rw [hoh]; rfl)
  | gotLogInReq hm hh hr he hb =>
    exact ho.of_channel hm rfl rfl (.inr rfl) id rfl hlog (one rfl) (one (.inl rfl))
      (one fun hn => by cases hn)
  | gotLogInRsp hm hh hr he =>
    exact ho.of_channel hm rfl rfl (.inr rfl) id rfl hlog (one rfl) (one (.inr ⟨hh, rfl⟩))
      (one fun hn => by cases hn)
  | gotEnd hm hh hr he =>
    exact ho.of_channel hm rfl rfl (.inr rfl) id rfl hlog (one rfl) (one (.inl rfl))
      (one fun hn => by cases hn)
  | takeTask hdt hd => exact ho.takeTask hd
  | _ => exact ho.of_same rfl rfl

/-- Updates leave each channel the messages that are its own. -/
theorem Updates.own (h : Updates L s s') (hL : ¬ L .expect) (ho : Own n s) : Own n s' :=
  h.keeps (P := Own n) ho fun _ _ _ hb hl hu => hu.own (fun he => hL (hl _ he)) hb

/-- Requests are handled from now on. -/
theorem Own.flushTo {ch : MasterChannel} {k : OpenReqHandler} (h : Own n s)
    (hm : s.masterChannel = some ch) (hh : ch.hosed = false) (hl : s.logIns = 0) :
    Own n (s.flushTo ch k) := by
  have hs : s.channelHosed = false := by
    rw [channelHosed, hm]
    exact hh
  have hid : s.chanId = some ch.id := by
    rw [chanId, hm]
    rfl
  have hl' : (s.flushTo ch k).logIns = 0 := by
    rw [(Frame.flushTo hm k).logIns, hl]
  -- What the flush adds are messages of this very channel, no errors.
  have hmem : ∀ t ∈ (s.flushTo ch k).queue, t ∈ s.queue ∨ ∃ m, t = k.task ch.id m := by
    intro t ht
    rw [flushTo_queue, List.mem_append, List.mem_map] at ht
    rcases ht with ht | ⟨m, -, ht⟩
    · exact .inl ht
    · exact .inr ⟨m, ht.symm⟩
  exact {
    message := fun t ht c hc => by
      rcases hmem t ht with ht | ⟨m, rfl⟩
      · have hold := h.message t ht c hc
        rw [hid] at hold
        exact hold
      · rw [Task.messageOf_task] at hc
        exact hc
    error := fun t ht c hc => by
      rcases hmem t ht with ht | ⟨m, rfl⟩
      · exact h.error t ht c hc
      · rw [Task.errorOf_task] at hc
        cases hc
    channel := fun c hc => h.channel c (by rw [hid]; exact hc)
    quiet := fun _ t ht c hc => by
      rcases hmem t ht with ht | ⟨m, rfl⟩
      · have hold := h.quiet hs t ht c hc
        rw [hid] at hold
        exact hold
      · rw [Task.errorOf_task] at hc
        cases hc
    -- Nothing follows an error: while the channel is unhosed there is no error to follow.
    last := by
      rw [flushTo_queue, List.pairwise_append]
      refine ⟨h.last, List.pairwise_of_forall_mem_list fun t ht _ _ c hc => ?_,
        fun t ht u hu c hc => ?_⟩
      · obtain ⟨m, -, rfl⟩ := List.mem_map.mp ht
        rw [Task.errorOf_task] at hc
        cases hc
      · obtain ⟨m, -, rfl⟩ := List.mem_map.mp hu
        rw [Task.messageOf_task]
        have hold := h.quiet hs t ht c hc
        rw [hid] at hold
        exact hold
    logIn := fun hp => by
      rw [hl'] at hp
      cases hp
    once := by
      rw [hl']
      exact Nat.zero_le 1 }

/-- Requests are not handled any more. -/
theorem Own.undoExpect {ch : MasterChannel} (h : Own n s) (hm : s.masterChannel = some ch) :
    Own n (s.setChannel { ch with openReqHandler := none }) :=
  h.of_channel hm rfl rfl (.inl rfl) id (List.append_nil _).symm (Frame.setChannel hm rfl).logIns.le
    (fun _ ht => by cases ht) (fun _ ht => by cases ht) (fun _ ht => by cases ht)

/-- The channel goes, and no message of it waits. -/
theorem Own.dropChannel (h : Own n s) (hq : ∀ t ∈ s.queue, t.messageOf = none) :
    Own n s.dropChannel where
  message := fun t ht c hc => by
    rw [hq t ht] at hc
    cases hc
  error := h.error
  channel := fun c hc => by cases hc
  quiet := fun _ _ _ c _ hc => by cases hc
  last := h.last
  logIn := fun _ => by
    refine ⟨rfl, fun t ht => ?_⟩
    by_contra hreq
    obtain ⟨c, hc⟩ := Task.messageOf_of_isOpenReq (eq_true_of_ne_false hreq)
    rw [hq t ht] at hc
    cases hc
  once := by
    have hle : s.dropChannel.logIns ≤ s.logIns := Nat.add_le_add_left (Nat.zero_le _) _
    exact hle.trans h.once

/-- Where there is no channel no message waits. -/
theorem Own.no_message (h : Own n s) (hm : s.masterChannel = none) {t : Task} (ht : t ∈ s.queue) :
    t.messageOf = none := by
  cases hc : t.messageOf with
  | none => rfl
  | some c =>
    have hid := h.message t ht c hc
    rw [chanId, hm] at hid
    cases hid

/-- The next channel is made. -/
theorem Own.makeChannel (h : Own n s) (hm : s.masterChannel = none) (isServer : Bool) :
    Own (n + 1) (s.setChannel (.fresh n isServer)) where
  message := fun t ht c hc => by
    rw [h.no_message hm ht] at hc
    cases hc
  error := fun t ht c hc => Nat.lt_succ_of_lt (h.error t ht c hc)
  channel := fun c hc => by
    cases hc
    exact Nat.lt_succ_self n
  quiet := fun _ t ht c hc hid => by
    cases hid
    exact absurd (h.error t ht n hc) (Nat.lt_irrefl n)
  last := h.last
  logIn := fun _ => by
    refine ⟨rfl, fun t ht => ?_⟩
    by_contra hreq
    obtain ⟨c, hc⟩ := Task.messageOf_of_isOpenReq (eq_true_of_ne_false hreq)
    rw [h.no_message hm ht] at hc
    cases hc
  once := by
    have hle : (s.setChannel (.fresh n isServer)).logIns = s.logIns := by
      simp only [logIns, hm]
      rfl
    rw [hle]
    exact h.once

/-- Behind the report of the channel's error no message waits. -/
theorem Own.behind {t : Task} {c : Nat} (h : Own n s) (hd : s.takeTask = .done (t, s'))
    (ht : t.errorOf = some c) (hid : s.chanId = some c) : ∀ u ∈ s'.queue, u.messageOf = none := by
  obtain ⟨-, hq, -⟩ := takeTask_done hd
  have hl := h.last
  rw [hq] at hl
  intro u hu
  cases hc : u.messageOf with
  | none => rfl
  | some c' =>
    have hid' := h.message u (by rw [hq]; exact List.mem_cons_of_mem t hu) c' hc
    rw [hid] at hid'
    cases hid'
    exact absurd hc ((List.pairwise_cons.mp hl).1 u hu c ht)

end Session

end IpcSession
