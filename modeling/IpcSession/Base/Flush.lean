import IpcSession.Base.Updates

namespace IpcSession

/-!
# The destructor's progress

`Session.Flushing s` ties the two threads together while the destructor runs: which of its tasks is
queued for thread W at each of its stages, and where thread W can stand.  Elementary updates leave
it alone (`Flushing.of_updates`), the destructor's own steps move it on (`Flushing.dtorAct`,
`Flushing.dtorTask`).
-/

namespace Dtor

/-- Thread W is joined. -/
def isPastStop : Dtor → Bool
  | stopped => true
  | returned => true
  | _ => false

/-- The destructor's task that thread W has in its queue, given where thread W stands. -/
def tasks : Dtor → Worker → List Task
  | querying, _ => [.dtorFinisherQuery]
  | sendingEnd, _ => [.dtorSendEnd]
  | flushing, .flushing _ => []
  | flushing, _ => [.dtorFlush]
  | _, _ => []

/-- Where thread W can stand. -/
def allows : Dtor → Worker → Bool
  | flushing, .flushing willRun => willRun
  | stopped, .stopped => true
  | stopped, _ => false
  | returned, .stopped => true
  | returned, _ => false
  | _, w => w.isServing

/-- Which tasks the destructor waits for does not depend on what a serving thread W is at. -/
theorem tasks_of_isServing {d : Dtor} {w w' : Worker} (hw : w.isServing = true)
    (hw' : w'.isServing = true) : d.tasks w = d.tasks w' := by
  cases d with
  | flushing =>
    cases w with
    | flushing b => cases hw
    | stopped => cases hw
    | _ =>
      cases w' with
      | flushing b => cases hw'
      | stopped => cases hw'
      | _ => rfl
  | _ => rfl

/-- Nor does what it allows thread W to be at. -/
theorem allows_of_isServing {d : Dtor} {w w' : Worker} (hw : w.isServing = true)
    (hw' : w'.isServing = true) (h : d.allows w = true) : d.allows w' = true := by
  cases d with
  | flushing =>
    cases w' with
    | flushing b => cases hw'
    | stopped => cases hw'
    | _ => rfl
  | stopped => cases w <;> simp_all [allows, Worker.isServing]
  | returned => cases w <;> simp_all [allows, Worker.isServing]
  | _ => exact hw'

/-- The stage has one task at most. -/
theorem tasks_idle_eq_cons {d : Dtor} {t : Task} {ts : List Task} (h : t :: ts = d.tasks .idle) :
    ts = [] ∧ d.isPastStop = false := by
  cases d <;> simp_all [tasks, isPastStop]

end Dtor

namespace Session

variable {s s' : Session} {l : Option Mark} {L : Mark → Prop}

/-- The destructor's tasks in the queue. -/
def dtorTasks (s : Session) : List Task := s.queue.filter Task.isDtor

/-- The two threads in step: the destructor's tasks, and where thread W stands. -/
structure Flushing (s : Session) : Prop where
  tasks : s.dtorTasks = s.dtor.tasks s.w
  worker : s.dtor.allows s.w = true

/-! ### Elementary updates -/

/-- A request of the peer's is not a task of the destructor. -/
theorem OpenReqHandler.task_isDtor (h : OpenReqHandler) (chan : Nat) (m : Msg) :
    (h.task chan m).isDtor = false := by
  cases h <;> rfl

/-- A task of another kind leaves the destructor's as they are. -/
theorem dtorTasks_post {t : Task} (ht : t.isDtor = false) : (s.post t).dtorTasks = s.dtorTasks := by
  simp [dtorTasks, ht]

/-- An update posts, and takes, none of the destructor's tasks. -/
theorem Update.dtorTasks (h : Update s l s') : s'.dtorTasks = s.dtorTasks := by
  cases h with
  | post ht =>
    rename_i t
    refine dtorTasks_post ?_
    cases t <;> first | rfl | cases ht
  | nickname active => cases active <;> rfl
  | takeBuilder hd =>
    obtain ⟨-, rfl⟩ := takeBuilder_done hd
    rfl
  | useBuilder hd =>
    obtain ⟨-, rfl⟩ := takeBuilder_done hd
    exact dtorTasks_post rfl
  | emitError hm hh e => simp [Session.dtorTasks, Task.isDtor]
  | flushTo hm hh =>
    rename_i ch
    have hnone : ∀ l : List Msg, (l.map (OpenReqHandler.openChannelReq.task ch.id)).filter
        Task.isDtor = [] := by
      intro l
      simp [OpenReqHandler.task_isDtor]
    simp only [Session.dtorTasks, flushTo_queue, List.filter_append, hnone, List.append_nil]
  | takeEnd => exact dtorTasks_post rfl
  | gotOpenReq => exact dtorTasks_post (OpenReqHandler.task_isDtor _ _ _)
  | gotLogInReq => exact dtorTasks_post rfl
  | gotLogInRsp => exact dtorTasks_post rfl
  | gotEnd => exact dtorTasks_post rfl
  | takeTask ht hd =>
    obtain ⟨-, hq, -⟩ := takeTask_done hd
    simp [Session.dtorTasks, hq, ht]
  | _ => rfl

/-- No update is a step of the destructor. -/
theorem Update.dtor (h : Update s l s') : s'.dtor = s.dtor := by
  cases h with
  | nickname active => cases active <;> rfl
  | takeBuilder hd =>
    obtain ⟨-, rfl⟩ := takeBuilder_done hd
    rfl
  | useBuilder hd =>
    obtain ⟨-, rfl⟩ := takeBuilder_done hd
    rfl
  | takeTask ht hd =>
    obtain ⟨-, -, hs⟩ := takeTask_done hd
    rw [hs]
  | _ => rfl

/-- Thread W stays where it is, or it serves on. -/
theorem Update.worker (h : Update s l s') :
    s'.w = s.w ∨ (s.w.isServing = true ∧ s'.w.isServing = true) := by
  cases h with
  | setW hs hw hi => exact .inr ⟨hs, hw⟩
  | nickname active => exact .inl (by cases active <;> rfl)
  | takeBuilder hd =>
    obtain ⟨-, rfl⟩ := takeBuilder_done hd
    exact .inl rfl
  | useBuilder hd =>
    obtain ⟨-, rfl⟩ := takeBuilder_done hd
    exact .inl rfl
  | gotRsp hw m => exact .inr ⟨by rw [hw]; rfl, rfl⟩
  | takeTask ht hd =>
    obtain ⟨-, -, hs⟩ := takeTask_done hd
    exact .inl (by rw [hs])
  | _ => exact .inl rfl

namespace Flushing

/-- What changes neither the destructor's tasks nor its stage, and lets thread W serve on. -/
theorem keep (h : Flushing s) (ht : s'.dtorTasks = s.dtorTasks) (hd : s'.dtor = s.dtor)
    (hw : s'.w = s.w ∨ (s.w.isServing = true ∧ s'.w.isServing = true)) : Flushing s' := by
  rcases hw with hw | ⟨hs, hs'⟩
  · exact ⟨by rw [ht, hd, hw]; exact h.tasks, by rw [hd, hw]; exact h.worker⟩
  · refine ⟨?_, ?_⟩
    · rw [ht, hd, h.tasks]
      exact Dtor.tasks_of_isServing hs hs'
    · rw [hd]
      exact Dtor.allows_of_isServing hs hs' h.worker

/-- So updates keep its flush. -/
theorem update (h : Flushing s) (hu : Update s l s') : Flushing s' :=
  h.keep hu.dtorTasks hu.dtor hu.worker

/-- A thread W that serves has the task of the destructor's stage. -/
theorem of_serving (ht : s.dtorTasks = s.dtor.tasks .idle) (hw : s.w.isServing = true)
    (hd : s.dtor.isPastStop = false) : Flushing s where
  tasks := ht.trans (Dtor.tasks_of_isServing rfl hw)
  worker := by
    refine Dtor.allows_of_isServing (w := .idle) rfl hw ?_
    cases hdt : s.dtor with
    | stopped => rw [hdt] at hd; cases hd
    | returned => rw [hdt] at hd; cases hd
    | _ => rfl

/-! ### The destructor's own steps -/

/-- From a stage in which thread W has none of the destructor's tasks, thread U posts the next. -/
theorem posted (h : Flushing s) {t : Task} {d : Dtor} (ht : t.isDtor = true)
    (hnone : s.dtor.tasks s.w = []) (hw : s.w.isServing = true) (hd : d.isPastStop = false)
    (htask : d.tasks .idle = [t]) : Flushing ((s.post t).setDtor d) := by
  refine of_serving ?_ hw hd
  have hq : s.queue.filter Task.isDtor = [] := h.tasks.trans hnone
  simp [dtorTasks, hq, ht, htask]

/-- Each step of thread U's leaves the tasks that its next point waits for. -/
theorem dtorAct (h : Flushing s) (ha : DtorAct s s') : Flushing s' := by
  have hall := h.worker
  have htasks := h.tasks
  cases ha with
  | startGraceful hd =>
    rw [hd] at hall
    exact h.posted rfl (by rw [hd]; rfl) hall rfl rfl
  | startPlain hd =>
    rw [hd] at hall
    exact h.posted rfl (by rw [hd]; rfl) hall rfl rfl
  | sendEnd hd =>
    rw [hd] at hall
    exact h.posted rfl (by rw [hd]; rfl) hall rfl rfl
  | noFinisher hd =>
    rw [hd] at hall
    exact h.posted rfl (by rw [hd]; rfl) hall rfl rfl
  | peerDone hd hf =>
    rw [hd] at hall
    exact h.posted rfl (by rw [hd]; rfl) hall rfl rfl
  | flushDone hw =>
    refine of_serving ?_ rfl rfl
    -- only in the final flush does thread W stand there
    cases hdt : s.dtor with
    | flushing => rw [hdt, hw] at htasks; exact htasks
    | _ => rw [hdt, hw] at hall; cases hall
  | stop hd hw =>
    rw [hd, hw] at htasks
    exact ⟨htasks, rfl⟩

/-- Thread W takes a task of the destructor's: it is the one of the destructor's stage. -/
theorem taken (h : Flushing s) {t : Task} {b : Session} (ht : t.isDtor = true)
    (hd : s.takeTask = .done (t, b)) : s.dtor.tasks .idle = [t] ∧ b.dtorTasks = [] ∧ b.w = .idle ∧
      b.dtor = s.dtor ∧ b.dtor.isPastStop = false := by
  obtain ⟨hw, hq, hb⟩ := takeTask_done hd
  have htasks := h.tasks
  have hall := h.worker
  have hcons : s.dtorTasks = t :: b.dtorTasks := by simp [Session.dtorTasks, hq, ht]
  rw [hw] at hall
  rw [hcons, hw] at htasks
  obtain ⟨hrest, hpast⟩ := Dtor.tasks_idle_eq_cons htasks
  have hdb : b.dtor = s.dtor := by rw [hb]
  exact ⟨by rw [← htasks, hrest], hrest, by rw [hb]; exact hw, hdb, by rw [hdb]; exact hpast⟩

/-- What thread W does for the destructor, if the final flush starts only where it will end. -/
theorem dtorTask (h : Flushing s) {t : Task} {b b' : Session} (hd : s.takeTask = .done (t, b))
    (hb : DtorTask b t b')
    (hf : t = .dtorFlush → b.masterChannel.isSome = true → b' = b.setW (.flushing true)) :
    Flushing b' := by
  cases hb with
  | finisherQuery =>
    obtain ⟨-, hnone, hw, -, -⟩ := h.taken rfl hd
    exact of_serving hnone (by exact hw ▸ rfl) rfl
  | sendEnd hfin hu hw' =>
    rename_i b₁
    obtain ⟨-, hnone, hw, -, -⟩ := h.taken rfl hd
    have hsame : b₁.dtorTasks = b.dtorTasks :=
      hu.keeps (P := fun c => c.dtorTasks = b.dtorTasks) rfl fun _ _ _ hc _ hu =>
        hu.dtorTasks.trans hc
    exact of_serving (hsame.trans hnone) (by exact hw'.trans hw ▸ rfl) rfl
  | noChannel hm =>
    obtain ⟨-, hnone, hw, -, -⟩ := h.taken rfl hd
    exact of_serving hnone (by exact hw ▸ rfl) rfl
  | flush hm willRun =>
    obtain ⟨hstage, hnone, hw, hdt, -⟩ := h.taken rfl hd
    have hflush : s.dtor = .flushing := by
      cases hdt : s.dtor <;> rw [hdt] at hstage <;> cases hstage
    have hb : b.dtor = .flushing := hdt.trans hflush
    rw [hf rfl hm]
    constructor
    · show b.dtorTasks = b.dtor.tasks (.flushing true)
      rw [hnone, hb]
      rfl
    · show b.dtor.allows (.flushing true) = true
      rw [hb]
      rfl

/-! ### What the two threads can do while the final flush goes on -/

/-- Where thread W stands between the end of the graceful-finish phase and the join. -/
inductive Waits (s : Session) : Prop
  | forFlush (hd : s.dtor = .flushing) (hw : s.w = .flushing true)
  | forTask (hw : s.w = .idle) (t : Task) (ts : List Task) (hq : s.queue = t :: ts)
  | forStop (hd : s.dtor = .flushed) (hw : s.w = .idle)
  | forResponse (k : SyncCall) (req : Nat) (rsp : Option Msg) (hw : s.w = .inSyncRequest k req rsp)

/-- From the flush on, thread W waits for its end, or for a response, or it has something to do. -/
theorem waits (h : Flushing s) (hd : s.dtor = .flushing ∨ s.dtor = .flushed) : Waits s := by
  have htasks := h.tasks
  have hall := h.worker
  cases hw : s.w with
  | inSyncRequest k req rsp => exact .forResponse k req rsp hw
  | stopped =>
    rw [hw] at hall
    rcases hd with hd | hd <;> rw [hd] at hall <;> cases hall
  | flushing willRun =>
    rw [hw] at hall
    rcases hd with hd | hd
    · rw [hd] at hall
      have hrun : willRun = true := hall
      exact .forFlush hd (by rw [hw, hrun])
    · rw [hd] at hall
      cases hall
  | idle =>
    rcases hd with hd | hd
    · rw [hd, hw] at htasks
      have hmem : Task.dtorFlush ∈ s.dtorTasks := by rw [htasks]; exact List.mem_singleton.mpr rfl
      cases hq : s.queue with
      | nil => rw [Session.dtorTasks, hq] at hmem; cases hmem
      | cons t ts => exact .forTask hw t ts hq
    · exact .forStop hd hw

/-- Thread W stands still once it is joined. -/
theorem stopped (h : Flushing s) (hd : s.dtor.isPastStop = true) : s.w = .stopped := by
  have hall := h.worker
  cases hdt : s.dtor with
  | stopped => rw [hdt] at hall; cases hw : s.w <;> rw [hw] at hall <;> first | rfl | cases hall
  | returned => rw [hdt] at hall; cases hw : s.w <;> rw [hw] at hall <;> first | rfl | cases hall
  | _ => rw [hdt] at hd; cases hd

/-- Thread W waits for the promise in the flushing stage only. -/
theorem flushing_of_worker (h : Flushing s) {willRun : Bool} (hw : s.w = .flushing willRun) :
    s.dtor = .flushing := by
  have hall := h.worker
  rw [hw] at hall
  cases hdt : s.dtor <;> rw [hdt] at hall <;> first | rfl | cases hall

end Flushing

/-! ### The condition for the final flush to end -/

/-- If thread W is about to start the final flush, `async_end_sending()` will run its handler, or
    there is no channel to flush. -/
def flushRuns (s : Session) (willRun : Bool) : Bool :=
  s.queue.head? ≠ some .dtorFlush || s.masterChannel.isNone || willRun

/-- Where the guard holds, the flush comes to an end that runs its handler. -/
theorem dtorFlush_of_flushRuns {t : Task} {b b' : Session} {willRun : Bool}
    (hg : s.flushRuns willRun = true) (hd : s.takeTask = .done (t, b))
    (hf : t = .dtorFlush → b' = b.dtorFlush willRun) (ht : t = .dtorFlush)
    (hm : b.masterChannel.isSome = true) : b' = b.setW (.flushing true) := by
  obtain ⟨-, hq, hb⟩ := takeTask_done hd
  have hms : s.masterChannel.isNone = false := by
    rw [hb] at hm
    cases hmc : s.masterChannel with
    | none => rw [hmc] at hm; cases hm
    | some ch => rfl
  have hhead : s.queue.head? = some .dtorFlush := by rw [hq, ht]; rfl
  have hrun : willRun = true := by simpa [flushRuns, hms, hhead] using hg
  rw [hf ht, hrun, dtorFlush]
  cases hmc : b.masterChannel with
  | none => rw [hmc] at hm; cases hm
  | some ch => rfl

/-! ### The stages only go forward -/

/-- The final flush is over. -/
def flushOver (s : Session) : Bool :=
  match s.dtor with
  | .flushed => true
  | d => d.isPastStop

/-- While a task of the destructor's is left, the final flush is not over. -/
theorem Flushing.flushOver_of_taken (h : Flushing s) {t : Task} {b : Session} (ht : t.isDtor = true)
    (hd : s.takeTask = .done (t, b)) : s.flushOver = false := by
  obtain ⟨hstage, -⟩ := h.taken ht hd
  rw [flushOver]
  cases hdt : s.dtor <;> rw [hdt] at hstage <;> first | rfl | cases hstage

/-- A flush that is over stays over. -/
theorem DtorAct.flushOver (h : DtorAct s s') (hs : s.flushOver = true) : s'.flushOver = true := by
  cases h with
  | startGraceful hd => rw [Session.flushOver, hd] at hs; cases hs
  | startPlain hd => rw [Session.flushOver, hd] at hs; cases hs
  | sendEnd hd => rw [Session.flushOver, hd] at hs; cases hs
  | noFinisher hd => rw [Session.flushOver, hd] at hs; cases hs
  | peerDone hd hf => rw [Session.flushOver, hd] at hs; cases hs
  | flushDone hw => rfl
  | stop hd hw => rfl

/-- Once thread W is joined, it stays so. -/
theorem DtorAct.isPastStop (h : DtorAct s s') (hi : Flushing s) (hs : s.dtor.isPastStop = true) :
    s'.dtor.isPastStop = true := by
  cases h with
  | startGraceful hd => rw [hd] at hs; cases hs
  | startPlain hd => rw [hd] at hs; cases hs
  | sendEnd hd => rw [hd] at hs; cases hs
  | noFinisher hd => rw [hd] at hs; cases hs
  | peerDone hd hf => rw [hd] at hs; cases hs
  | flushDone hw => rw [hi.flushing_of_worker hw] at hs; cases hs
  | stop hd hw => rfl

end Session

end IpcSession
