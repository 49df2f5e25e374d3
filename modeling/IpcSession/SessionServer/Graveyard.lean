import IpcSession.SessionServer.Shutdown

namespace IpcSession

/-!
# The sessions of a session server that runs

* `SessionServer.buriesWell` — a session whose log-in has failed goes to a graveyard thread that was
  started, and its task is not run while thread Wa still holds the session.
* `SessionServer.Buried` — then the graveyard thread destroys it.
* `SessionServer.noLeak_of_reaches` — the sessions kept alive are those in `m_incomplete_sessions`.
* `SessionServer.not_noLeak_of_reaches` — without an `err_code` the constructor does not start the
  graveyard thread, and a session whose log-in fails stays.
-/

namespace SessionServer

variable {cfg : Cfg} {s s' : SessionServer} {i : Nat} {c : Accepted} {t : Thread}

/-- The destructor does not start, no session goes to a graveyard thread that was not started, and
    the graveyard thread lets go of no session that thread Wa still holds. -/
def buriesWell (s : SessionServer) : Act → Bool
  | .dtorStart => false
  | .logInHandler i => s.graveyardStarted || s.sessions[i]?.all fun c => !(match c.handler with
    | .erased (some _) => true
    | _ => false)
  | .graveyardRun => s.graveyard.head?.all fun i => !s.wa.holds i
  | _ => true

/-- Before the destructor starts, burying well is quiet. -/
theorem quiet_of_buriesWell {a : Act} (hd : s.dtor = .notStarted) (ha : s.buriesWell a = true) :
    s.quiet a = true := by
  cases a with
  | dtorStart => cases ha
  | accepted r => simp [quiet, hd]
  | session i a => simp [quiet, hd]
  | _ => rfl

/-- A session whose log-in has failed is in the graveyard, or the graveyard thread destroys it. -/
def Buried (s : SessionServer) (i : Nat) (c : Accepted) : Prop :=
  ∀ e, c.handler = .settled (some e) ∨ c.handler = .returned (some e) →
    i ∈ s.graveyard ∨ c.life = .dying .graveyard ∨ c.life = .dead .graveyard

/-- What is known of a session server that runs. -/
structure GraveyardInv (cfg : Cfg) (s : SessionServer) : Prop where
  accounting : Accounting cfg s
  notStarted : s.dtor = .notStarted
  /-- A graveyard thread that was not started gets no tasks. -/
  unstarted : s.graveyardStarted = false → s.graveyard = []
  buried : ∀ i c, s.sessions[i]? = some c → Buried s i c

/-- The graveyard is empty. -/
theorem graveyardInv_constructed (srvNamespace : SharedName) (errCodeGiven : Bool) :
    GraveyardInv cfg (constructed srvNamespace errCodeGiven) where
  accounting := accounting_constructed srvNamespace errCodeGiven
  notStarted := rfl
  unstarted := fun _ => rfl
  buried := fun i c h => by cases h

/-- A log-in that has not failed. -/
theorem buried_of_handler (h : ∀ e, c.handler ≠ .settled (some e) ∧
    c.handler ≠ .returned (some e)) :
    Buried s i c := by
  intro e he
  rcases he with he | he
  · exact absurd he (h e).1
  · exact absurd he (h e).2

/-- What is in the graveyard, or needs none, is buried all the same. -/
theorem Buried.keep (h : Buried s i c) (hg : i ∈ s.graveyard → i ∈ s'.graveyard) : Buried s' i c :=
  fun e he => (h e he).imp hg id

/-- Letting go of a session starts no thread. -/
@[simp] theorem release_graveyardStarted (t : Thread) (i : Nat) (s : SessionServer) :
    (s.release t i).graveyardStarted = s.graveyardStarted := by
  unfold release
  split <;> rfl

namespace GraveyardInv

/-- The handler of a log-in moves on, to a failure only if it has come to one. -/
theorem buried_update (h : GraveyardInv cfg s) (hi : s.sessions[i]? = some c) {s₁ : SessionServer}
    {f : Accepted → Accepted} (hsess : s₁.sessions = s.sessions) (hg : s₁.graveyard = s.graveyard)
    (hf : Buried s i c → Buried s i (f c)) :
    ∀ j c, (s₁.update i f).sessions[j]? = some c → Buried (s₁.update i f) j c := by
  have hc := (changeOf_update i f s₁).of_sessions hsess
  refine hc.all h.buried (fun j c _ hb => hb.keep fun hj => ?_) fun c₀ hc₀ hb => ?_
  · exact hg.symm ▸ hj
  · rw [hi, Option.some.injEq] at hc₀
    subst hc₀
    exact (hf hb).keep fun hj => hg.symm ▸ hj

/-- A pointer to session `i` goes, and the session still lives where its log-in has failed. -/
theorem buried_release (h : GraveyardInv cfg s) {s₁ : SessionServer}
    (hsess : s₁.sessions = s.sessions)
    (hother : ∀ j c, j ≠ i → Buried s j c → Buried s₁ j c)
    (hi : ∀ c, s.sessions[i]? = some c → Buried s i c →
      Buried s₁ i (if s₁.held i = true then c else c.dying t)) :
    ∀ j c, (s₁.release t i).sessions[j]? = some c → Buried (s₁.release t i) j c := by
  have hc := (changeOf_release t i s₁).of_sessions hsess
  refine hc.all h.buried (fun j c hj hb => ?_) fun c hci hb => ?_
  · exact (hother j c hj hb).keep fun hj => by simpa using hj
  · exact (hi c hci hb).keep fun hj => by simpa using hj

/-- A session in the graveyard is held, and not by `m_incomplete_sessions` or its handler. -/
theorem of_failed (h : GraveyardInv cfg s) (hi : s.sessions[i]? = some c) {e : Err}
    (he : c.handler = .settled (some e) ∨ c.handler = .returned (some e)) :
    c.moved = false ∧ i ∉ s.incompleteSessions ∧ c.handler.holds = false := by
  obtain ⟨hm, hinc⟩ := (h.accounting.inv i c hi).stage.of_settled he
  refine ⟨hm, hinc, ?_⟩
  rcases he with he | he <;> rw [he] <;> rfl

/-- Thread Wa lets go of a session, which the graveyard keeps if its log-in has failed. -/
theorem buried_accept (h : GraveyardInv cfg s) (hw : s.wa = .returning i) :
    ∀ j c, ({ s with wa := .idle }.release .accept i).sessions[j]? = some c →
      Buried ({ s with wa := .idle }.release .accept i) j c := by
  refine h.buried_release rfl (fun j c _ hb => hb) fun c hi hb => ?_
  split
  · exact hb
  · rename_i hheld
    intro e he
    have he : c.handler = .settled (some e) ∨ c.handler = .returned (some e) := by
      unfold Accepted.dying at he
      split at he <;> exact he
    -- thread Wa held it, so it lives, and it is in the graveyard
    have hl : c.life = .alive := (h.accounting.inv i c hi).life.mpr
      (.inr (.inr (.inl (by simp [hw, AcceptThread.holds]))))
    rcases hb e he with hg | hd | hd
    · exact .inl hg
    · rw [hl] at hd
      cases hd
    · rw [hl] at hd
      cases hd

/-- The graveyard thread runs its next task. -/
theorem buried_graveyard (h : GraveyardInv cfg s) {rest : List Nat} (hg : s.graveyard = i :: rest)
    (hw : s.wa.holds i = false) :
    ∀ j c, ({ s with graveyard := rest }.release .graveyard i).sessions[j]? = some c →
      Buried ({ s with graveyard := rest }.release .graveyard i) j c := by
  have hnodup := h.accounting.owners.graveyardNodup
  rw [hg, List.nodup_cons] at hnodup
  refine h.buried_release rfl (fun j c hj hb => hb.keep fun hmem => ?_) fun c hi hb e he => ?_
  · rw [hg] at hmem
    exact (List.mem_cons.mp hmem).resolve_left hj
  · have hh : c.handler = .settled (some e) ∨ c.handler = .returned (some e) := by
      split at he
      · exact he
      · unfold Accepted.dying at he
        split at he <;> exact he
    obtain ⟨hm, hinc, hholds⟩ := h.of_failed hi hh
    -- the task held the last pointer
    have hheld : held { s with graveyard := rest } i = false := by
      have hiff := held_iff (s := { s with graveyard := rest }) (i := i) (c := c) hi
      rw [Bool.eq_false_iff, Ne, hiff]
      rintro (hr | hr | hr | hr)
      · exact hinc hr
      · exact hnodup.1 hr
      · rw [hw] at hr
        cases hr
      · rw [hholds] at hr
        cases hr
    have hc : c.dying .graveyard = { c with life := .dying .graveyard } := by
      simp [Accepted.dying, hm]
    rw [hheld, if_neg Bool.false_ne_true, hc]
    exact .inr (.inl rfl)

/-- **A session whose log-in has failed** goes to the graveyard thread, and is destroyed there. -/
theorem buried_step (h : GraveyardInv cfg s) {a : Act} (ha : s.buriesWell a = true)
    (hd : Stepped cfg s a s') : ∀ j c, s'.sessions[j]? = some c → Buried s' j c := by
  have same : s'.sessions = s.sessions → s'.graveyard = s.graveyard →
      ∀ j c, s'.sessions[j]? = some c → Buried s' j c := by
    intro hsess hg j c hj
    rw [hsess] at hj
    exact (h.buried j c hj).keep fun hmem => hg.symm ▸ hmem
  have late : ∀ {P : Prop}, s.dtor ≠ .notStarted → P := fun hdt => absurd h.notStarted hdt
  cases hd with
  | asyncAccept out hdt => exact same rfl rfl
  | acceptFailed e hr hacc => exact same rfl rfl
  | accepted hr hw hdt =>
    intro j c hj
    by_cases hlt : j < s.sessions.length
    · rw [List.getElem?_append_left hlt] at hj
      exact h.buried j c hj
    · rw [List.getElem?_append_right (Nat.le_of_not_lt hlt), List.getElem?_singleton] at hj
      split at hj
      · cases hj
        exact buried_of_handler fun e => ⟨(by rintro ⟨⟩), (by rintro ⟨⟩)⟩
      · cases hj
  | @startLogIn i hw =>
    have hc := changeOf_update i (fun c => { c with
      server := c.server.asyncAcceptLogIn (s.requests.getD c.request ⟨none, none, none⟩) })
      { s with wa := .returning i }
    exact hc.all h.buried (fun j c _ hb => hb) fun c _ hb => hb
  | acceptReturn hw => exact h.buried_accept hw
  | @session i a c server hi hall hstep =>
    have hlt := (List.getElem?_eq_some_iff.mp hi).1
    intro j c' hj
    by_cases hij : i = j
    · subst hij
      simp only [afterSession, List.getElem?_set_self hlt, Option.some.injEq] at hj
      subst hj
      cases (server.log.drop c.server.log.length).findSome? Event.logInCode with
      | none => exact h.buried i c hi
      | some e => exact buried_of_handler fun e => ⟨(by rintro ⟨⟩), (by rintro ⟨⟩)⟩
    · simp only [afterSession, List.getElem?_set_ne hij] at hj
      exact h.buried j c' hj
  | locks hi hh hl =>
    exact h.buried_update hi rfl rfl fun _ => buried_of_handler fun e =>
      ⟨(by rintro ⟨⟩), (by rintro ⟨⟩)⟩
  | @misses i c e hi hh hl =>
    -- only the destructor of the session server lets a session go before its log-in has ended
    have hinv := h.accounting.inv i c hi
    cases hinv.stage with
    | incomplete _ _ hi => exact absurd (hinv.life.mpr (.inl hi)) hl
    | aborted _ _ _ _ hdt => exact late (by rw [hdt]; exact (by rintro ⟨⟩))
    | erased e hh' => rw [hh] at hh'; cases hh'
    | emitted hh' => rw [hh] at hh'; rcases hh' with hh' | hh' <;> cases hh'
    | failed e hh' => rw [hh] at hh'; rcases hh' with hh' | hh' <;> cases hh'
  | erases hi hh hdt =>
    exact h.buried_update hi rfl rfl fun _ => buried_of_handler fun e =>
      ⟨(by rintro ⟨⟩), (by rintro ⟨⟩)⟩
  | @buries i c e hi hh hdt =>
    have hc := changeOf_update i (fun c => { c with handler := .settled (some e) })
      { s with graveyard := s.graveyard ++ [i] }
    refine hc.all h.buried (fun j c _ hb => hb.keep fun hj => List.mem_append_left [i] hj)
      fun c _ _ e _ => .inl ?_
    exact List.mem_append_right s.graveyard (List.mem_singleton_self i)
  | emits hi hh =>
    exact h.buried_update hi rfl rfl fun _ => buried_of_handler fun e =>
      ⟨(by rintro ⟨⟩), (by rintro ⟨⟩)⟩
  | @handles i c e hi hh =>
    refine h.buried_update hi rfl rfl fun hb e' he' => hb e' (.inl ?_)
    rcases he' with he' | he' <;> cases he'
    exact hh
  | @graveyardRun i rest hstart hdt hf hg =>
    refine h.buried_graveyard hg ?_
    simpa [buriesWell, hg] using ha
  | @sessionDestroyed i c t hi hl hcode hp =>
    refine h.buried_update hi rfl rfl fun hb e he => ?_
    have hdead : c.life ≠ .alive := by rw [hl]; exact (by rintro ⟨⟩)
    rcases hb e he with hg | hd | hd
    · exact absurd ((h.accounting.inv i c hi).life.mpr (.inr (.inl hg))) hdead
    · rw [hl, Life.dying.injEq] at hd
      rw [hd]
      exact .inr (.inr rfl)
    · rw [hl] at hd
      cases hd
  | dtorStart hdt => cases ha
  | graveyardJoined hdt => exact late (by rw [hdt]; exact (by rintro ⟨⟩))
  | graveyardTask hdt => exact late (by rw [hdt]; exact (by rintro ⟨⟩))
  | graveyardGone hdt => exact late (by rw [hdt]; exact (by rintro ⟨⟩))
  | acceptAborted hdt => exact late (by rw [hdt]; exact (by rintro ⟨⟩))
  | acceptJoined hdt => exact late (by rw [hdt]; exact (by rintro ⟨⟩))
  | sessionDropped hdt => exact late (by rw [hdt]; exact (by rintro ⟨⟩))
  | returned hdt => exact late (by rw [hdt]; exact (by rintro ⟨⟩))

/-- Where the destructor and the graveyard thread stand. -/
theorem running_step (h : GraveyardInv cfg s) {a : Act} (ha : s.buriesWell a = true)
    (hd : Stepped cfg s a s') :
    s'.dtor = .notStarted ∧ (s'.graveyardStarted = false → s'.graveyard = []) := by
  have late : ∀ {P : Prop}, s.dtor ≠ .notStarted → P := fun hdt => absurd h.notStarted hdt
  cases hd with
  | acceptReturn hw =>
    refine ⟨by simpa using h.notStarted, fun hs => ?_⟩
    simpa using h.unstarted (by simpa using hs)
  | @buries i c e hi hh hdt =>
    refine ⟨h.notStarted, fun hs => ?_⟩
    have hs : s.graveyardStarted = false := hs
    simp [buriesWell, hs, hi, hh] at ha
  | graveyardRun hstart hdt hf hg =>
    refine ⟨by simpa using h.notStarted, fun hs => ?_⟩
    rw [release_graveyardStarted] at hs
    have hs : s.graveyardStarted = false := hs
    rw [hstart] at hs
    cases hs
  | dtorStart hdt => cases ha
  | graveyardJoined hdt => exact late (by rw [hdt]; exact nofun)
  | graveyardTask hdt => exact late (by rw [hdt]; exact nofun)
  | graveyardGone hdt => exact late (by rw [hdt]; exact nofun)
  | acceptAborted hdt => exact late (by rw [hdt]; exact nofun)
  | acceptJoined hdt => exact late (by rw [hdt]; exact nofun)
  | sessionDropped hdt => exact late (by rw [hdt]; exact nofun)
  | returned hdt => exact late (by rw [hdt]; exact nofun)
  | _ => exact ⟨h.notStarted, h.unstarted⟩

/-- Each step that buries well leaves no session without an owner. -/
theorem step (h : GraveyardInv cfg s) {a : Act} (ha : s.buriesWell a = true)
    (hd : SessionServer.step cfg s a = .done s') : GraveyardInv cfg s' := by
  have hstepped := Stepped.of_step hd
  obtain ⟨hn, hu⟩ := h.running_step ha hstepped
  exact ⟨h.accounting.step (quiet_of_buriesWell h.notStarted ha) hd, hn, hu,
    h.buried_step ha hstepped⟩

end GraveyardInv

/-! ### Every run -/

/-- The session server holds on to the sessions that it should, in this state. -/
structure NoLeak (cfg : Cfg) (s : SessionServer) : Prop where
  /-- The assertions hold. -/
  sound : ∀ a e, s.buriesWell a = true → step cfg s a = .failed e → SessionServerFailure.inSession e
  /-- The handler of a log-in erases exactly one element. -/
  erasesOne : ∀ i c e, s.sessions[i]? = some c → c.handler = .locked e →
    s.incompleteSessions.count i = 1 ∧
      ∃ s', step cfg s (.logInHandler i) = .done s' ∧
        s'.incompleteSessions = s.incompleteSessions.erase i ∧ i ∉ s'.incompleteSessions
  /-- Between handlers and graveyard tasks, the sessions that the server keeps alive are those in
      `m_incomplete_sessions`. -/
  kept : (∀ c ∈ s.sessions, c.handler.inProgress = false) →
    (s.graveyardStarted = true → s.graveyard = []) →
    ∀ i c, s.sessions[i]? = some c → (c.life = .alive ∧ c.moved = false ↔ i ∈ s.incompleteSessions)
  /-- Once every log-in has completed, and the running workers have nothing left to do, each session
      is with its user, or was destroyed by the graveyard thread. -/
  drained : (∀ c ∈ s.sessions, ∃ e, c.handler = .returned e) → s.wa = .idle →
    (s.graveyardStarted = true → s.graveyard = []) → s.free .graveyard = true →
    s.incompleteSessions = [] ∧ ∀ c ∈ s.sessions,
      (c.handler = .returned none → c.moved = true) ∧
        ∀ e, c.handler = .returned (some e) → c.life = .dead .graveyard

/-- A graveyard that no thread empties has nothing in it. -/
theorem GraveyardInv.graveyard_eq_nil (h : GraveyardInv cfg s)
    (hg : s.graveyardStarted = true → s.graveyard = []) : s.graveyard = [] := by
  cases hs : s.graveyardStarted with
  | true => exact hg hs
  | false => exact h.unstarted hs

/-- The invariant says all that is claimed of the sessions. -/
theorem GraveyardInv.noLeak (h : GraveyardInv cfg s) : NoLeak cfg s where
  sound a e ha hd := h.accounting.sound (quiet_of_buriesWell h.notStarted ha) e hd
  -- The handler is inside the lambda: its session is listed once, and erasing it takes it off.
  erasesOne i c e hi hh := by
    obtain ⟨-, hmem, -, hd⟩ := (h.accounting.inv i c hi).stage.of_locked hh
    have hnodup := h.accounting.owners.incompleteNodup
    have hcount : s.incompleteSessions.count i = 1 := hnodup.count.trans (if_pos hmem)
    refine ⟨hcount, { s with incompleteSessions := s.incompleteSessions.erase i }.update i
      fun c => { c with handler := .erased e }, ?_, rfl, hnodup.not_mem_erase⟩
    show s.logInHandler i = _
    simp [logInHandler, hi, hh, hd, hcount, Outcome.check_true]
  -- With no handler at work and the graveyard run, listed is the same as alive and not handed over.
  kept hidle hg i c hi := by
    have hinv := h.accounting.inv i c hi
    have hp := hidle c (List.mem_of_getElem? hi)
    have hgrave := h.graveyard_eq_nil hg
    constructor
    · rintro ⟨hl, hm⟩
      cases hinv.stage with
      | incomplete _ _ hi => exact hi
      | aborted _ hl' => rw [hl] at hl'; cases hl'
      | erased e hh => rw [hh] at hp; cases hp
      | emitted _ hm' => rw [hm] at hm'; cases hm'
      | failed e hh =>
        rcases h.buried i c hi e hh with hmem | hd | hd
        · rw [hgrave] at hmem
          cases hmem
        · rw [hl] at hd
          cases hd
        · rw [hl] at hd
          cases hd
    · intro hmem
      refine ⟨hinv.life.mpr (.inl hmem), ?_⟩
      cases hinv.stage with
      | incomplete _ hm => exact hm
      | aborted _ _ hm => exact hm
      | erased _ _ hm => exact hm
      | emitted _ _ hi => exact absurd hmem hi
      | failed _ _ hm => exact hm
  -- Every log-in ended: nothing is listed, and each session was emitted or destroyed.
  drained hdone _ hg hfree := by
    have hgrave := h.graveyard_eq_nil hg
    refine ⟨List.eq_nil_iff_forall_not_mem.mpr fun i hmem => ?_, fun c hmem => ⟨?_, fun e he => ?_⟩⟩
    · have hlt := h.accounting.owners.lt i (.inl hmem)
      have hi := List.getElem?_eq_getElem hlt
      obtain ⟨e, he⟩ := hdone _ (List.getElem_mem hlt)
      exact ((h.accounting.inv i _ hi).stage.of_settled (.inr he)).2 hmem
    · intro he
      obtain ⟨i, hi⟩ := List.mem_iff_getElem?.mp hmem
      exact ((h.accounting.inv i c hi).stage.of_settled (.inr he)).1
    · obtain ⟨i, hi⟩ := List.mem_iff_getElem?.mp hmem
      rcases h.buried i c hi e (.inr he) with hb | hb | hb
      · rw [hgrave] at hb
        cases hb
      · have hno := List.all_eq_true.mp hfree c hmem
        rw [hb] at hno
        simp at hno
      · exact hb

/-- **In every run in which failed sessions are buried well**, the server leaks no session. -/
theorem noLeak_of_reaches {srvNamespace : SharedName} {errCodeGiven : Bool}
    (hr : Machine.Reaches (step cfg) (fun s a => s.buriesWell a = true)
      (constructed srvNamespace errCodeGiven) s) : NoLeak cfg s :=
  (hr.invariant (graveyardInv_constructed srvNamespace errCodeGiven)
    fun _ _ _ hi ha hd => hi.step ha hd).noLeak

/-- A log-in that fails, and its handler up to where the session is handed over. -/
def failedPrefix (i : Nat) : List Act :=
  waitingPrefix i ++ [.session i (.channelError (.other 1)), .session i (.run {}), .logInHandler i,
    .logInHandler i, .logInHandler i, .logInHandler i]

/-- With an `err_code`, the graveyard thread destroys the session; another is with its user. -/
theorem noLeak_of_reaches_failed : ∃ s,
    Machine.Reaches (step .sampleWithMqs) (fun s a => s.buriesWell a = true)
      (constructed ['s'] true) s ∧ NoLeak .sampleWithMqs s ∧
    (s.sessions.map fun c => (c.life, c.moved)) = [(.dead .graveyard, false), (.alive, true)] := by
  obtain ⟨s, hr, hs⟩ := Machine.Reaches.exists_of_run
    (Machine.guarded buriesWell (step .sampleWithMqs)) (constructed ['s'] true)
    (failedPrefix 0 ++ [.graveyardRun, .session 0 .dtorStart, .session 0 (.run {}),
      .session 0 .dtorStep, .session 0 .dtorFinish, .sessionDestroyed 0] ++ logInPrefix 1)
    (fun s => decide ((s.sessions.map fun c => (c.life, c.moved)) =
      [(.dead .graveyard, false), (.alive, true)])) (by decide)
  exact ⟨s, hr.of_guarded, noLeak_of_reaches hr.of_guarded, of_decide_eq_true hs⟩

/-- **Without an `err_code` the server leaks**: the graveyard thread is not started, all else has
    come to rest, and the session whose log-in failed is alive. -/
theorem not_noLeak_of_reaches : ∃ s,
    Machine.Reaches (step .sampleWithMqs) Machine.anyStep (constructed ['s'] false) s ∧
    s.graveyardStarted = false ∧ s.wa = .idle ∧
    (s.sessions.map fun c => (c.handler, c.life, c.moved)) =
      [(.returned (some (.other 1)), .alive, false)] ∧ s.incompleteSessions = [] := by
  obtain ⟨s, hr, hs⟩ := Machine.Reaches.exists_of_run (step .sampleWithMqs)
    (constructed ['s'] false)
    (failedPrefix 0)
    (fun s => decide (s.graveyardStarted = false ∧ s.wa = .idle ∧
      (s.sessions.map fun c => (c.handler, c.life, c.moved)) =
        [(.returned (some (.other 1)), .alive, false)] ∧ s.incompleteSessions = [])) (by decide)
  exact ⟨s, hr, of_decide_eq_true hs⟩

end SessionServer

end IpcSession
