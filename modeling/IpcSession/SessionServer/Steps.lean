import IpcSession.SessionServer.Model

namespace IpcSession

/-!
# The steps of a session server

* `SessionServer.Stepped` — what each step does, with what it asks for: one alternative for each
  thread at each of its points.
* `SessionServer.Stepped.of_step` — a step does one of these.
* `SessionServer.changeOf_update`, `changeOf_release` — the session that a step changes, and the
  others.
-/

/-- What becomes of a session whose last pointer goes in thread `t`. -/
def Accepted.dying (t : Thread) (c : Accepted) : Accepted :=
  if c.moved then c else { c with life := .dying t }

namespace SessionServer

variable {cfg : Cfg} {s s' : SessionServer} {i : Nat}

/-! ### Changing and letting go of a session -/

/-- Changing session `i` changes no other one. -/
theorem update_getElem? (s : SessionServer) (i j : Nat) (f : Accepted → Accepted) :
    (s.update i f).sessions[j]? = if i = j then s.sessions[j]?.map f else s.sessions[j]? := by
  simp only [update, List.getElem?_modify]
  split <;> simp

/-- Letting go of a session gives out no namespace. -/
@[simp] theorem release_lastCliNamespace (t : Thread) (i : Nat) (s : SessionServer) :
    (s.release t i).lastCliNamespace = s.lastCliNamespace := by
  unfold release
  split <;> rfl

/-- And leaves the server's own as it is. -/
@[simp] theorem release_srvNamespace (t : Thread) (i : Nat) (s : SessionServer) :
    (s.release t i).srvNamespace = s.srvNamespace := by
  unfold release
  split <;> rfl

/-- And thread Wa. -/
@[simp] theorem release_wa (t : Thread) (i : Nat) (s : SessionServer) :
    (s.release t i).wa = s.wa := by
  unfold release
  split <;> rfl

/-- A pointer is left, so the session stays. -/
theorem release_of_held {t : Thread} (h : s.held i = true) : s.release t i = s := by
  simp [release, h]

/-- Letting go of a pointer leaves alone the sessions that are held. -/
theorem release_sessions_of_held {j : Nat} (h : s.held j = true) :
    (s.release t i).sessions[j]? = s.sessions[j]? := by
  by_cases hij : i = j
  · subst hij
    rw [release_of_held h]
  · simp only [release]
    split
    · rfl
    · rw [update_getElem?, if_neg hij]

/-! ### What a step does -/

/-- What a session server leaves behind of a step of session `i`. -/
def afterSession (s : SessionServer) (i : Nat) (c : Accepted) (server : Server) : SessionServer :=
  { s with
    lastCliNamespace :=
      if (server.log.drop c.server.log.length).any Event.isCliNamespaceTaken then
        (s.lastCliNamespace + 1) % 2 ^ 64
      else s.lastCliNamespace
    sessions := s.sessions.set i { c with
      server
      handler := ((server.log.drop c.server.log.length).findSome? Event.logInCode).elim c.handler
        .entered } }

/-- What a step does. -/
inductive Stepped (cfg : Cfg) (s : SessionServer) : Act → SessionServer → Prop
  | asyncAccept (out : OutArgs) (hd : s.dtor = .notStarted) :
      Stepped cfg s (.asyncAccept out) { s with
        requests := s.requests ++ [out]
        waiting := s.waiting ++ [s.requests.length] }
  | acceptFailed {r : Nat} (e : Err) (hr : r ∈ s.waiting) (ha : s.dtor.hasAcceptor = true) :
      Stepped cfg s (.acceptFailed r e) { s with
        waiting := s.waiting.erase r
        handled := s.handled ++ [(r, some e)] }
  | accepted {r : Nat} (hr : r ∈ s.waiting) (hw : s.wa = .idle) (hd : s.dtor = .notStarted) :
      Stepped cfg s (.accepted r) { s with
        waiting := s.waiting.erase r
        incompleteSessions := s.sessions.length :: s.incompleteSessions
        wa := .starting s.sessions.length
        sessions := s.sessions ++ [.made s.srvNamespace r] }
  | startLogIn {i : Nat} (hw : s.wa = .starting i) :
      Stepped cfg s .startLogIn ({ s with wa := .returning i }.update i fun c =>
        { c with
          server := c.server.asyncAcceptLogIn (s.requests.getD c.request ⟨none, none, none⟩) })
  | acceptReturn {i : Nat} (hw : s.wa = .returning i) :
      Stepped cfg s .acceptReturn ({ s with wa := .idle }.release .accept i)
  | session {i : Nat} {a : Server.Act} {c : Accepted} {server : Server}
      (hi : s.sessions[i]? = some c)
      (ha : allows c a = true) (hs : Server.step cfg c.server (s.withHooks a) = .done server) :
      Stepped cfg s (.session i a) (s.afterSession i c server)
  /-- The handler of a log-in locks its weak pointer. -/
  | locks {i : Nat} {c : Accepted} {e : ErrorCode} (hi : s.sessions[i]? = some c)
      (hh : c.handler = .entered e) (hl : c.life = .alive) :
      Stepped cfg s (.logInHandler i) (s.update i fun c => { c with handler := .locked e })
  /-- Its session is gone. -/
  | misses {i : Nat} {c : Accepted} {e : ErrorCode} (hi : s.sessions[i]? = some c)
      (hh : c.handler = .entered e) (hl : c.life ≠ .alive)
      (he : e = some .objectShutdownAbortedCompletionHandler) :
      Stepped cfg s (.logInHandler i) (s.update i fun c => { c with handler := .settled e })
  /-- It erases the session. -/
  | erases {i : Nat} {c : Accepted} {e : ErrorCode} (hi : s.sessions[i]? = some c)
      (hh : c.handler = .locked e) (hd : s.dtor = .notStarted) :
      Stepped cfg s (.logInHandler i)
        ({ s with incompleteSessions := s.incompleteSessions.erase i }.update i fun c =>
          { c with handler := .erased e })
  /-- It hands the session over to the graveyard. -/
  | buries {i : Nat} {c : Accepted} {e : Err} (hi : s.sessions[i]? = some c)
      (hh : c.handler = .erased (some e)) (hd : s.dtor = .notStarted) :
      Stepped cfg s (.logInHandler i)
        ({ s with graveyard := s.graveyard ++ [i] }.update i fun c =>
          { c with handler := .settled (some e) })
  /-- It hands the session over to the user. -/
  | emits {i : Nat} {c : Accepted} (hi : s.sessions[i]? = some c) (hh : c.handler = .erased none) :
      Stepped cfg s (.logInHandler i)
        (s.update i fun c => { c with handler := .settled none, moved := true })
  /-- It runs the user's handler. -/
  | handles {i : Nat} {c : Accepted} {e : ErrorCode} (hi : s.sessions[i]? = some c)
      (hh : c.handler = .settled e) :
      Stepped cfg s (.logInHandler i)
        ({ s with handled := s.handled ++ [(c.request, e)] }.update i fun c =>
          { c with handler := .returned e })
  | graveyardRun {i : Nat} {rest : List Nat} (hstart : s.graveyardStarted = true)
      (hd : s.dtor = .notStarted) (hf : s.free .graveyard = true) (hg : s.graveyard = i :: rest) :
      Stepped cfg s .graveyardRun ({ s with graveyard := rest }.release .graveyard i)
  | sessionDestroyed {i : Nat} {c : Accepted} {t : Thread} (hi : s.sessions[i]? = some c)
      (hl : c.life = .dying t) (hc : c.handler.code.isSome = true)
      (hp : c.handler.inProgress = false) :
      Stepped cfg s (.sessionDestroyed i) (s.update i fun c => { c with life := .dead t })
  | dtorStart (hd : s.dtor = .notStarted) :
      Stepped cfg s .dtorStart { s with dtor := .joiningGraveyard }
  | graveyardJoined (hd : s.dtor = .joiningGraveyard) (hf : s.free .graveyard = true) :
      Stepped cfg s .dtorStep { s with dtor := .emptyingGraveyard }
  | graveyardTask {i : Nat} {rest : List Nat} (hd : s.dtor = .emptyingGraveyard)
      (hf : s.free .user = true) (hg : s.graveyard = i :: rest) :
      Stepped cfg s .dtorStep ({ s with graveyard := rest }.release .user i)
  | graveyardGone (hd : s.dtor = .emptyingGraveyard) (hg : s.graveyard = []) :
      Stepped cfg s .dtorStep { s with dtor := .joiningAccept }
  | acceptAborted {r : Nat} {rest : List Nat} (hd : s.dtor = .joiningAccept)
      (hw : s.waiting = r :: rest) :
      Stepped cfg s .dtorStep { s with
        waiting := rest
        handled := s.handled ++ [(r, some .objectShutdownAbortedCompletionHandler)] }
  | acceptJoined (hd : s.dtor = .joiningAccept) (hi : s.wa = .idle) (hf : s.free .accept = true)
      (hw : s.waiting = []) :
      Stepped cfg s .dtorStep { s with dtor := .droppingSessions }
  | sessionDropped {i : Nat} {rest : List Nat} (hd : s.dtor = .droppingSessions)
      (hf : s.free .user = true) (hg : s.incompleteSessions = i :: rest) :
      Stepped cfg s .dtorStep ({ s with incompleteSessions := rest }.release .user i)
  | returned (hd : s.dtor = .droppingSessions) (hf : s.free .user = true)
      (hg : s.incompleteSessions = []) : Stepped cfg s .dtorStep { s with dtor := .returned }

/-- The handler of a log-in goes on by one of its steps. -/
theorem Stepped.of_logInHandler {i : Nat} (hd : s.logInHandler i = .done s') :
    Stepped cfg s (.logInHandler i) s' := by
  simp only [logInHandler] at hd
  split at hd
  · cases hd
  · rename_i c hi
    split at hd
    all_goals rename_i hh
    · split at hd
      · cases hd
        exact .locks hi hh ‹_›
      · simp only [Outcome.bind_eq_done, Outcome.check_eq_done] at hd
        obtain ⟨-, he, hd⟩ := hd
        cases hd
        exact .misses hi hh ‹_› (of_decide_eq_true he)
    · simp only [Outcome.bind_eq_done, Outcome.check_eq_done] at hd
      obtain ⟨-, hd₀, -, -, hd⟩ := hd
      cases hd
      exact .erases hi hh (of_decide_eq_true hd₀)
    · simp only [Outcome.bind_eq_done, Outcome.check_eq_done] at hd
      obtain ⟨-, hd₀, hd⟩ := hd
      cases hd
      exact .buries hi hh (of_decide_eq_true hd₀)
    · cases hd
      exact .emits hi hh
    · cases hd
      exact .handles hi hh
    · cases hd

/-- So does the destructor. -/
theorem Stepped.of_dtorStep (hd : s.dtorStep = .done s') : Stepped cfg s .dtorStep s' := by
  simp only [dtorStep] at hd
  split at hd
  all_goals rename_i hdt
  · simp only [Outcome.bind_eq_done, Outcome.require_eq_done] at hd
    obtain ⟨-, hf, hd⟩ := hd
    cases hd
    exact .graveyardJoined hdt hf
  · simp only [Outcome.bind_eq_done, Outcome.require_eq_done] at hd
    obtain ⟨-, hf, hd⟩ := hd
    split at hd
    · cases hd
      exact .graveyardTask hdt hf ‹_›
    · cases hd
      exact .graveyardGone hdt ‹_›
  · simp only [Outcome.bind_eq_done, Outcome.require_eq_done, Bool.and_eq_true,
      decide_eq_true_eq] at hd
    obtain ⟨-, ⟨hi, hf⟩, hd⟩ := hd
    split at hd
    · cases hd
      exact .acceptAborted hdt ‹_›
    · cases hd
      exact .acceptJoined hdt hi hf ‹_›
  · simp only [Outcome.bind_eq_done, Outcome.require_eq_done] at hd
    obtain ⟨-, hf, hd⟩ := hd
    split at hd
    · cases hd
      exact .sessionDropped hdt hf ‹_›
    · cases hd
      exact .returned hdt hf ‹_›
  · cases hd

/-- **What a step does.** -/
theorem Stepped.of_step {a : Act} (hd : step cfg s a = .done s') : Stepped cfg s a s' := by
  cases a with
  | asyncAccept out =>
    simp only [step, Outcome.bind_eq_done, Outcome.require_eq_done] at hd
    obtain ⟨-, hn, hd⟩ := hd
    cases hd
    exact .asyncAccept out (of_decide_eq_true hn)
  | acceptFailed r e =>
    simp only [step, Outcome.bind_eq_done, Outcome.require_eq_done, Bool.and_eq_true] at hd
    obtain ⟨-, ⟨⟨ha, -⟩, -⟩, -, hr, hd⟩ := hd
    cases hd
    exact .acceptFailed e (List.contains_iff_mem.mp hr) ha
  | accepted r =>
    simp only [step, Outcome.bind_eq_done, Outcome.require_eq_done, Outcome.check_eq_done,
      Bool.and_eq_true, decide_eq_true_eq] at hd
    obtain ⟨-, ⟨⟨-, hw⟩, -⟩, -, hr, -, hn, hd⟩ := hd
    cases hd
    exact .accepted (List.contains_iff_mem.mp hr) hw hn
  | startLogIn =>
    simp only [step] at hd
    split at hd
    · cases hd
      exact .startLogIn ‹_›
    · cases hd
  | acceptReturn =>
    simp only [step] at hd
    split at hd
    · cases hd
      exact .acceptReturn ‹_›
    · cases hd
  | session i a =>
    simp only [step, sessionStep] at hd
    split at hd
    · cases hd
    · rename_i c hi
      split at hd
      · cases hd
      · rename_i ha
        split at hd
        · cases hd
        · cases hd
        · rename_i server hs
          simp only [Outcome.bind_eq_done] at hd
          obtain ⟨-, -, -, -, hd⟩ := hd
          cases hd
          -- Of the checks that follow the session's own step only their success matters here.
          exact .session hi (by simpa using ha) hs
  | logInHandler i => exact .of_logInHandler hd
  | graveyardRun =>
    simp only [step, Outcome.bind_eq_done, Outcome.require_eq_done, Bool.and_eq_true,
      decide_eq_true_eq] at hd
    obtain ⟨-, ⟨⟨hstart, hn⟩, hf⟩, hd⟩ := hd
    split at hd
    · cases hd
      -- The graveyard thread runs only between its start and its end, and only when it is free.
      exact .graveyardRun hstart hn hf ‹_›
    · cases hd
  | sessionDestroyed i =>
    simp only [step] at hd
    split at hd
    · cases hd
    · rename_i c hi
      split at hd
      · rename_i t hl
        simp only [Outcome.bind_eq_done, Outcome.require_eq_done, Bool.and_eq_true,
          Bool.not_eq_true'] at hd
        obtain ⟨-, ⟨⟨-, hc⟩, hp⟩, hd⟩ := hd
        cases hd
        exact .sessionDestroyed hi hl hc hp
      · cases hd
  | dtorStart =>
    simp only [step, Outcome.bind_eq_done, Outcome.require_eq_done] at hd
    obtain ⟨-, hn, hd⟩ := hd
    cases hd
    exact .dtorStart (of_decide_eq_true hn)
  | dtorStep => exact .of_dtorStep hd

/-! ### The session that changes, and the others -/

/-- Every session is as it was, but for session `i`, which `f` has changed. -/
structure ChangeOf (i : Nat) (f : Accepted → Accepted) (s s' : SessionServer) : Prop where
  same : ∀ j, j ≠ i → s'.sessions[j]? = s.sessions[j]?
  changed : s'.sessions[i]? = s.sessions[i]?.map f
  length : s'.sessions.length = s.sessions.length

/-- What holds of every session after such a step. -/
theorem ChangeOf.all {i : Nat} {f : Accepted → Accepted} {P P' : Nat → Accepted → Prop}
    (hc : ChangeOf i f s s') (h : ∀ j c, s.sessions[j]? = some c → P j c)
    (hother : ∀ j c, j ≠ i → P j c → P' j c)
    (hi : ∀ c, s.sessions[i]? = some c → P i c → P' i (f c)) :
    ∀ j c, s'.sessions[j]? = some c → P' j c := by
  intro j c hj
  by_cases hij : j = i
  · subst hij
    rw [hc.changed, Option.map_eq_some_iff] at hj
    obtain ⟨c₀, hc₀, rfl⟩ := hj
    exact hi c₀ hc₀ (h j c₀ hc₀)
  · rw [hc.same j hij] at hj
    exact hother j c hij (h j c hj)

/-- What else has changed does not matter. -/
theorem ChangeOf.of_sessions {i : Nat} {f : Accepted → Accepted} {s₁ : SessionServer}
    (hc : ChangeOf i f s₁ s') (hs : s₁.sessions = s.sessions) : ChangeOf i f s s' :=
  ⟨fun j hj => (hc.same j hj).trans (by rw [hs]), hc.changed.trans (by rw [hs]),
    hc.length.trans (by rw [hs])⟩

/-- No session has changed. -/
theorem changeOf_same (hs : s'.sessions = s.sessions) (i : Nat) : ChangeOf i id s s' :=
  ⟨fun j _ => by rw [hs], by simp [hs], by rw [hs]⟩

/-- A change of session `i` leaves the others alone. -/
theorem changeOf_update (i : Nat) (f : Accepted → Accepted) (s : SessionServer) :
    ChangeOf i f s (s.update i f) where
  same j hj := by rw [update_getElem?, if_neg (Ne.symm hj)]
  changed := by rw [update_getElem?, if_pos rfl]
  length := by simp [update]

/-- Letting go of session `i` can end it, and leaves the others alone. -/
theorem changeOf_release (t : Thread) (i : Nat) (s : SessionServer) :
    ChangeOf i (fun c => if s.held i = true then c else c.dying t) s (s.release t i) := by
  cases hh : s.held i with
  | true =>
    rw [release_of_held hh]
    exact ⟨fun _ _ => rfl, by simp, rfl⟩
  | false =>
    have hr : s.release t i = s.update i (Accepted.dying t) := by
      simp only [release, hh]
      rfl
    rw [hr]
    exact changeOf_update i (Accepted.dying t) s

end SessionServer

end IpcSession
