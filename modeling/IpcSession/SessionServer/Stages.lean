import IpcSession.SessionServer.Sessions

namespace IpcSession

/-!
# Where a session is

* `SessionServer.quiet` — the destructor comes at a time at which no log-in ends.
* `SessionServer.Stage` — where a session is: still incomplete, in the handler of its log-in, with
  the user, or on its way to be destroyed.
* `SessionServer.SessionInv` — a session lives as long as somebody holds it, and its handler is run
  with the code its log-in came to; every step of the session at a quiet time keeps it
  (`SessionInv.session`).
-/

/-- The handler is still to use the session server. -/
def LogInHandler.usesServer : LogInHandler → Bool
  | entered _ => true
  | locked _ => true
  | erased (some _) => true
  | _ => false

/-- The handler of the log-in has not returned. -/
def LogInHandler.isOpen : LogInHandler → Bool
  | returned _ => false
  | _ => true

/-- A handler that has not been entered is open. -/
@[simp] theorem LogInHandler.isOpen_pending : LogInHandler.pending.isOpen = true := rfl

namespace SessionServer

variable {cfg : Cfg} {s s' s₁ : SessionServer} {i : Nat} {c c' : Accepted} {t : Thread}

/-! ### Quiet times -/

/-- From the start of the destructor on, no socket is accepted, and no log-in ends or calls a hook
    of its own accord; when it starts, no handler of a log-in is still to use the session server. -/
def quiet (s : SessionServer) : Act → Bool
  | .accepted _ => s.dtor = .notStarted
  | .dtorStart => s.sessions.all fun c => !c.handler.usesServer
  | .session i a => s.dtor = .notStarted || s.sessions[i]?.all
      (·.server.logInGoesOn (s.withHooks a))
  | _ => true

/-! ### The stages of a session -/

/-- Where session `i` is. -/
inductive Stage (s : SessionServer) (i : Nat) (c : Accepted) : Prop
  /-- The log-in goes on, or its handler has not yet erased the session. -/
  | incomplete (hh : c.handler = .pending ∨
        (∃ e, c.handler = .entered e ∨ c.handler = .locked e) ∧ s.dtor = .notStarted)
      (hm : c.moved = false) (hi : i ∈ s.incompleteSessions) (hg : i ∉ s.graveyard)
  /-- The session server destroys the session before the log-in has ended. -/
  | aborted (hh : c.handler = .pending ∨
        c.handler = .entered (some .objectShutdownAbortedCompletionHandler))
      (hl : c.life = .dying .user) (hm : c.moved = false) (hi : i ∉ s.incompleteSessions)
      (hd : s.dtor = .droppingSessions)
  /-- The handler holds the session, which it has erased. -/
  | erased (e : ErrorCode) (hh : c.handler = .erased e) (hm : c.moved = false)
      (hi : i ∉ s.incompleteSessions) (hg : i ∉ s.graveyard)
      (hd : e ≠ none → s.dtor = .notStarted)
  /-- The user has the session. -/
  | emitted (hh : c.handler = .settled none ∨ c.handler = .returned none) (hm : c.moved = true)
      (hi : i ∉ s.incompleteSessions)
  /-- The log-in has failed. -/
  | failed (e : Err) (hh : c.handler = .settled (some e) ∨ c.handler = .returned (some e))
      (hm : c.moved = false) (hi : i ∉ s.incompleteSessions)

/-- What says where a session is has not changed. -/
theorem Stage.keep (h : Stage s i c) (hinc : i ∈ s'.incompleteSessions ↔ i ∈ s.incompleteSessions)
    (hgrave : i ∈ s'.graveyard → i ∈ s.graveyard)
    (hns : c.handler.usesServer = true → s.dtor = .notStarted → s'.dtor = .notStarted)
    (hdrop : c.life = .dying .user → s.dtor = .droppingSessions → s'.dtor = .droppingSessions) :
    Stage s' i c := by
  cases h with
  | incomplete hh hm hi hg =>
    refine .incomplete ?_ hm (hinc.mpr hi) (mt hgrave hg)
    rcases hh with hh | ⟨⟨e, hh⟩, hd⟩
    · exact .inl hh
    · refine .inr ⟨⟨e, hh⟩, hns ?_ hd⟩
      rcases hh with hh | hh <;> rw [hh] <;> rfl
  | aborted hh hl hm hi hd => exact .aborted hh hl hm (mt hinc.mp hi) (hdrop hl hd)
  | erased e hh hm hi hg hd =>
    refine .erased e hh hm (mt hinc.mp hi) (mt hgrave hg) fun he => ?_
    refine hns ?_ (hd he)
    cases e with
    | none => exact absurd rfl he
    | some e => rw [hh]; rfl
  | emitted hh hm hi => exact .emitted hh hm (mt hinc.mp hi)
  | failed e hh hm hi => exact .failed e hh hm (mt hinc.mp hi)

/-- A session whose handler has locked its pointer is still among the incomplete ones. -/
theorem Stage.of_locked (h : Stage s i c) {e : ErrorCode} (hh : c.handler = .locked e) :
    c.moved = false ∧ i ∈ s.incompleteSessions ∧ i ∉ s.graveyard ∧ s.dtor = .notStarted := by
  cases h with
  | incomplete hh' hm hi hg =>
    rcases hh' with hh' | ⟨-, hd⟩
    · rw [hh] at hh'
      cases hh'
    · exact ⟨hm, hi, hg, hd⟩
  | aborted hh' => rw [hh] at hh'; rcases hh' with hh' | hh' <;> cases hh'
  | erased e hh' => rw [hh] at hh'; cases hh'
  | emitted hh' => rw [hh] at hh'; rcases hh' with hh' | hh' <;> cases hh'
  | failed e hh' => rw [hh] at hh'; rcases hh' with hh' | hh' <;> cases hh'

/-- Once it has been erased it is in neither place. -/
theorem Stage.of_erased (h : Stage s i c) {e : ErrorCode} (hh : c.handler = .erased e) :
    c.moved = false ∧ i ∉ s.incompleteSessions ∧ i ∉ s.graveyard ∧
      (e ≠ none → s.dtor = .notStarted) := by
  cases h with
  | incomplete hh' =>
    rw [hh] at hh'
    rcases hh' with hh' | ⟨⟨e', hh' | hh'⟩, -⟩ <;> cases hh'
  | aborted hh' => rw [hh] at hh'; rcases hh' with hh' | hh' <;> cases hh'
  | erased e' hh' hm hi hg hd =>
    rw [hh] at hh'
    cases hh'
    exact ⟨hm, hi, hg, hd⟩
  | emitted hh' => rw [hh] at hh'; rcases hh' with hh' | hh' <;> cases hh'
  | failed e hh' => rw [hh] at hh'; rcases hh' with hh' | hh' <;> cases hh'

/-- A session whose log-in has ended is with the user, or on its way to be destroyed. -/
theorem Stage.of_settled (h : Stage s i c) {e : ErrorCode}
    (hh : c.handler = .settled e ∨ c.handler = .returned e) :
    c.moved = e.isNone ∧ i ∉ s.incompleteSessions := by
  cases h with
  | incomplete hh' =>
    rcases hh with hh | hh <;> rw [hh] at hh' <;>
      rcases hh' with hh' | ⟨⟨e', hh' | hh'⟩, -⟩ <;> cases hh'
  | aborted hh' =>
    rcases hh with hh | hh <;> rw [hh] at hh' <;> rcases hh' with hh' | hh' <;> cases hh'
  | erased e hh' => rcases hh with hh | hh <;> rw [hh] at hh' <;> cases hh'
  | emitted hh' hm hi =>
    refine ⟨?_, hi⟩
    rcases hh with hh | hh <;> rw [hh] at hh' <;> rcases hh' with hh' | hh' <;> cases hh' <;>
      exact hm
  | failed e hh' hm hi =>
    refine ⟨?_, hi⟩
    rcases hh with hh | hh <;> rw [hh] at hh' <;> rcases hh' with hh' | hh' <;> cases hh' <;>
      exact hm

/-! ### What is known of a session -/

/-- What is known of one session. -/
structure SessionInv (s : SessionServer) (i : Nat) (c : Accepted) : Prop where
  stage : Stage s i c
  /-- The session lives as long as somebody holds it. -/
  life : c.life = .alive ↔ i ∈ s.incompleteSessions ∨ i ∈ s.graveyard ∨ s.wa.holds i = true ∨
    c.handler.holds = true ∨ c.moved = true
  /-- The handler is run with the code that the log-in came to. -/
  code : c.handler.code = c.server.log.findSome? Event.logInCode
  dormant : Server.Dormant c.server
  /-- The destructor of the session has started only if nobody holds it, or the user has it. -/
  dtor : c.server.dtor ≠ .notStarted → c.life ≠ .alive ∨ c.moved = true

/-- Who holds a session: the two sets, thread Wa, and the handler of its log-in. -/
theorem held_iff (hi : s.sessions[i]? = some c) : s.held i = true ↔
    i ∈ s.incompleteSessions ∨ i ∈ s.graveyard ∨ s.wa.holds i = true ∨ c.handler.holds = true := by
  simp [held, hi, or_assoc]

/-- Letting go of a session leaves the incomplete ones as they are. -/
@[simp] theorem release_incompleteSessions (t : Thread) (i : Nat) (s : SessionServer) :
    (s.release t i).incompleteSessions = s.incompleteSessions := by
  unfold release
  split <;> rfl

/-- And the graveyard. -/
@[simp] theorem release_graveyard (t : Thread) (i : Nat) (s : SessionServer) :
    (s.release t i).graveyard = s.graveyard := by
  unfold release
  split <;> rfl

/-- And the destructor. -/
@[simp] theorem release_dtor (t : Thread) (i : Nat) (s : SessionServer) :
    (s.release t i).dtor = s.dtor := by
  unfold release
  split <;> rfl

/-- And the calls of `async_accept()`. -/
@[simp] theorem release_requests (t : Thread) (i : Nat) (s : SessionServer) :
    (s.release t i).requests = s.requests := by
  unfold release
  split <;> rfl

/-- And those of them that wait. -/
@[simp] theorem release_waiting (t : Thread) (i : Nat) (s : SessionServer) :
    (s.release t i).waiting = s.waiting := by
  unfold release
  split <;> rfl

/-- And those that have been handled. -/
@[simp] theorem release_handled (t : Thread) (i : Nat) (s : SessionServer) :
    (s.release t i).handled = s.handled := by
  unfold release
  split <;> rfl

namespace SessionInv

/-- A step that does not concern the session. -/
theorem keep (h : SessionInv s i c) (hinc : i ∈ s'.incompleteSessions ↔ i ∈ s.incompleteSessions)
    (hgrave : i ∈ s'.graveyard ↔ i ∈ s.graveyard) (hwa : s'.wa.holds i = s.wa.holds i)
    (hns : c.handler.usesServer = true → s.dtor = .notStarted → s'.dtor = .notStarted)
    (hdrop : c.life = .dying .user → s.dtor = .droppingSessions → s'.dtor = .droppingSessions) :
    SessionInv s' i c where
  stage := h.stage.keep hinc hgrave.mp hns hdrop
  life := by rw [hinc, hgrave, hwa]; exact h.life
  code := h.code
  dormant := h.dormant
  dtor := h.dtor

/-- A step that does not concern the session, with the destructor where it was. -/
theorem frame (h : SessionInv s i c) (hinc : i ∈ s'.incompleteSessions ↔ i ∈ s.incompleteSessions)
    (hgrave : i ∈ s'.graveyard ↔ i ∈ s.graveyard) (hwa : s'.wa.holds i = s.wa.holds i)
    (hd : s'.dtor = s.dtor) : SessionInv s' i c :=
  h.keep hinc hgrave hwa (fun _ h => hd.trans h) (fun _ h => hd.trans h)

/-- The handler of the log-in moves on, and holds the session or not as it did. -/
theorem handler (h : SessionInv s i c) {k : LogInHandler}
    (hstage : Stage s i { c with handler := k })
    (hcode : k.code = c.handler.code) (hl : c.life = .alive ↔ i ∈ s.incompleteSessions ∨
      i ∈ s.graveyard ∨ s.wa.holds i = true ∨ k.holds = true ∨ c.moved = true) :
    SessionInv s i { c with handler := k } where
  stage := hstage
  life := hl
  code := hcode.trans h.code
  dormant := h.dormant
  dtor := h.dtor

/-- A pointer to the session has gone in thread `t`. -/
theorem released (h : SessionInv s i c) (hi : s₁.sessions[i]? = some c) (hl : c.life = .alive)
    (hstage : Stage (s₁.release t i) i (if s₁.held i = true then c else c.dying t)) :
    SessionInv (s₁.release t i) i (if s₁.held i = true then c else c.dying t) := by
  have hheld := held_iff hi
  cases hb : s₁.held i with
  | true =>
    simp only [hb, if_true] at hstage ⊢
    refine ⟨hstage, ⟨fun _ => ?_, fun _ => hl⟩, h.code, h.dormant, h.dtor⟩
    simp only [release_incompleteSessions, release_graveyard, release_wa]
    have hholder := hheld.mp hb
    tauto
  | false =>
    simp only [hb, Bool.false_eq_true, if_false] at hstage ⊢
    have hnone := mt hheld.mpr (by rw [hb]; exact Bool.false_ne_true)
    cases hm : c.moved with
    | true =>
      have hc : c.dying t = c := by simp [Accepted.dying, hm]
      rw [hc] at hstage ⊢
      exact ⟨hstage, by simp [hl, hm], h.code, h.dormant, h.dtor⟩
    | false =>
      have hc : c.dying t = { c with life := .dying t } := by simp [Accepted.dying, hm]
      rw [hc] at hstage ⊢
      refine ⟨hstage, ⟨nofun, fun hholder => ?_⟩, h.code, h.dormant, fun _ => .inl nofun⟩
      simp only [release_incompleteSessions, release_graveyard, release_wa, hm] at hholder
      refine absurd ?_ hnone
      tauto

end SessionInv

/-! ### A step of the session -/

/-- A handler has no code only before it is entered. -/
theorem LogInHandler_code_eq_none {k : LogInHandler} : k.code = none ↔ k = .pending := by
  cases k <;> simp [LogInHandler.code]

/-- The code of the log-in is in the record if the log-in is done. -/
theorem findSome_logInCode_eq_none {es : List Event} :
    es.findSome? Event.logInCode = none ↔ es.filter Event.isLogInDone = [] := by
  rw [List.findSome?_eq_none_iff, List.filter_eq_nil_iff]
  refine forall₂_congr fun e _ => ?_
  cases e <;> simp [Event.logInCode, Event.isLogInDone]

/-- A log-in that ends was pending. -/
theorem pending_of_logInCode {server server' : Server} {es : List Event} {e : ErrorCode}
    (h : Server.LogInOnce server') (hlog : server'.log = server.log ++ es)
    (hnew : es.findSome? Event.logInCode = some e) :
    server.log.findSome? Event.logInCode = none := by
  have hdone := h.done
  rw [hlog, List.filter_append, List.length_append] at hdone
  have hne : es.filter Event.isLogInDone ≠ [] := by
    rw [Ne, ← findSome_logInCode_eq_none, hnew]
    exact nofun
  have hpos := List.length_pos_of_ne_nil hne
  have hle : (if server'.dtor = .returned then 1 else (!server'.logInOnDoneFuncSet).toNat) ≤ 1 := by
    split
    · exact Nat.le_refl 1
    · exact Bool.toNat_le _
  rw [findSome_logInCode_eq_none]
  apply List.eq_nil_of_length_eq_zero
  omega

/-- **After the start of the destructor a log-in ends** only with the destructor of its session. -/
theorem aborted_of_logInCode {server server' : Server} {a : Server.Act} {es : List Event}
    {e : ErrorCode}
    (h : Server.Running cfg server) (hg : server.logInGoesOn a = true)
    (hd : Server.step cfg server a = .done server') (hlog : server'.log = server.log ++ es)
    (hnew : es.findSome? Event.logInCode = some e) :
    server.dtor = .stopped ∧ e = some .objectShutdownAbortedCompletionHandler := by
  have hpend := pending_of_logInCode (h.step hd).logIn.once hlog hnew
  have hdone := h.logIn.once.done
  rw [findSome_logInCode_eq_none.mp hpend, List.length_nil] at hdone
  have hr : server.dtor ≠ .returned := by
    intro hr
    rw [if_pos hr] at hdone
    cases hdone
  rw [if_neg hr] at hdone
  -- No code has been given so far, so the log-in's function is still there.
  have hset : server.logInOnDoneFuncSet = true := by
    cases hs : server.logInOnDoneFuncSet with
    | true => rfl
    | false => rw [hs] at hdone; cases hdone
  by_cases ha : a = .dtorFinish
  · subst ha
    simp only [Server.step, Server.dtorFinish, Outcome.bind_eq_done, Outcome.require_eq_done] at hd
    obtain ⟨-, hdt, hd⟩ := hd
    rw [if_pos (by exact hset)] at hd
    cases hd
    have hes : es = [.logInDone (some .objectShutdownAbortedCompletionHandler) .destructor
        server.out] := List.append_cancel_left hlog.symm
    rw [hes] at hnew
    exact ⟨of_decide_eq_true hdt, (Option.some.inj hnew).symm⟩
  · -- the log-in is still pending after the step, so its code is not there
    have hset' := Server.pending_of_goesOn h.logIn hset hg ha hd
    have hr' : server'.dtor ≠ .returned :=
      mt (Server.returned_of_step h.logIn.err.phases h.named hd ha) hr
    have hdone' := (h.step hd).logIn.once.done
    rw [if_neg hr', hset', hlog, List.filter_append, findSome_logInCode_eq_none.mp hpend,
      List.nil_append, Bool.not_true, Bool.toNat_false] at hdone'
    rw [findSome_logInCode_eq_none.mpr (List.eq_nil_of_length_eq_zero hdone')] at hnew
    cases hnew

/-- The hooks of the server do not matter to the start of a destructor. -/
theorem withHooks_eq_dtorStart {a : Server.Act} : s.withHooks a = .dtorStart ↔ a = .dtorStart := by
  cases a <;> simp [withHooks]

/-- A step of the session leaves what is known of it. -/
theorem SessionInv.session {a : Server.Act} {server : Server} (h : SessionInv s i c)
    (hrun : Server.Running cfg c.server) (hi : s.sessions[i]? = some c) (ha : allows c a = true)
    (hq : s.quiet (.session i a) = true)
    (hs : Server.step cfg c.server (s.withHooks a) = .done server) :
    SessionInv (s.afterSession i c server) i { c with
      server
      handler := ((server.log.drop c.server.log.length).findSome? Event.logInCode).elim c.handler
        .entered } := by
  obtain ⟨es, hlog⟩ := hrun.log hs
  -- What the session's step adds to its log tells whether its log-in ended.
  have hdrop : server.log.drop c.server.log.length = es := by rw [← hlog, List.drop_left]
  obtain ⟨hdorm, hstart⟩ := h.dormant.step hrun.logIn.err.phases hrun.named hs
  -- A session's destructor starts only if it is dead to the server or was moved to the user.
  have hdtor : server.dtor ≠ .notStarted → c.life ≠ .alive ∨ c.moved = true := by
    intro hdt
    rcases hstart with hstart | hsame
    · rw [withHooks_eq_dtorStart] at hstart
      subst hstart
      by_cases hl : c.life = .alive
      · simp [allows, hl] at ha
        exact .inr ha.2
      · exact .inl hl
    · exact h.dtor (mt hsame.mpr hdt)
  rw [hdrop]
  -- No code: the handler stays where it is. A code: it enters the server's lambda.
  cases hnew : es.findSome? Event.logInCode with
  | none =>
    refine ⟨?_, h.life, ?_, hdorm, hdtor⟩
    · cases h.stage with
      | incomplete hh hm hi hg => exact .incomplete hh hm hi hg
      | aborted hh hl hm hi hd => exact .aborted hh hl hm hi hd
      | erased e hh hm hi hg hd => exact .erased e hh hm hi hg hd
      | emitted hh hm hi => exact .emitted hh hm hi
      | failed e hh hm hi => exact .failed e hh hm hi
    · show c.handler.code = server.log.findSome? Event.logInCode
      rw [← hlog, List.findSome?_append, hnew, Option.or_none]
      exact h.code
  | some e =>
    have hpend := pending_of_logInCode (hrun.step hs).logIn.once hlog.symm hnew
    have hp : c.handler = .pending := LogInHandler_code_eq_none.mp (h.code.trans hpend)
    -- While the server is being destroyed, only the abort code can come.
    have hgoes : s.dtor ≠ .notStarted → c.server.dtor = .stopped ∧
        e = some .objectShutdownAbortedCompletionHandler := by
      intro hd
      refine aborted_of_logInCode hrun ?_ hs hlog.symm hnew
      simpa [quiet, hd, hi] using hq
    have hlife := h.life
    rw [hp] at hlife
    refine ⟨?_, hlife, ?_, hdorm, hdtor⟩
    · cases h.stage with
      | incomplete hh hm hi hg =>
        by_cases hd : s.dtor = .notStarted
        · exact .incomplete (.inr ⟨⟨e, .inl rfl⟩, hd⟩) hm hi hg
        · -- the session lives, so its destructor has not come to its end
          have hstop := (hgoes hd).1
          rcases h.dtor (by rw [hstop]; exact (by rintro ⟨⟩)) with hl | hmoved
          · exact absurd (h.life.mpr (.inl hi)) hl
          · rw [hm] at hmoved
            cases hmoved
      | aborted hh hl hm hi hd =>
        obtain ⟨-, rfl⟩ := hgoes (by rw [hd]; exact (by rintro ⟨⟩))
        exact .aborted (.inr rfl) hl hm hi hd
      | erased e hh hm hi hg hd => rw [hp] at hh; cases hh
      | emitted hh hm hi => rw [hp] at hh; rcases hh with hh | hh <;> cases hh
      | failed e hh hm hi => rw [hp] at hh; rcases hh with hh | hh <;> cases hh
    · show some e = server.log.findSome? Event.logInCode
      rw [← hlog, List.findSome?_append, hpend, hnew]
      rfl

/-- A handler that is run is open before and after. -/
theorem SessionInv.isOpen_session {a : Server.Act} {server : Server} (h : SessionInv s i c)
    (hrun : Server.Running cfg c.server)
    (hs : Server.step cfg c.server (s.withHooks a) = .done server) :
    LogInHandler.isOpen (((server.log.drop c.server.log.length).findSome? Event.logInCode).elim
      c.handler .entered) = c.handler.isOpen := by
  obtain ⟨es, hlog⟩ := hrun.log hs
  rw [← hlog, List.drop_left]
  cases hnew : es.findSome? Event.logInCode with
  | none => rfl
  | some e =>
    have hpend := pending_of_logInCode (hrun.step hs).logIn.once hlog.symm hnew
    rw [LogInHandler_code_eq_none.mp (h.code.trans hpend)]
    rfl

end SessionServer

end IpcSession
