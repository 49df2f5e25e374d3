import IpcSession.Server.OutArgs
import IpcSession.SessionServer.Stages

namespace IpcSession

/-!
# The out-arguments of `async_accept()`

* `SessionServer.Requests` — each call of `async_accept()` waits for a socket, or is with one
  session, or its handler was run.
* `SessionServer.SessionOut` — the out-arguments of the call that a session is for.
* `SessionServer.clears` — no log-in succeeds without init-channels over containers that have some.
* `SessionServer.setsOutArgs_of_clears` — in every run whose steps are so, a call that succeeds has
  set its out-arguments completely, and one that fails has left them alone.
* `SessionServer.not_setsOutArgs` — without init-channels a container keeps what it had.
-/

namespace SessionServer

variable {cfg : Cfg} {s s' s₁ : SessionServer} {i : Nat} {c c' : Accepted}

/-- The out-arguments as they were before call `q` of `async_accept()`. -/
def before (s : SessionServer) (q : Nat) : OutArgs := s.requests.getD q ⟨none, none, none⟩

/-! ### The calls -/

/-- Where the calls of `async_accept()` are. -/
structure Requests (s : SessionServer) : Prop where
  nodup : s.waiting.Nodup
  waiting : ∀ q, q ∈ s.waiting → q < s.requests.length
  sessions : ∀ (i : Nat) (c : Accepted), s.sessions[i]? = some c →
    c.request < s.requests.length ∧ c.request ∉ s.waiting
  once : ∀ (i j : Nat) (c c' : Accepted), s.sessions[i]? = some c → s.sessions[j]? = some c' →
    c.request = c'.request → i = j
  handled : ∀ q e, (q, e) ∈ s.handled → q < s.requests.length ∧ q ∉ s.waiting ∧
    ∀ (i : Nat) (c : Accepted), s.sessions[i]? = some c → c.request = q → c.handler = .returned e
  emitted : ∀ q, (q, none) ∈ s.handled →
    ∃ (i : Nat) (c : Accepted), s.sessions[i]? = some c ∧ c.request = q

/-- Nothing has been asked for. -/
theorem requests_constructed (srvNamespace : SharedName) (errCodeGiven : Bool) :
    Requests (constructed srvNamespace errCodeGiven) where
  nodup := List.nodup_nil
  waiting := fun q hq => by cases hq
  sessions := fun i c h => by cases h
  once := fun i j c c' h => by cases h
  handled := fun q e h => by cases h
  emitted := fun q h => by cases h

namespace Requests

/-- A session changes, and stays with its call; a handler that has returned has returned. -/
theorem change {f : Accepted → Accepted} (h : Requests s) (hc : ChangeOf i f s s')
    (hf : ∀ c, s.sessions[i]? = some c →
      (f c).request = c.request ∧ ∀ e, c.handler = .returned e → (f c).handler = .returned e)
    (hr : s'.requests = s.requests) (hw : s'.waiting = s.waiting) (hh : s'.handled = s.handled) :
    Requests s' := by
  -- the session that each one comes from
  have hfrom : ∀ (j : Nat) (c' : Accepted), s'.sessions[j]? = some c' → ∃ c,
      s.sessions[j]? = some c ∧
      c'.request = c.request ∧ ∀ e, c.handler = .returned e → c'.handler = .returned e := by
    refine hc.all (P := fun j c => s.sessions[j]? = some c) (fun _ _ hj => hj)
      (fun j c _ hj => ⟨c, hj, rfl, fun _ he => he⟩) fun c hi _ => ?_
    exact ⟨c, hi, hf c hi⟩
  refine ⟨?_, ?_, fun j c' hj => ?_, fun j k c' d' hj hk hjk => ?_, fun q e hq => ?_,
    fun q hq => ?_⟩
  · rw [hw]
    exact h.nodup
  · rw [hw, hr]
    exact h.waiting
  · obtain ⟨c, hj, hreq, -⟩ := hfrom j c' hj
    rw [hr, hw, hreq]
    exact h.sessions j c hj
  · obtain ⟨c, hj, hreq, -⟩ := hfrom j c' hj
    obtain ⟨d, hk, hreq', -⟩ := hfrom k d' hk
    exact h.once j k c d hj hk (by rw [← hreq, ← hreq', hjk])
  · rw [hh] at hq
    obtain ⟨hlt, hnot, hret⟩ := h.handled q e hq
    rw [hr, hw]
    refine ⟨hlt, hnot, fun j c' hj hreq' => ?_⟩
    obtain ⟨c, hj, hreq, hhand⟩ := hfrom j c' hj
    exact hhand e (hret j c hj (hreq ▸ hreq'))
  · rw [hh] at hq
    obtain ⟨j, c, hj, hreq⟩ := h.emitted q hq
    by_cases hij : j = i
    · subst hij
      exact ⟨j, f c, by rw [hc.changed, hj]; rfl, (hf c hj).1.trans hreq⟩
    · exact ⟨j, c, by rw [hc.same j hij, hj], hreq⟩

/-- Nothing of it changes. -/
theorem same (h : Requests s) (hs : s'.sessions = s.sessions) (hr : s'.requests = s.requests)
    (hw : s'.waiting = s.waiting) (hh : s'.handled = s.handled) : Requests s' :=
  h.change (changeOf_same hs 0) (fun _ _ => ⟨rfl, fun _ he => he⟩) hr hw hh

/-- A call is made. -/
theorem asyncAccept (h : Requests s) (out : OutArgs) : Requests { s with
    requests := s.requests ++ [out]
    waiting := s.waiting ++ [s.requests.length] } := by
  have hnew : s.requests.length ∉ s.waiting := fun hm => Nat.lt_irrefl _ (h.waiting _ hm)
  have hlt : ∀ {q : Nat}, q < s.requests.length → q < (s.requests ++ [out]).length := by
    intro q hq
    rw [List.length_append]
    exact Nat.lt_add_right _ hq
  have hnot : ∀ {q : Nat}, q < s.requests.length → q ∉ s.waiting →
      q ∉ s.waiting ++ [s.requests.length] := by
    intro q hq hno hm
    rcases List.mem_append.mp hm with hm | hm
    · exact hno hm
    · rw [List.mem_singleton.mp hm] at hq
      exact Nat.lt_irrefl _ hq
  refine ⟨?_, fun q hq => ?_, fun j c hj => ?_, h.once, fun q e hq => ?_, h.emitted⟩
  · exact List.nodup_append.mpr ⟨h.nodup, by simp, fun a ha b hb => by
      rw [List.mem_singleton.mp hb]
      exact fun hab => hnew (hab ▸ ha)⟩
  · rcases List.mem_append.mp hq with hq | hq
    · exact hlt (h.waiting q hq)
    · rw [List.mem_singleton.mp hq]
      simp
  · obtain ⟨hq, hno⟩ := h.sessions j c hj
    exact ⟨hlt hq, hnot hq hno⟩
  · obtain ⟨hq, hno, hret⟩ := h.handled q e hq
    exact ⟨hlt hq, hnot hq hno, hret⟩

/-- The handler of a call is run with an error before there is a session. -/
theorem aborts (h : Requests s) {q : Nat} {e : Err} {waiting : List Nat}
    (hw : ∀ r, r ∈ waiting → r ∈ s.waiting) (hnodup : waiting.Nodup) (hq : q ∈ s.waiting)
    (hno : q ∉ waiting) : Requests { s with
      waiting
      handled := s.handled ++ [(q, some e)] } := by
  refine ⟨hnodup, fun r hr => h.waiting r (hw r hr), fun j c hj => ?_, h.once, fun r e' hr => ?_,
    fun r hr => ?_⟩
  · obtain ⟨hlt, hnot⟩ := h.sessions j c hj
    exact ⟨hlt, fun hm => hnot (hw _ hm)⟩
  · rcases List.mem_append.mp hr with hr | hr
    · obtain ⟨hlt, hnot, hret⟩ := h.handled r e' hr
      exact ⟨hlt, fun hm => hnot (hw _ hm), hret⟩
    · cases List.mem_singleton.mp hr
      refine ⟨h.waiting q hq, hno, fun j c hj hreq => ?_⟩
      exact absurd (hreq ▸ hq) (h.sessions j c hj).2
  · rcases List.mem_append.mp hr with hr | hr
    · exact h.emitted r hr
    · cases List.mem_singleton.mp hr

/-- A session is made for a call. -/
theorem accepted (h : Requests s) {q : Nat} (hq : q ∈ s.waiting) (hs : s'.sessions =
      s.sessions ++ [.made s.srvNamespace q]) (hr : s'.requests = s.requests)
    (hw : s'.waiting = s.waiting.erase q) (hh : s'.handled = s.handled) : Requests s' := by
  -- A session of the list is an old one or the new one, which got the request.
  have hfrom : ∀ (j : Nat) (c : Accepted), s'.sessions[j]? = some c → s.sessions[j]? = some c ∨
      j = s.sessions.length ∧ c.request = q := by
    intro j c hj
    rw [hs] at hj
    by_cases hlt : j < s.sessions.length
    · rw [List.getElem?_append_left hlt] at hj
      exact .inl hj
    · rw [List.getElem?_append_right (Nat.le_of_not_lt hlt), List.getElem?_singleton] at hj
      split at hj
      · cases hj
        exact .inr ⟨by omega, rfl⟩
      · cases hj
  -- No session had the request while it was waiting.
  have hother : ∀ {j : Nat} {c : Accepted}, s.sessions[j]? = some c → c.request ≠ q :=
    fun hj hreq => (h.sessions _ _ hj).2 (hreq ▸ hq)
  refine ⟨?_, fun r hm => ?_, fun j c hj => ?_, fun j k c d hj hk hjk => ?_, fun r e hm => ?_,
    fun r hm => ?_⟩
  · rw [hw]
    exact h.nodup.erase q
  · rw [hr]
    rw [hw] at hm
    exact h.waiting r (List.mem_of_mem_erase hm)
  · rw [hr, hw]
    rcases hfrom j c hj with hj | ⟨-, rfl⟩
    · obtain ⟨hlt, hnot⟩ := h.sessions j c hj
      exact ⟨hlt, fun hm => hnot (List.mem_of_mem_erase hm)⟩
    · exact ⟨h.waiting _ hq, fun hm => (h.nodup.mem_erase_iff.mp hm).1 rfl⟩
  · rcases hfrom j c hj with hj | ⟨rfl, hcq⟩
    · rcases hfrom k d hk with hk | ⟨rfl, hdq⟩
      · exact h.once j k c d hj hk hjk
      · exact absurd (hjk.trans hdq) (hother hj)
    · rcases hfrom k d hk with hk | ⟨rfl, hdq⟩
      · exact absurd (hjk.symm.trans hcq) (hother hk)
      · rfl
  · rw [hh] at hm
    obtain ⟨hlt, hnot, hret⟩ := h.handled r e hm
    rw [hr, hw]
    refine ⟨hlt, fun hmem => hnot (List.mem_of_mem_erase hmem), fun j c hj hreq => ?_⟩
    rcases hfrom j c hj with hj | ⟨-, rfl⟩
    · exact hret j c hj hreq
    · exact absurd (hreq ▸ hq) hnot
  · rw [hh] at hm
    obtain ⟨j, c, hj, hreq⟩ := h.emitted r hm
    refine ⟨j, c, ?_, hreq⟩
    rw [hs, List.getElem?_append_left (List.getElem?_eq_some_iff.mp hj).1]
    exact hj

/-- The handler of a session's log-in runs that of its call. -/
theorem handles (h : Requests s) {e : ErrorCode} (hi : s.sessions[i]? = some c)
    (hh : c.handler = .settled e) :
    Requests ({ s with handled := s.handled ++ [(c.request, e)] }.update i fun c =>
      { c with handler := .returned e }) := by
  have hc := (changeOf_update i (fun c => { c with handler := .returned e })
    { s with handled := s.handled ++ [(c.request, e)] }).of_sessions (s := s) rfl
  have hopen : ∀ e', c.handler ≠ .returned e' := fun e' he => by rw [hh] at he; cases he
  have hf : ∀ d, s.sessions[i]? = some d → d = c := by
    intro d hd
    rw [hi] at hd
    exact (Option.some.inj hd).symm
  -- the sessions, with the calls handled so far
  have h₁ : Requests (s.update i fun c => { c with handler := .returned e }) := by
    refine h.change (changeOf_update i _ s) (fun d hd => ⟨rfl, fun e' he' => ?_⟩) rfl rfl rfl
    rw [hf d hd] at he'
    exact absurd he' (hopen e')
  refine ⟨h₁.nodup, h₁.waiting, h₁.sessions, h₁.once, fun q e' hq => ?_, fun q hq => ?_⟩
  · rcases List.mem_append.mp hq with hq | hq
    · exact h₁.handled q e' hq
    · cases List.mem_singleton.mp hq
      refine ⟨(h.sessions i c hi).1, (h.sessions i c hi).2, fun j d hj hreq => ?_⟩
      have hself : (s.update i fun c => { c with handler := .returned e }).sessions[i]? =
          some { c with handler := .returned e } := by
        rw [update_getElem?, if_pos rfl, hi]
        rfl
      obtain rfl := h₁.once j i d _ hj hself hreq
      have hd := hself.symm.trans hj
      cases Option.some.inj hd
      rfl
  · rcases List.mem_append.mp hq with hq | hq
    · exact h₁.emitted q hq
    · cases List.mem_singleton.mp hq
      exact ⟨i, { c with handler := .returned none }, by rw [hc.changed, hi]; rfl, rfl⟩

end Requests

/-! ### The out-arguments -/

/-- What is known of a session: the out-arguments of its call, how its log-in ended, and whether the
    user has it.  Before the log-in is started nothing is known, and nothing was asked. -/
structure SessionOut (cfg : Cfg) (s : SessionServer) (asked : Option (LogInReq × Nat)) (i : Nat)
    (c : Accepted) : Prop where
  out : s.wa ≠ .starting i → Server.OutInv cfg (s.before c.request) asked c.server
  unasked : s.wa = .starting i → asked = none
  code : c.handler.code = c.server.log.findSome? Event.logInCode
  moved : c.moved = true ↔ c.handler = .settled none ∨ c.handler = .returned none

namespace SessionOut

variable {asked : Option (LogInReq × Nat)}

/-- The handler of the log-in moves on, or the session is destroyed. -/
theorem handler (h : SessionOut cfg s asked i c) {k : LogInHandler} {m : Bool} (l : Life)
    (hw : s'.wa = .starting i ↔ s.wa = .starting i) (hb : s'.before c.request = s.before c.request)
    (hk : k.code = c.handler.code) (hm : m = true ↔ k = .settled none ∨ k = .returned none) :
    SessionOut cfg s' asked i { c with handler := k, life := l, moved := m } where
  out := fun hne => by
    rw [hb]
    exact h.out (mt hw.mpr hne)
  unasked := fun he => h.unasked (hw.mp he)
  code := hk.trans h.code
  moved := hm

/-- The session is not concerned. -/
theorem same (h : SessionOut cfg s asked i c) (l : Life)
    (hw : s'.wa = .starting i ↔ s.wa = .starting i)
    (hb : s'.before c.request = s.before c.request) :
    SessionOut cfg s' asked i { c with life := l } :=
  h.handler l hw hb rfl h.moved

/-- The session is the server's own until its log-in has been emitted. -/
theorem notMoved (h : SessionOut cfg s asked i c) (hh : c.handler ≠ .settled none)
    (hr : c.handler ≠ .returned none) : c.moved = false := by
  rw [← Bool.not_eq_true, h.moved]
  rintro (hs | hs)
  · exact hh hs
  · exact hr hs

/-- The session takes a step. -/
theorem step (h : SessionOut cfg s asked i c) {a : Server.Act} {server : Server}
    (hne : s.wa ≠ .starting i) (hk : c.server.clears cfg (s.withHooks a))
    (hd : Server.step cfg c.server (s.withHooks a) = .done server) :
    SessionOut cfg (s.afterSession i c server) ((c.server.logInReqTaken (s.withHooks a)).or asked) i
      { c with
        server
        handler := ((server.log.drop c.server.log.length).findSome? Event.logInCode).elim c.handler
          .entered } := by
  -- The session's own invariant applies, since it is not at its start any more.
  have hinv := h.out hne
  have hp := hinv.access.logIn.err.phases
  have hout := hinv.step hk hd
  obtain ⟨es, hlog⟩ := (Server.step_log hp hinv.access.named hd).1
  rw [← hlog, List.drop_left]
  refine ⟨fun _ => hout, fun hw => absurd hw hne, ?_, ?_⟩
  · show _ = server.log.findSome? Event.logInCode
    rw [← hlog, List.findSome?_append]
    -- The step ends the log-in or it does not; what was logged before decides nothing new.
    cases hnew : es.findSome? Event.logInCode with
    | none =>
      rw [Option.or_none]
      exact h.code
    | some e =>
      have hpend := pending_of_logInCode hout.access.logIn.once hlog.symm hnew
      rw [hpend]
      rfl
  · cases hnew : es.findSome? Event.logInCode with
    | none => exact h.moved
    | some e =>
      -- the log-in ends, so its handler has not been run
      have hpend := pending_of_logInCode hout.access.logIn.once hlog.symm hnew
      have hcode : c.handler.code = none := h.code.trans hpend
      rw [LogInHandler_code_eq_none] at hcode
      have hm := h.notMoved (by rw [hcode]; nofun) (by rw [hcode]; nofun)
      show c.moved = true ↔ _
      simp [hm]

/-- How the log-in ended is whether the session is accepted. -/
theorem accepted (h : SessionOut cfg s asked i c) (hne : s.wa ≠ .starting i) {e : ErrorCode}
    (he : c.handler.code = some e) : c.server.accepted = e.isNone := by
  have hcode := h.code.symm.trans he
  obtain ⟨ev, hmem, hev⟩ := List.exists_of_findSome?_eq_some hcode
  have hres := (h.out hne).access.logIn.once.result
  cases ev with
  | logInDone e' site out =>
    cases hev
    exact hres e site out (List.mem_filter.mpr ⟨hmem, rfl⟩)
  | _ => cases hev

end SessionOut

/-! ### Every run -/

/-- What is asked of each session is noted: its log-in request, and how many init-channels the local
    function then wants. -/
def noteLogIns (s : SessionServer) (a : Act) (asked : Nat → Option (LogInReq × Nat)) :
    Nat → Option (LogInReq × Nat) :=
  match a with
  | .session i a => fun j =>
    if j = i then (s.sessions[i]?.bind fun c => c.server.logInReqTaken (s.withHooks a)).or (asked i)
    else asked j
  | _ => asked

/-- No log-in succeeds without init-channels over containers that have some. -/
def clears (cfg : Cfg) (s : SessionServer) : Act → Prop
  | .session i a => ∀ c, s.sessions[i]? = some c → c.server.clears cfg (s.withHooks a)
  | _ => True

/-- What is known of the calls and of their out-arguments. -/
structure OutArgsInv (cfg : Cfg) (s : SessionServer) (asked : Nat → Option (LogInReq × Nat)) :
    Prop where
  servers : SessionsInv cfg s
  requests : Requests s
  outs : ∀ i c, s.sessions[i]? = some c → SessionOut cfg s (asked i) i c
  unasked : ∀ i, s.sessions.length ≤ i → asked i = none

/-- There is no session yet whose arguments could have been written. -/
theorem outArgsInv_constructed (srvNamespace : SharedName) (errCodeGiven : Bool) :
    OutArgsInv cfg (constructed srvNamespace errCodeGiven) fun _ => none where
  servers := sessionsInv_constructed srvNamespace errCodeGiven
  requests := requests_constructed srvNamespace errCodeGiven
  outs := fun i c h => by cases h
  unasked := fun _ _ => rfl

namespace OutArgsInv

variable {asked : Nat → Option (LogInReq × Nat)}

/-- Session `i` changes, and the others do not. -/
theorem change {f : Accepted → Accepted} (h : OutArgsInv cfg s asked) (hs : SessionsInv cfg s')
    (hr : Requests s') (hc : ChangeOf i f s s')
    (hf : ∀ c, s.sessions[i]? = some c → SessionOut cfg s' (asked i) i (f c))
    (hw : ∀ j, j ≠ i → (s'.wa = .starting j ↔ s.wa = .starting j))
    (hb : s'.requests = s.requests) : OutArgsInv cfg s' asked := by
  refine ⟨hs, hr, hc.all h.outs (fun j c hj hout => ?_) fun c hi _ => hf c hi, fun j hj => ?_⟩
  · exact hout.same c.life (hw j hj) (by simp only [before, hb])
  · rw [hc.length] at hj
    exact h.unasked j hj

/-- The handler of a log-in moves on. -/
theorem handler {f : Accepted → Accepted} {k : LogInHandler} {m : Bool} (h : OutArgsInv cfg s asked)
    (hs : SessionsInv cfg (s₁.update i f)) (hi : s.sessions[i]? = some c)
    (hf : f c = { c with handler := k, moved := m }) (hk : k.code = c.handler.code)
    (hm : m = true ↔ k = .settled none ∨ k = .returned none) (hr : Requests (s₁.update i f))
    (hsess : s₁.sessions = s.sessions) (hw : s₁.wa = s.wa) (hb : s₁.requests = s.requests) :
    OutArgsInv cfg (s₁.update i f) asked := by
  have hc := (changeOf_update i f s₁).of_sessions hsess
  refine h.change hs hr hc (fun d hd => ?_) (fun j _ => by simp only [update, hw]) hb
  rw [hi, Option.some.injEq] at hd
  subst hd
  rw [hf]
  exact (h.outs i c hi).handler c.life (by simp only [update, hw])
    (by simp only [before, update, hb])
    hk hm

/-- A pointer to session `i` goes. -/
theorem released {t : Thread} (h : OutArgsInv cfg s asked) (hs : SessionsInv cfg (s₁.release t i))
    (hsess : s₁.sessions = s.sessions) (hw : ∀ j, s₁.wa = .starting j ↔ s.wa = .starting j)
    (hb : s₁.requests = s.requests) (hwait : s₁.waiting = s.waiting)
    (hh : s₁.handled = s.handled) : OutArgsInv cfg (s₁.release t i) asked := by
  have hc := (changeOf_release t i s₁).of_sessions hsess
  have hlife : ∀ c : Accepted, ∃ l, (if s₁.held i = true then c else c.dying t) =
      { c with life := l } := by
    intro c
    unfold Accepted.dying
    split
    · exact ⟨c.life, rfl⟩
    · split
      · exact ⟨c.life, rfl⟩
      · exact ⟨.dying t, rfl⟩
  have hb' : (s₁.release t i).requests = s.requests := (release_requests t i s₁).trans hb
  have hw' : ∀ j, (s₁.release t i).wa = .starting j ↔ s.wa = .starting j := by
    simpa only [release_wa] using hw
  refine h.change hs ?_ hc (fun c hi => ?_) (fun j _ => hw' j) hb'
  · refine h.requests.change hc (fun c _ => ?_) hb' ((release_waiting t i s₁).trans hwait)
      ((release_handled t i s₁).trans hh)
    obtain ⟨l, hl⟩ := hlife c
    rw [hl]
    exact ⟨rfl, fun _ he => he⟩
  · obtain ⟨l, hl⟩ := hlife c
    rw [hl]
    exact (h.outs i c hi).same l (hw' i) (by simp only [before, hb'])

/-- No session changes, and no call but those that are over. -/
theorem frame (h : OutArgsInv cfg s asked) (hs : SessionsInv cfg s') (hr : Requests s')
    (hsess : s'.sessions = s.sessions) (hw : s'.wa = s.wa) (hb : s'.requests = s.requests) :
    OutArgsInv cfg s' asked := by
  refine h.change hs hr (changeOf_same hsess 0) (fun c hi => ?_) (fun j _ => by rw [hw]) hb
  exact (h.outs 0 c hi).same c.life (by rw [hw]) (by simp only [before, hb])

/-- A call is made. -/
theorem asyncAccept (h : OutArgsInv cfg s asked) (out : OutArgs) (hs : SessionsInv cfg { s with
      requests := s.requests ++ [out]
      waiting := s.waiting ++ [s.requests.length] }) :
    OutArgsInv cfg { s with
      requests := s.requests ++ [out]
      waiting := s.waiting ++ [s.requests.length] } asked := by
  refine ⟨hs, h.requests.asyncAccept out, fun j c hj => ?_, h.unasked⟩
  refine (h.outs j c hj).same c.life Iff.rfl ?_
  have hlt := (h.requests.sessions j c hj).1
  simp only [before, List.getD_eq_getElem?_getD, List.getElem?_append_left hlt]

/-- A session is made. -/
theorem made {q : Nat} (h : OutArgsInv cfg s asked) (hs : SessionsInv cfg s') (hq : q ∈ s.waiting)
    (hsess : s'.sessions = s.sessions ++ [.made s.srvNamespace q])
    (hidle : s.wa = .idle) (hw : s'.wa = .starting s.sessions.length)
    (hb : s'.requests = s.requests) (hwait : s'.waiting = s.waiting.erase q)
    (hh : s'.handled = s.handled) : OutArgsInv cfg s' asked := by
  refine ⟨hs, h.requests.accepted hq hsess hb hwait hh, fun j c hj => ?_, fun j hj => ?_⟩
  · rw [hsess] at hj
    by_cases hlt : j < s.sessions.length
    · rw [List.getElem?_append_left hlt] at hj
      refine (h.outs j c hj).same c.life ?_ (by simp only [before, hb])
      rw [hw, hidle]
      refine ⟨fun he => ?_, nofun⟩
      cases he
      exact absurd hlt (Nat.lt_irrefl _)
    · rw [List.getElem?_append_right (Nat.le_of_not_lt hlt), List.getElem?_singleton] at hj
      split at hj
      · cases hj
        obtain rfl : j = s.sessions.length := by omega
        refine ⟨fun hne => absurd hw hne, fun _ => h.unasked _ (Nat.le_refl _), rfl, ?_⟩
        exact ⟨nofun, fun hk => by rcases hk with hk | hk <;> cases hk⟩
      · cases hj
  · rw [hsess, List.length_append] at hj
    exact h.unasked j (by omega)

/-- Its log-in is started, with the out-arguments of its call. -/
theorem started (h : OutArgsInv cfg s asked) (hw : s.wa = .starting i)
    (hs : SessionsInv cfg ({ s with wa := .returning i }.update i fun c =>
      { c with server := c.server.asyncAcceptLogIn (s.before c.request) })) :
    OutArgsInv cfg ({ s with wa := .returning i }.update i fun c =>
      { c with server := c.server.asyncAcceptLogIn (s.before c.request) }) asked := by
  have hc := (changeOf_update i (fun c : Accepted =>
    { c with server := c.server.asyncAcceptLogIn (s.before c.request) })
    { s with wa := .returning i }).of_sessions (s := s) rfl
  have hr := h.requests.change hc (fun c _ => ⟨rfl, fun _ he => he⟩) rfl rfl rfl
  refine h.change hs hr hc (fun c hi => ?_) (fun j hj => ?_) rfl
  · obtain ⟨q, hmade⟩ := h.servers.starting i hw
    obtain rfl := Option.some.inj (hi.symm.trans hmade)
    have hout := h.outs i _ hi
    refine ⟨fun _ => ?_, fun he => (by cases he), rfl, hout.moved⟩
    rw [hout.unasked hw]
    exact Server.outInv_fresh s.srvNamespace (s.before q)
  · rw [hw]
    refine ⟨fun he => (by cases he), fun he => ?_⟩
    cases he
    exact absurd rfl hj

/-- A session takes a step. -/
theorem session {a : Server.Act} {server : Server} (h : OutArgsInv cfg s asked)
    (hk : clears cfg s (.session i a)) (hi : s.sessions[i]? = some c) (ha : allows c a = true)
    (hd : Server.step cfg c.server (s.withHooks a) = .done server)
    (hs : SessionsInv cfg (s.afterSession i c server)) :
    OutArgsInv cfg (s.afterSession i c server) (noteLogIns s (.session i a) asked) := by
  have hlt := (List.getElem?_eq_some_iff.mp hi).1
  have hne : s.wa ≠ .starting i := by
    -- the session whose log-in is about to be started does not step
    intro hw
    obtain ⟨q, hmade⟩ := h.servers.starting i hw
    obtain rfl := Option.some.inj (hi.symm.trans hmade)
    have hdt := Server.constructed_step hd
    rw [withHooks_eq_dtorStart] at hdt
    subst hdt
    simp [allows, Accepted.made] at ha
  have hout := (h.outs i c hi).step hne (hk c hi) hd
  have hnote : noteLogIns s (.session i a) asked i =
      (c.server.logInReqTaken (s.withHooks a)).or (asked i) := by
    simp [noteLogIns, hi]
  have hother : ∀ j, j ≠ i → noteLogIns s (.session i a) asked j = asked j := by
    intro j hj
    simp [noteLogIns, hj]
  have hc : ChangeOf i (fun c => { c with
      server
      handler := ((server.log.drop c.server.log.length).findSome? Event.logInCode).elim c.handler
        .entered }) s (s.afterSession i c server) := by
    refine ⟨fun j hj => ?_, ?_, by simp [afterSession]⟩
    · simp only [afterSession, List.getElem?_set_ne (Ne.symm hj)]
    · simp only [afterSession, List.getElem?_set_self hlt, hi]
      rfl
  refine ⟨hs, h.requests.change hc (fun d hd' => ⟨rfl, fun e he => ?_⟩) rfl rfl rfl, ?_,
    fun j hj => ?_⟩
  · -- a handler that has returned is not run again
    obtain rfl := Option.some.inj (hi.symm.trans hd')
    have hcode : c.handler.code = some e := by rw [he]; rfl
    have hafter := hout.code
    have hlog : c.server.log <+: server.log :=
      (Server.step_log ((h.outs i c hi).out hne).access.logIn.err.phases
        ((h.outs i c hi).out hne).access.named hd).1
    obtain ⟨es, hes⟩ := hlog
    have hnew : es.findSome? Event.logInCode = none := by
      cases hnew : es.findSome? Event.logInCode with
      | none => rfl
      | some e' =>
        have honce := (hout.out (by exact hne)).access.logIn.once
        have hpend := pending_of_logInCode honce hes.symm hnew
        rw [← (h.outs i c hi).code, hcode] at hpend
        cases hpend
    show Option.elim _ _ _ = _
    rw [← hes, List.drop_left, hnew]
    exact he
  · refine hc.all h.outs (fun j d hj hd' => ?_) fun d hd' _ => ?_
    · rw [hother j hj]
      exact hd'.same d.life Iff.rfl rfl
    · obtain rfl := Option.some.inj (hi.symm.trans hd')
      rw [hnote]
      exact hout
  · have hlen : (s.afterSession i c server).sessions.length = s.sessions.length := hc.length
    rw [hlen] at hj
    rw [hother j (by omega)]
    exact h.unasked j hj

/-- **Step lemma.** -/
theorem step {a : Act} (h : OutArgsInv cfg s asked) (hk : clears cfg s a)
    (hd : SessionServer.step cfg s a = .done s') : OutArgsInv cfg s' (noteLogIns s a asked) := by
  have hs := h.servers.step hd
  have hstays : ∀ {c d : Accepted} {i : Nat} {k : LogInHandler} {m : Bool},
      s.sessions[i]? = some c → (∀ e, c.handler ≠ .returned e) → s.sessions[i]? = some d →
      ({ d with handler := k, moved := m } : Accepted).request = d.request ∧
        ∀ e, d.handler = .returned e → k = .returned e := by
    intro c d i k m hi hno hd
    obtain rfl := Option.some.inj (hi.symm.trans hd)
    exact ⟨rfl, fun e he => absurd he (hno e)⟩
  cases Stepped.of_step hd with
  | asyncAccept out hdt => exact h.asyncAccept out hs
  | @acceptFailed q e hq ha =>
    refine h.frame hs ?_ rfl rfl rfl
    exact h.requests.aborts (fun r => List.mem_of_mem_erase) (h.requests.nodup.erase q) hq
      fun hm => (h.requests.nodup.mem_erase_iff.mp hm).1 rfl
  | accepted hq hw hdt => exact h.made hs hq rfl hw rfl rfl rfl rfl
  | startLogIn hw => exact h.started hw hs
  | acceptReturn hw =>
    refine h.released hs rfl (fun j => ?_) rfl rfl rfl
    rw [hw]
    exact ⟨nofun, nofun⟩
  | session hi ha hstep => exact h.session hk hi ha hstep hs
  | @locks i c e hi hh hl =>
    have hno : ∀ e', c.handler ≠ .returned e' := fun e' he => by rw [hh] at he; cases he
    have hm := (h.outs i c hi).notMoved (by rw [hh]; nofun) (hno none)
    refine h.handler hs hi rfl (by rw [hh]; rfl) (by simp [hm]) ?_ rfl rfl rfl
    exact h.requests.change (changeOf_update i _ s) (fun d hd => hstays hi hno hd) rfl rfl rfl
  | @misses i c e hi hh hl he =>
    have hno : ∀ e', c.handler ≠ .returned e' := fun e' he => by rw [hh] at he; cases he
    have hm := (h.outs i c hi).notMoved (by rw [hh]; nofun) (hno none)
    refine h.handler hs hi rfl (by rw [hh]; rfl) (by simp [hm, he]) ?_ rfl rfl rfl
    exact h.requests.change (changeOf_update i _ s) (fun d hd => hstays hi hno hd) rfl rfl rfl
  | @erases i c e hi hh hdt =>
    have hno : ∀ e', c.handler ≠ .returned e' := fun e' he => by rw [hh] at he; cases he
    have hm := (h.outs i c hi).notMoved (by rw [hh]; nofun) (hno none)
    refine h.handler hs hi rfl (by rw [hh]; rfl) (by simp [hm]) ?_ rfl rfl rfl
    exact h.requests.change ((changeOf_update i _ _).of_sessions rfl)
      (fun d hd => hstays hi hno hd) rfl rfl rfl
  | @buries i c e hi hh hdt =>
    have hno : ∀ e', c.handler ≠ .returned e' := fun e' he => by rw [hh] at he; cases he
    have hm := (h.outs i c hi).notMoved (by rw [hh]; nofun) (hno none)
    refine h.handler hs hi rfl (by rw [hh]; rfl) (by simp [hm]) ?_ rfl rfl rfl
    exact h.requests.change ((changeOf_update i _ _).of_sessions rfl)
      (fun d hd => hstays hi hno hd) rfl rfl rfl
  | @emits i c hi hh =>
    have hno : ∀ e', c.handler ≠ .returned e' := fun e' he => by rw [hh] at he; cases he
    refine h.handler hs hi rfl (by rw [hh]; rfl) (by simp) ?_ rfl rfl rfl
    exact h.requests.change (changeOf_update i _ s) (fun d hd => hstays hi hno hd) rfl rfl rfl
  | @handles i c e hi hh =>
    have hmoved := (h.outs i c hi).moved
    rw [hh] at hmoved
    refine h.handler hs hi rfl (by rw [hh]; rfl) ?_ (h.requests.handles hi hh) rfl rfl rfl
    rw [hmoved]
    simp
  | graveyardRun hstart hdt hf hg => exact h.released hs rfl (fun _ => Iff.rfl) rfl rfl rfl
  | @sessionDestroyed i c t hi hl hcode hp =>
    have hc := changeOf_update i (fun c => { c with life := .dead t }) s
    refine h.change hs (h.requests.change hc (fun c _ => ⟨rfl, fun _ he => he⟩) rfl rfl rfl) hc
      (fun c hi => ?_) (fun j _ => Iff.rfl) rfl
    exact (h.outs i c hi).same (.dead t) Iff.rfl rfl
  | dtorStart hdt => exact h.frame hs (h.requests.same rfl rfl rfl rfl) rfl rfl rfl
  | graveyardJoined hdt hf => exact h.frame hs (h.requests.same rfl rfl rfl rfl) rfl rfl rfl
  | graveyardTask hdt hf hg => exact h.released hs rfl (fun _ => Iff.rfl) rfl rfl rfl
  | graveyardGone hdt hg => exact h.frame hs (h.requests.same rfl rfl rfl rfl) rfl rfl rfl
  | @acceptAborted q rest hdt hw =>
    have hnodup := h.requests.nodup
    rw [hw, List.nodup_cons] at hnodup
    refine h.frame hs ?_ rfl rfl rfl
    refine h.requests.aborts (fun r hr => ?_) hnodup.2 ?_ hnodup.1
    · rw [hw]
      exact List.mem_cons_of_mem q hr
    · rw [hw]
      exact List.mem_cons_self
  | acceptJoined hdt hi hf hw => exact h.frame hs (h.requests.same rfl rfl rfl rfl) rfl rfl rfl
  | sessionDropped hdt hf hg => exact h.released hs rfl (fun _ => Iff.rfl) rfl rfl rfl
  | returned hdt hf hg => exact h.frame hs (h.requests.same rfl rfl rfl rfl) rfl rfl rfl

end OutArgsInv

/-- Success sets the out-arguments of `async_accept()` completely, and an error leaves them
    alone. -/
structure SetsOutArgs (s : SessionServer) (asked : Nat → Option (LogInReq × Nat)) : Prop where
  /-- The user gets the session that is logged in, with what was asked for by both sides. -/
  success : ∀ q, (q, none) ∈ s.handled → ∃ i c r n, s.sessions[i]? = some c ∧ c.request = q ∧
    c.moved = true ∧ c.server.accepted = true ∧ asked i = some (r, n) ∧
      Server.Emits (s.before q) r n (madeIn c.server.log) c.server.out
  failure : ∀ q e, (q, some e) ∈ s.handled → ∀ (i : Nat) (c : Accepted), s.sessions[i]? = some c →
    c.request = q → c.moved = false ∧ c.server.out = s.before q
  /-- One session writes the out-arguments of a call. -/
  once : ∀ (i j : Nat) (c c' : Accepted), s.sessions[i]? = some c → s.sessions[j]? = some c' →
    c.request = c'.request → i = j

/-- The invariant says all that is claimed of the out-arguments. -/
theorem OutArgsInv.setsOutArgs {asked : Nat → Option (LogInReq × Nat)}
    (h : OutArgsInv cfg s asked) : SetsOutArgs s asked := by
  -- a session whose handler has returned has had its log-in started
  have hstarted : ∀ {i : Nat} {c : Accepted} {e : ErrorCode}, s.sessions[i]? = some c →
      c.handler = .returned e → s.wa ≠ .starting i := by
    intro i c e hi hh hw
    obtain ⟨q, hmade⟩ := h.servers.starting i hw
    obtain rfl := Option.some.inj (hi.symm.trans hmade)
    cases hh
  refine ⟨fun q hq => ?_, fun q e hq i c hi hreq => ?_, h.requests.once⟩
  · obtain ⟨i, c, hi, hreq⟩ := h.requests.emitted q hq
    have hh := (h.requests.handled q none hq).2.2 i c hi hreq
    have hout := h.outs i c hi
    have hne := hstarted hi hh
    have hacc : c.server.accepted = true := hout.accepted hne (e := none) (by rw [hh]; rfl)
    obtain ⟨r, n, hasked, hemits⟩ := (hout.out hne).emits hacc
    rw [hreq] at hemits
    exact ⟨i, c, r, n, hi, hreq, hout.moved.mpr (.inr hh), hacc, hasked, hemits⟩
  · have hh := (h.requests.handled q (some e) hq).2.2 i c hi hreq
    have hout := h.outs i c hi
    have hne := hstarted hi hh
    have hacc : c.server.accepted = false := hout.accepted hne (e := some e) (by rw [hh]; rfl)
    rw [← hreq]
    exact ⟨hout.notMoved (by rw [hh]; nofun) (by rw [hh]; nofun), (hout.out hne).untouched hacc⟩

/-- **The out-arguments of `async_accept()`.**  Where no log-in succeeds without init-channels over
    containers that have some, success sets them completely, and an error leaves them alone. -/
theorem setsOutArgs_of_clears {srvNamespace : SharedName} {errCodeGiven : Bool}
    {p : SessionServer × (Nat → Option (LogInReq × Nat))}
    (hr : Machine.Reaches (Machine.observed noteLogIns (step cfg)) (fun p a => clears cfg p.1 a)
      (constructed srvNamespace errCodeGiven, fun _ => none) p) : SetsOutArgs p.1 p.2 := by
  have hinv : OutArgsInv cfg p.1 p.2 := by
    refine hr.invariant (P := fun p => OutArgsInv cfg p.1 p.2)
      (outArgsInv_constructed srvNamespace errCodeGiven) fun p a p' hp ha hd => ?_
    obtain ⟨hstep, hnote⟩ := Machine.observed_done hd
    rw [hnote]
    exact hp.step ha hstep
  exact hinv.setsOutArgs

/-- A call of `async_accept()` with these out-arguments, up to the log-in request of a client that
    wants `n` init-channels. -/
def logInReqPrefix (out : OutArgs) (n : Nat) : List Act :=
  [.asyncAccept out, .accepted 0, .startLogIn, .acceptReturn,
    .session 0 (.run { osProcCreds := ⟨5, 1, 1⟩, osProcInvokedAs := ['/', 'c'] }),
    .session 0 (.deliver (Server.sampleCountReq n))]

/-- The handler of the first session's log-in, to its end. -/
def handlerSuffix : List Act := [.logInHandler 0, .logInHandler 0, .logInHandler 0, .logInHandler 0]

/-- No log-in request is handled that asks for no init-channels, or for more than can be counted. -/
def asksForSome (p : SessionServer × (Nat → Option (LogInReq × Nat))) : Act → Bool
  | .session i (.run o) => p.1.sessions[i]?.all fun c => match c.server.queue.head? with
    | some (.logInReq _ ⟨_, _, _, .logInReq r⟩) =>
      decide (0 < Server.initChannelCount r o c.server ∧
        Server.initChannelCount r o c.server < 2 ^ 64)
    | some t => !t.isLogInReq
    | none => true
  | _ => true

/-- A container that is used again, for one init-channel from each side. -/
theorem setsOutArgs_of_clears_oneFromEach : ∃ p,
    Machine.Reaches (Machine.observed noteLogIns (step .sample)) (fun p a => clears .sample p.1 a)
      (constructed ['s'] true, fun _ => none) p ∧
    p.1.requests = [⟨some [none], some [none, none], some none⟩] ∧ p.1.handled = [(0, none)] ∧
    SetsOutArgs p.1 p.2 := by
  obtain ⟨p, hr, hp⟩ := Machine.Reaches.exists_of_run
    (Machine.guarded asksForSome (Machine.observed noteLogIns (step .sample)))
    (constructed ['s'] true, fun _ => none)
    (logInReqPrefix ⟨some [none], some [none, none], some none⟩ 1 ++
      [.session 0 (.run { nInitChannelsBySrvReq := 1 }),
        .session 0 (.deliver ⟨1, some 2, none, .openChannelToClientRsp .accepted⟩),
        .session 0 (.syncReturn .response {})] ++ handlerSuffix)
    (fun p => decide (p.1.requests = [⟨some [none], some [none, none], some none⟩] ∧
      p.1.handled = [(0, none)])) (by decide)
  -- The run asks for one channel at least, which is more than the condition needs.
  have hguard : Machine.Reaches (Machine.observed noteLogIns (step .sample))
      (fun p a => clears .sample p.1 a) (constructed ['s'] true, fun _ => none) p := by
    refine hr.of_guarded.mono fun p a hg => ?_
    cases a with
    | session i a =>
      rintro c hi o chan m b r ha ht hm - -
      obtain ⟨-, hq, -⟩ := Session.takeTask_done ht
      cases a with
      | run o' =>
        cases ha
        simp only [asksForSome, hi, Option.all_some, hq, List.head?_cons] at hg
        split at hg
        · rename_i heq
          cases heq
          cases hm
          obtain ⟨hpos, hlt⟩ := of_decide_eq_true hg
          exact ⟨hlt, fun hz => absurd hz (Nat.pos_iff_ne_zero.mp hpos)⟩
        · rename_i heq
          cases heq
          cases hg
        · rename_i heq
          cases heq
      | _ => cases ha
    | _ => trivial
  exact ⟨p, hguard, (of_decide_eq_true hp).1, (of_decide_eq_true hp).2,
    setsOutArgs_of_clears hguard⟩

/-- **Not every log-in sets them**: without init-channels the containers keep what they had. -/
theorem not_setsOutArgs :
    ¬ ∀ (cfg : Cfg) (srvNamespace : SharedName) (errCodeGiven : Bool)
      (p : SessionServer × (Nat → Option (LogInReq × Nat))),
      Machine.Reaches (Machine.observed noteLogIns (step cfg)) Machine.anyStep
        (constructed srvNamespace errCodeGiven, fun _ => none) p → SetsOutArgs p.1 p.2 := by
  intro hall
  obtain ⟨p, hr, hp⟩ := Machine.Reaches.exists_of_run
    (Machine.observed noteLogIns (step .sample)) (constructed ['s'] true, fun _ => none)
    (logInReqPrefix ⟨some [none], some [], some none⟩ 0 ++ [.session 0 (.run {})] ++ handlerSuffix)
    (fun p => decide (p.1.handled = [(0, none)]) && p.1.sessions.all fun c =>
      decide (c.server.out.initChannelsByCliReq = some [none])) (by decide)
  simp only [Bool.and_eq_true, decide_eq_true_eq] at hp
  obtain ⟨hhandled, hout⟩ := hp
  have hsuccess := (hall _ _ _ p hr).success 0 (by rw [hhandled]; exact List.mem_singleton_self _)
  obtain ⟨i, c, r, n, hi, -, -, -, -, hemits⟩ := hsuccess
  have hkept := of_decide_eq_true (List.all_eq_true.mp hout c (List.mem_of_getElem? hi))
  -- the element is no channel of this session
  have hmem : none ∈ madeIn c.server.log := by
    refine hemits.channels.subset (List.mem_append_left _ ?_)
    rw [hkept]
    exact List.mem_singleton_self _
  simp [madeIn] at hmem

end SessionServer

end IpcSession
