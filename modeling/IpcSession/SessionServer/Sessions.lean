import IpcSession.Server.Hooks
import IpcSession.Server.MqNames
import IpcSession.SessionServer.Steps

namespace IpcSession

/-!
# The sessions of a session server

What a step of the session server does to its sessions, seen as `Server`s: nothing, one is made, one
starts its log-in, or one takes a step.

* `SessionServer.ServersStep` — these four cases.
* `Server.Running` — what is known of a session once its log-in has been started.
* `SessionServer.SessionsInv` — every session runs, but for one that is just being made.
-/

namespace Server

variable {cfg : Cfg} {s s' : Server}

/-- What is known of a session once its log-in has been started. -/
structure Running (cfg : Cfg) (s : Server) : Prop where
  logIn : LogInInv cfg s
  named : Named s
  names : cfg.separator.isAlphanum = false → MqNames cfg s

/-- A session whose log-in has just been started runs. -/
theorem running_fresh (srvNamespace : SharedName) (out : OutArgs) :
    Running cfg (fresh srvNamespace out) :=
  ⟨logInInv_fresh srvNamespace out, named_fresh srvNamespace out,
    fun _ => MqNames.fresh srvNamespace out⟩

/-- A session that runs keeps running. -/
theorem Running.step {a : Act} (h : Running cfg s) (hd : step cfg s a = .done s') :
    Running cfg s' :=
  ⟨h.logIn.step hd, h.named.step h.logIn.err.phases hd,
    fun hsep => ((h.names hsep).step h.logIn.err.phases h.named hsep hd).1⟩

/-- Its log only grows. -/
theorem Running.log {a : Act} (h : Running cfg s) (hd : Server.step cfg s a = .done s') :
    s.log <+: s'.log :=
  (step_log h.logIn.err.phases h.named hd).1

/-- Before its log-in is started, a session does nothing but be destroyed. -/
theorem constructed_step {srvNamespace : SharedName} {a : Act}
    (hd : step cfg (constructed srvNamespace) a = .done s') : a = .dtorStart := by
  cases a with
  | dtorStart => rfl
  | deliver m =>
    obtain ⟨b, hb, -⟩ := liftUnit_done hd
    obtain ⟨ch, hm, -⟩ := Session.deliver_done hb
    cases hm
  | channelError e =>
    obtain ⟨b, hb, -⟩ := liftUnit_done hd
    obtain ⟨ch, hm, -⟩ := Session.channelError_done hb
    cases hm
  | _ => cases hd

/-- A step leaves the namespace of the server alone. -/
theorem Running.srvNamespace {a : Act} (h : Running cfg s) (hd : Server.step cfg s a = .done s') :
    s'.srvNamespace = s.srvNamespace := by
  cases step_updates h.logIn.err.phases h.named hd with
  | common hu => exact hu.naming.srvNamespace
  | acceptLogIn ht hd =>
    exact ((takeTask_nameless ht).trans (acceptLogIn_nameless hd)).naming.srvNamespace
  | @logInReq o b chan m s₁ ht hd =>
    obtain ⟨hw, -, hb⟩ := Session.takeTask_done ht
    have hwb : b.w.isServing = true := by rw [hb, hw]; rfl
    obtain ⟨r, e, s₂, -, hc, hu, -⟩ := onLogInReq_updates hwb hd
    refine (hu.naming.srvNamespace.trans ?_).trans (takeTask_nameless ht).naming.srvNamespace
    cases checkLogInReq_done hc with
    | rejected e hb hl => rw [hb]
    | passed hn hname hb hl => rw [hb]; rfl
  | dtorAct ha => exact (dtorAct_nameless ha).naming.srvNamespace
  | dtorTask ht hb hf =>
    exact ((takeTask_nameless ht).trans (dtorTask_nameless hb)).naming.srvNamespace
  | returned hdt hs => rcases hs with rfl | rfl <;> rfl

end Server

namespace SessionServer

variable {cfg : Cfg} {s s' : SessionServer} {i : Nat} {t : Thread}

/-- The sessions, seen as servers. -/
def servers (s : SessionServer) : List Server := s.sessions.map (·.server)

/-- There are as many servers as sessions. -/
@[simp] theorem servers_length (s : SessionServer) : s.servers.length = s.sessions.length := by
  simp [servers]

/-- The server of a session is found at its place. -/
theorem servers_getElem? (s : SessionServer) (i : Nat) :
    s.servers[i]? = s.sessions[i]?.map (·.server) := by
  simp [servers]

/-- A change of something other than the session itself. -/
theorem servers_update {f : Accepted → Accepted} (hf : ∀ c, (f c).server = c.server) :
    (s.update i f).servers = s.servers := by
  apply List.ext_getElem?
  intro j
  rw [servers_getElem?, servers_getElem?, update_getElem?]
  split
  · cases s.sessions[j]? with
    | none => rfl
    | some c => simp [hf c]
  · rfl

/-- Letting go of a session does not change it as a server. -/
@[simp] theorem servers_release (t : Thread) (i : Nat) (s : SessionServer) :
    (s.release t i).servers = s.servers := by
  unfold release
  split
  · rfl
  · refine servers_update fun c => ?_
    split <;> rfl

/-! ### What a step does to the sessions -/

/-- The sessions, the namespaces given out so far, and whose log-in is about to start. -/
inductive ServersStep (cfg : Cfg) (s s' : SessionServer) : Prop
  | same (h : s'.servers = s.servers) (hn : s'.lastCliNamespace = s.lastCliNamespace)
      (hw : ∀ i, s'.wa = .starting i ↔ s.wa = .starting i)
  | made (h : s'.servers = s.servers ++ [Server.constructed s.srvNamespace])
      (hn : s'.lastCliNamespace = s.lastCliNamespace) (hidle : s.wa = .idle)
      (hw : s'.wa = .starting s.servers.length)
  | started {i : Nat} (hidle : s.wa = .starting i) (hw : s'.wa = .returning i)
      (hlen : s'.servers.length = s.servers.length)
      (h : ∀ j, s'.servers[j]? = s.servers[j]? ∧ j ≠ i ∨ j = i ∧ ∀ c', s'.servers[j]? = some c' →
        ∃ out c, s.servers[j]? = some c ∧ c' = c.asyncAcceptLogIn out)
      (hn : s'.lastCliNamespace = s.lastCliNamespace)
  | stepped {i : Nat} {a : Server.Act} {c : Accepted} {server : Server}
      (hi : s.sessions[i]? = some c) (ha : allows c a = true)
      (hd : Server.step cfg c.server (s.withHooks a) = .done server)
      (h : s'.servers = s.servers.set i server)
      (hn : s'.lastCliNamespace =
        if (server.log.drop c.server.log.length).any Event.isCliNamespaceTaken then
          (s.lastCliNamespace + 1) % 2 ^ 64
        else s.lastCliNamespace)
      (hw : s'.wa = s.wa)

/-- Thread Wa starts the log-in of the session that it has made, and of no other one. -/
theorem startLogIn_servers {i : Nat} {out : Accepted → OutArgs} (hw : s.wa = .starting i) :
    ServersStep cfg s ({ s with wa := .returning i }.update i fun c =>
      { c with server := c.server.asyncAcceptLogIn (out c) }) := by
  refine .started hw rfl (by simp [update]) (fun j => ?_) rfl
  rw [servers_getElem?, servers_getElem?, update_getElem?]
  by_cases hj : i = j
  · subst hj
    refine .inr ⟨rfl, fun c' hc' => ?_⟩
    cases hs : s.sessions[i]? with
    | none => simp [hs] at hc'
    | some c =>
      simp [hs] at hc'
      exact ⟨_, c.server, rfl, hc'.symm⟩
  · exact .inl ⟨by simp [hj], fun h => hj h.symm⟩

/-- **What a step does to the sessions.** -/
theorem step_servers {a : Act} (hd : step cfg s a = .done s') :
    ServersStep cfg s s' ∧ s'.srvNamespace = s.srvNamespace := by
  -- most steps leave the sessions, seen as servers, and thread Wa alone
  have same : ∀ {s' : SessionServer}, s'.servers = s.servers →
      s'.lastCliNamespace = s.lastCliNamespace → s'.srvNamespace = s.srvNamespace →
      s'.wa = s.wa → ServersStep cfg s s' ∧ s'.srvNamespace = s.srvNamespace :=
    fun h hn hsn hw => ⟨.same h hn (fun i => by rw [hw]), hsn⟩
  cases Stepped.of_step hd with
  | asyncAccept => exact same rfl rfl rfl rfl
  | acceptFailed => exact same rfl rfl rfl rfl
  | accepted hr hw hn =>
    refine ⟨.made ?_ rfl hw ?_, rfl⟩
    · simp [servers, Accepted.made]
    · simp
  | startLogIn hw => exact ⟨startLogIn_servers hw, rfl⟩
  | acceptReturn hw =>
    refine ⟨.same (by rw [servers_release]; rfl) (by simp) fun j => ?_, by simp⟩
    simp [hw]
  | @session i a c server hi ha hs =>
    refine ⟨.stepped hi ha hs ?_ rfl rfl, rfl⟩
    simp [servers, afterSession, List.map_set]
  | locks => exact same (servers_update fun _ => rfl) rfl rfl rfl
  | misses => exact same (servers_update fun _ => rfl) rfl rfl rfl
  | erases => exact same (servers_update fun _ => rfl) rfl rfl rfl
  | buries => exact same (servers_update fun _ => rfl) rfl rfl rfl
  | emits => exact same (servers_update fun _ => rfl) rfl rfl rfl
  | handles => exact same (servers_update fun _ => rfl) rfl rfl rfl
  | graveyardRun => exact same (by rw [servers_release]; rfl) (by simp) (by simp) (by simp)
  | sessionDestroyed => exact same (servers_update fun _ => rfl) rfl rfl rfl
  | dtorStart => exact same rfl rfl rfl rfl
  | graveyardJoined => exact same rfl rfl rfl rfl
  | graveyardTask => exact same (by rw [servers_release]; rfl) (by simp) (by simp) (by simp)
  | graveyardGone => exact same rfl rfl rfl rfl
  | acceptAborted => exact same rfl rfl rfl rfl
  | acceptJoined => exact same rfl rfl rfl rfl
  | sessionDropped => exact same (by rw [servers_release]; rfl) (by simp) (by simp) (by simp)
  | returned => exact same rfl rfl rfl rfl

/-! ### The sessions of every run -/

/-- The session whose log-in is about to start is as it was made. -/
def Starting (s : SessionServer) : Prop :=
  ∀ i, s.wa = .starting i → ∃ r, s.sessions[i]? = some (.made s.srvNamespace r)

namespace Starting

/-- A step that leaves alone the session, thread Wa and the namespace. -/
theorem keep (h : Starting s) (hw : s'.wa = s.wa) (hn : s'.srvNamespace = s.srvNamespace)
    (hs : ∀ i r, s.wa = .starting i → s.sessions[i]? = some (.made s.srvNamespace r) →
      s'.sessions[i]? = s.sessions[i]?) : Starting s' := by
  intro i hi
  rw [hw] at hi
  obtain ⟨r, hr⟩ := h i hi
  exact ⟨r, by rw [hn, hs i r hi hr]; exact hr⟩

/-- A change of a session that is no longer as it was made. -/
theorem update (h : Starting s) {s₁ : SessionServer} {c : Accepted} (hi : s.sessions[i]? = some c)
    (hc : ∀ r, c ≠ .made s.srvNamespace r) (hw : s₁.wa = s.wa)
    (hn : s₁.srvNamespace = s.srvNamespace) (hs : s₁.sessions = s.sessions)
    (f : Accepted → Accepted) : Starting (s₁.update i f) := by
  refine h.keep hw hn fun j r hj hr => ?_
  have hij : i ≠ j := by
    rintro rfl
    exact hc r (Option.some.inj (hi.symm.trans hr))
  rw [update_getElem?, if_neg hij, hs]

/-- The log-in of the session has a handler that has been entered: the session is not new. -/
theorem update_of_handler (h : Starting s) {s₁ : SessionServer} {c : Accepted}
    (hi : s.sessions[i]? = some c) (hp : c.handler ≠ .pending) (hw : s₁.wa = s.wa)
    (hn : s₁.srvNamespace = s.srvNamespace) (hs : s₁.sessions = s.sessions)
    (f : Accepted → Accepted) : Starting (s₁.update i f) := by
  refine h.update hi (fun r hr => hp ?_) hw hn hs f
  rw [hr]
  rfl

/-- Thread Wa itself holds the session, so that no other pointer is its last one. -/
theorem release (h : Starting s) {s₁ : SessionServer} (hw : s₁.wa = s.wa)
    (hn : s₁.srvNamespace = s.srvNamespace) (hs : s₁.sessions = s.sessions) (t : Thread) (i : Nat) :
    Starting (s₁.release t i) := by
  refine h.keep (by simp [hw]) (by simp [hn]) fun j r hj hr => ?_
  have hheld : s₁.held j = true := by simp [held, hw, hj, AcceptThread.holds]
  rw [release_sessions_of_held hheld, hs]

/-- All that a session that was just made can do is be destroyed, but it is held. -/
theorem not_made {a : Server.Act} {c : Accepted} {server : Server} (ha : allows c a = true)
    (hs : Server.step cfg c.server (s.withHooks a) = .done server) (n : SharedName) (r : Nat) :
    c ≠ .made n r := by
  rintro rfl
  have hdt := Server.constructed_step hs
  have hda : a = .dtorStart := by cases a <;> first | rfl | cases hdt
  subst hda
  simp [allows, Accepted.made] at ha

/-- A step of a session. -/
theorem session (h : Starting s) {a : Server.Act} {c : Accepted} {server : Server}
    (hi : s.sessions[i]? = some c) (ha : allows c a = true)
    (hs : Server.step cfg c.server (s.withHooks a) = .done server) :
    Starting (s.afterSession i c server) := by
  refine h.keep rfl rfl fun j r hj hr => ?_
  have hij : i ≠ j := by
    rintro rfl
    exact not_made ha hs s.srvNamespace r (Option.some.inj (hi.symm.trans hr))
  simp [afterSession, hij]

/-- **The session whose log-in is about to start stays as it was made.** -/
theorem step {a : Act} (h : Starting s) (hd : step cfg s a = .done s') : Starting s' := by
  cases Stepped.of_step hd with
  | asyncAccept => exact h.keep rfl rfl fun _ _ _ _ => rfl
  | acceptFailed => exact h.keep rfl rfl fun _ _ _ _ => rfl
  | @accepted r =>
    intro i hi
    cases hi
    exact ⟨r, by simp⟩
  | startLogIn =>
    intro i hi
    cases hi
  | acceptReturn =>
    intro i hi
    rw [release_wa] at hi
    cases hi
  | session hi ha hs => exact h.session hi ha hs
  | locks hi hh => exact h.update_of_handler hi (by rw [hh]; simp) rfl rfl rfl _
  | misses hi hh => exact h.update_of_handler hi (by rw [hh]; simp) rfl rfl rfl _
  | erases hi hh => exact h.update_of_handler hi (by rw [hh]; simp) rfl rfl rfl _
  | buries hi hh => exact h.update_of_handler hi (by rw [hh]; simp) rfl rfl rfl _
  | emits hi hh => exact h.update_of_handler hi (by rw [hh]; simp) rfl rfl rfl _
  | handles hi hh => exact h.update_of_handler hi (by rw [hh]; simp) rfl rfl rfl _
  | graveyardRun => apply h.release <;> rfl
  | sessionDestroyed hi hl hc =>
    exact h.update_of_handler hi (by rintro hp; simp [hp, LogInHandler.code] at hc) rfl rfl rfl _
  | dtorStart => exact h.keep rfl rfl fun _ _ _ _ => rfl
  | graveyardJoined => exact h.keep rfl rfl fun _ _ _ _ => rfl
  | graveyardTask => apply h.release <;> rfl
  | graveyardGone => exact h.keep rfl rfl fun _ _ _ _ => rfl
  | acceptAborted => exact h.keep rfl rfl fun _ _ _ _ => rfl
  | acceptJoined => exact h.keep rfl rfl fun _ _ _ _ => rfl
  | sessionDropped => apply h.release <;> rfl
  | returned => exact h.keep rfl rfl fun _ _ _ _ => rfl

end Starting

/-- Every session runs, but for one that is just being made. -/
structure SessionsInv (cfg : Cfg) (s : SessionServer) : Prop where
  starting : Starting s
  running : ∀ i c, s.servers[i]? = some c → c.srvNamespace = s.srvNamespace ∧
    (s.wa ≠ .starting i → Server.Running cfg c)

/-- There is no session yet. -/
theorem sessionsInv_constructed (srvNamespace : SharedName) (errCodeGiven : Bool) :
    SessionsInv cfg (constructed srvNamespace errCodeGiven) :=
  ⟨nofun, fun i c h => by cases h⟩

/-- The session whose log-in is about to start is as it was made. -/
theorem SessionsInv.made (h : SessionsInv cfg s) (hw : s.wa = .starting i) {c : Server}
    (hi : s.servers[i]? = some c) : c = Server.constructed s.srvNamespace := by
  obtain ⟨r, hr⟩ := h.starting i hw
  rw [servers_getElem?, hr] at hi
  exact (Option.some.inj hi).symm

/-- A session that takes a step has had its log-in started. -/
theorem SessionsInv.running_of_step (h : SessionsInv cfg s) {a : Server.Act} {c : Accepted}
    {server : Server} (hi : s.sessions[i]? = some c) (ha : allows c a = true)
    (hd : Server.step cfg c.server (s.withHooks a) = .done server) :
    Server.Running cfg c.server := by
  refine (h.running i c.server (by rw [servers_getElem?, hi]; rfl)).2 fun hw => ?_
  obtain ⟨r, hr⟩ := h.starting i hw
  exact Starting.not_made ha hd s.srvNamespace r (Option.some.inj (hi.symm.trans hr))

/-- **Every session but the one just being made runs**, after any step. -/
theorem SessionsInv.step {a : Act} (h : SessionsInv cfg s) (hd : step cfg s a = .done s') :
    SessionsInv cfg s' := by
  refine ⟨h.starting.step hd, ?_⟩
  obtain ⟨hservers, hsn⟩ := step_servers hd
  rw [hsn]
  cases hservers with
  -- No session moved.
  | same hs hn hw =>
    rw [hs]
    intro i c hi
    exact ⟨(h.running i c hi).1, fun hw' => (h.running i c hi).2 fun hw'' => hw' ((hw i).mpr hw'')⟩
  -- The new one is at its start until thread Wa goes on.
  | made hs hn hidle hw =>
    rw [hs]
    intro i c hi
    by_cases hlt : i < s.servers.length
    · rw [List.getElem?_append_left hlt] at hi
      obtain ⟨hn', hrun⟩ := h.running i c hi
      exact ⟨hn', fun _ => hrun (by rw [hidle]; nofun)⟩
    · rw [List.getElem?_append_right (Nat.le_of_not_lt hlt), List.getElem?_singleton] at hi
      split at hi
      · rename_i hz
        cases hi
        refine ⟨rfl, fun hne => absurd ?_ hne⟩
        rw [hw]
        congr 1
        omega
      · cases hi
  -- Thread Wa starts the log-in of the one at its start; it runs from here on.
  | started hidle hw hlen hs =>
    rename_i i₀
    intro i c hi
    rw [hw]
    rcases hs i with ⟨hsame, hne⟩ | ⟨rfl, hstart⟩
    · rw [hsame] at hi
      obtain ⟨hn', hrun⟩ := h.running i c hi
      refine ⟨hn', fun _ => hrun fun hw' => hne ?_⟩
      rw [hidle, AcceptThread.starting.injEq] at hw'
      exact hw'.symm
    · obtain ⟨out, c₀, hc₀, rfl⟩ := hstart c hi
      rw [h.made hidle hc₀]
      exact ⟨rfl, fun _ => Server.running_fresh s.srvNamespace out⟩
  -- One session stepped, and it was running.
  | stepped hi₀ ha hd hs hn hw =>
    rename_i i₀ a c₀ server
    have hrun := h.running_of_step hi₀ ha hd
    intro i c hi
    rw [hs, List.getElem?_set] at hi
    rw [hw]
    split at hi
    · rename_i hii
      subst hii
      split at hi
      · cases hi
        refine ⟨(hrun.srvNamespace hd).trans ?_, fun _ => hrun.step hd⟩
        exact (h.running i₀ c₀.server (by rw [servers_getElem?, hi₀]; rfl)).1
      · cases hi
    · exact h.running i c hi

end SessionServer

end IpcSession
