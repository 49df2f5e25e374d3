import IpcSession.Client.Attempts
import Mathlib.Data.List.Nodup

namespace IpcSession

/-!
# The out-arguments of `sync_connect()`

`sync_connect()` is given pointers to two containers of channels and to a metadata pointer, each of
which may be null.  They are written where the log-in response announces no init-channels, and where
the last one has been acknowledged.

* `Client.ConnectNotes` — what an observer notes of the connect attempts.
* `Client.Emits` — what success is to leave in the out-arguments.
* `Client.OutInv` — what the attempts so far have done with them: an invariant, with a lemma for
  each thing that can happen to an attempt.
-/

/-- What an observer notes of the connect attempts, by number. -/
structure ConnectNotes where
  /-- The out-arguments as each call was given them. -/
  before : List (Nat × OutArgs) := []
  /-- The log-in responses that thread W has handled. -/
  responses : List (Nat × LogInRsp) := []
  /-- The init-channels that were hooked up. -/
  made : List ChannelObj := []
  /-- The attempts that have ended, and their codes. -/
  ended : List (Nat × ErrorCode) := []
  deriving DecidableEq, Repr

namespace ConnectNotes

/-- A log-in response to attempt `a` is handled. -/
def respond (a : Nat) (r : LogInRsp) (n : ConnectNotes) : ConnectNotes :=
  { n with responses := n.responses ++ [(a, r)] }

/-- A channel is hooked up. -/
def hookUp (ch : ChannelObj) (n : ConnectNotes) : ConnectNotes := { n with made := n.made ++ [ch] }

/-- Attempt `a` ends. -/
def finish (a : Nat) (e : ErrorCode) (n : ConnectNotes) : ConnectNotes :=
  { n with ended := n.ended ++ [(a, e)] }

/-- The attempts that have ended are those that had, and this one. -/
theorem mem_names_finish {n : ConnectNotes} {a x : Nat} {e : ErrorCode} :
    x ∈ (n.finish a e).ended.map Prod.fst ↔ x ∈ n.ended.map Prod.fst ∨ x = a := by
  simp [finish]

/-- An attempt that has not ended yet can end. -/
theorem nodup_names_finish {n : ConnectNotes} {a : Nat} (h : (n.ended.map Prod.fst).Nodup)
    (ha : a ∉ n.ended.map Prod.fst) (e : ErrorCode) :
    ((n.finish a e).ended.map Prod.fst).Nodup := by
  rw [finish, List.map_append, List.nodup_append]
  refine ⟨h, by simp, fun x hx y hy hxy => ?_⟩
  rw [List.mem_singleton.mp hy] at hxy
  have hxa : x = a := hxy
  exact ha (hxa ▸ hx)

end ConnectNotes

namespace Client

variable {cfg : Cfg} {K : Prop} {s s' : Client} {o : ClientOracle} {passiveOpen : Bool}
  {n n' : ConnectNotes}

/-! ### The observer -/

/-- The call of `sync_connect()` in this step, with its out-arguments. -/
def called : Act → List (Nat × OutArgs)
  | .connect _ attempt out _ => [(attempt, out)]
  | _ => []

/-- The log-in response that thread W handles in this step. -/
def responded (s : Client) : Act → List (Nat × LogInRsp)
  | .run _ =>
    match s.queue with
    | .logInRsp _ m attempt :: _ =>
      match m.body with
      | .logInRsp r => [(attempt, r)]
      | _ => []
    | _ => []
  | _ => []

/-- The init-channel that thread W hooks up in this step. -/
def hookedUp (cfg : Cfg) (s : Client) : Act → List ChannelObj
  | .run o =>
    match s.queue with
    | .initOpenChannel _ m _ :: _ =>
      -- The channel that the handler is about to make, as the handler makes it.
      match m.body with
      | .openChannelToClientReq mqC2s mqS2c _ =>
        match s.createChannelObj cfg mqC2s mqS2c m.hndl false o.mqOpen with
        | .done (ch, _) => [ch]
        | _ => []
      | _ => []
    | _ => []
  | _ => []

/-- The attempt whose handler is run in this step, if one is: that which the step itself starts, or
    that of the handler that is set. -/
def ending (s : Client) : Act → Nat
  | .run _ =>
    match s.queue with
    | .asyncConnect attempt .. :: _ => attempt
    | _ => (s.connOnDoneFuncOrEmpty.map OnDone.attempt).getD 0
  | _ => (s.connOnDoneFuncOrEmpty.map OnDone.attempt).getD 0

/-- The observer takes its notes. -/
def takeConnectNotes (cfg : Cfg) (s : Client) (a : Act) (n : ConnectNotes) : ConnectNotes :=
  match step cfg s a with
  | .done s' => {
      before := n.before ++ called a
      responses := n.responses ++ s.responded a
      made := n.made ++ s.hookedUp cfg a
      ended := n.ended ++
        ((s'.log.drop s.log.length).filterMap Event.connectCode).map fun e => (s.ending a, e) }
  | _ => n

/-- The notes of a step, once it is known what the step adds to the record. -/
theorem takeConnectNotes_eq {a : Act} {es : List Event} {codes : List ErrorCode}
    (hd : step cfg s a = .done s') (hl : s'.log = s.log ++ es)
    (hes : es.filterMap Event.connectCode = codes) : takeConnectNotes cfg s a n = {
      before := n.before ++ called a
      responses := n.responses ++ s.responded a
      made := n.made ++ s.hookedUp cfg a
      ended := n.ended ++ codes.map fun e => (s.ending a, e) } := by
  simp only [takeConnectNotes, hd, hl, List.drop_left, hes]

/-! ### What success is to leave -/

/-- What success leaves in the out-arguments: where they are not null, as many channels as each side
    asked for, all that were hooked up and nothing else; and the server's metadata.  (The server's
    count is read from the response as a `size_t`.) -/
structure Emits (before : OutArgs) (r : LogInRsp) (made : List ChannelObj) (after : OutArgs) :
    Prop where
  byCli : after.initChannelsByCliReq.map List.length = before.initChannelsByCliReq.map List.length
  bySrv : after.initChannelsBySrvReq.map List.length =
    before.initChannelsBySrvReq.map fun _ => r.numInitChannelsBySrvReq % 2 ^ 64
  bySrvNull : before.initChannelsBySrvReq = none → r.numInitChannelsBySrvReq = 0
  channels : after.initChannelsByCliReq.getD [] ++ after.initChannelsBySrvReq.getD
    [] = made.map some
  mdt : after.mdt = before.mdt.map fun _ => some r.metadata

/-- What the handler of init-channels has captured is what was asked for, and the channels so far
    are those that were hooked up. -/
structure Captured (s : Client) (n : ConnectNotes) (cap : InitCapture) (before : OutArgs)
    (r : LogInRsp) : Prop where
  call : (cap.attempt, before) ∈ n.before
  response : (cap.attempt, r) ∈ n.responses
  count : cap.nInitChannels =
    (r.numInitChannelsBySrvReq + (before.initChannelsByCliReq.getD []).length) % 2 ^ 64
  bySrvNull : before.initChannelsBySrvReq = none → r.numInitChannelsBySrvReq = 0
  mdt : cap.mdtFromSrv = before.mdt.map fun _ => r.metadata
  out : (cap.attempt, none) ∉ n.ended → s.out cap.attempt = before
  channels : (s.vecs.lookup cap.vec).getD [] = n.made.map some

/-! ### The invariant -/

/-- What is known of the connect attempts and their out-arguments.  `K` says that no log-in response
    has made any of these change too early. -/
structure OutInv (K : Prop) (s : Client) (n : ConnectNotes) : Prop where
  /-- No sub-class has its wrapper between. -/
  user : ∀ f, s.connOnDoneFuncOrEmpty = some f → f.kind = .user
  vanilla : ∀ a b, .asyncConnect a true b ∉ s.queue
  /-- What waits is for the attempt under way. -/
  owner : ∀ a f, s.Awaits a → s.connOnDoneFuncOrEmpty = some f → f.attempt = a
  known : ∀ a, a ∈ s.connects ∨ s.Awaits a ∨
    (∃ f, s.connOnDoneFuncOrEmpty = some f ∧ f.attempt = a) ∨ a ∈ n.ended.map Prod.fst →
      a ∈ n.before.map Prod.fst
  names : (n.before.map Prod.fst).Nodup
  connects : s.connects.Nodup
  toStart : ∀ a ∈ s.connects, a ∉ n.ended.map Prod.fst
  running : ∀ f, s.connOnDoneFuncOrEmpty = some f →
    f.attempt ∉ n.ended.map Prod.fst ∧ f.attempt ∉ s.connects
  once : (n.ended.map Prod.fst).Nodup
  succeeded : ∀ a, (a, none) ∈ n.ended → s.state = .peer ∧ s.connOnDoneFuncOrEmpty = none
  untouched : K ∨ n.responses = [] → ∀ a b, (a, b) ∈ n.before → (a, none) ∉ n.ended → s.out a = b
  emits : ∀ a b, (a, none) ∈ n.ended → (a, b) ∈ n.before →
    ∃ r, (a, r) ∈ n.responses ∧ Emits b r n.made (s.out a)
  /-- One log-in response at most is to come, or has come. -/
  logIns : s.logIns + n.responses.length ≤ 1
  unnamed : s.srvNamespace = [] → n.responses = []
  nothing : n.responses = [] → s.inits = [] ∧ n.made = []
  same : ∀ cap ∈ s.inits, ∀ cap' ∈ s.inits, cap = cap'
  captured : ∀ cap ∈ s.inits, ∃ b r, Captured s n cap b r

/-- No attempt has been made. -/
theorem outInv_fresh (passiveOpen : Bool) : OutInv K (fresh passiveOpen) {} where
  user := fun _ h => by cases h
  vanilla := fun _ _ h => by cases h
  owner := fun _ _ _ h => by cases h
  known := fun a h => by
    rcases h with h | h | ⟨f, h, -⟩ | h
    · cases h
    · rcases h with ⟨chan, m, h⟩ | ⟨ch, id, h, -⟩ | ⟨cap, h, -⟩ <;> cases h
    · cases h
    · cases h
  names := List.nodup_nil
  connects := List.nodup_nil
  toStart := fun _ h => by cases h
  running := fun _ h => by cases h
  once := List.nodup_nil
  succeeded := fun _ h => by cases h
  untouched := fun _ _ _ h => by cases h
  emits := fun _ _ h => by cases h
  logIns := Nat.zero_le 1
  unnamed := fun _ => rfl
  nothing := fun _ => ⟨rfl, rfl⟩
  same := fun _ h => by cases h
  captured := fun _ h => by cases h

namespace OutInv

/-- The out-arguments that a call was given are one thing. -/
theorem before_eq (h : OutInv K s n) {a : Nat} {b b' : OutArgs} (hb : (a, b) ∈ n.before)
    (hb' : (a, b') ∈ n.before) : b = b' := by
  have hinj := List.inj_on_of_nodup_map h.names hb hb' rfl
  exact (Prod.mk.inj hinj).2

/-- While an attempt is under way none has succeeded. -/
theorem no_success (h : OutInv K s n) {f : OnDone} (hf : s.connOnDoneFuncOrEmpty = some f)
    (a : Nat) :
    (a, none) ∉ n.ended := by
  intro ha
  have hnone := (h.succeeded a ha).2
  rw [hf] at hnone
  cases hnone

/-- An attempt under way has written nothing. -/
theorem out_eq (h : OutInv K s n) (hk : K ∨ n.responses = []) {f : OnDone}
    (hf : s.connOnDoneFuncOrEmpty = some f) : (f.attempt, s.out f.attempt) ∈ n.before := by
  obtain ⟨⟨a, b⟩, hb, rfl⟩ := List.mem_map.mp (h.known f.attempt (.inr (.inr (.inl ⟨f, hf, rfl⟩))))
  have hout := h.untouched hk f.attempt b hb (h.no_success hf _)
  rw [hout]
  exact hb

/-- The attempt under way stays, no more waits, and what was written stays. -/
theorem carry (h : OutInv K s n) (hs : s.toSession.Fewer s'.toSession) (hst : s'.state = s.state)
    (hf : s'.connOnDoneFuncOrEmpty = s.connOnDoneFuncOrEmpty)
    (hk : K ∨ n.responses = [] → ∀ a, s'.out a = s.out a)
    (hout : ∀ a, (a, none) ∈ n.ended → s'.out a = s.out a)
    (hv : ∀ cap ∈ s'.inits, s'.vecs.lookup cap.vec = s.vecs.lookup cap.vec ∧
      s'.out cap.attempt = s.out cap.attempt) : OutInv K s' n := by
  refine ⟨?_, fun a b hb => h.vanilla a b (hs.subClass a b hb), ?_, ?_, h.names,
    h.connects.sublist hs.connects, ?_, ?_, h.once, ?_, ?_, ?_, ?_, ?_, ?_, ?_, ?_⟩
  · rw [hf]
    exact h.user
  · rw [hf]
    exact fun a f ha => h.owner a f (hs.awaits a ha)
  · rw [hf]
    intro a ha
    exact h.known a (ha.imp (fun ha => hs.connects.subset ha) (Or.imp (hs.awaits a) id))
  · exact fun a ha => h.toStart a (hs.connects.subset ha)
  · rw [hf]
    intro f hf'
    obtain ⟨hend, hcon⟩ := h.running f hf'
    exact ⟨hend, fun ha => hcon (hs.connects.subset ha)⟩
  · rw [hf, hst]
    exact h.succeeded
  -- Untouched memory stays so wherever the hypothesis says that the step keeps it.
  · intro hkeep a b hb ha
    rw [hk hkeep]
    exact h.untouched hkeep a b hb ha
  · intro a b ha hb
    rw [hout a ha]
    exact h.emits a b ha hb
  · have hlog := hs.logIns
    have hone := h.logIns
    omega
  · exact fun hn => h.unnamed (hs.srvNamespace hn)
  · intro hr
    obtain ⟨hi, hmade⟩ := h.nothing hr
    refine ⟨List.eq_nil_iff_forall_not_mem.mpr fun cap hc => ?_, hmade⟩
    have hc := hs.inits cap hc
    rw [hi] at hc
    cases hc
  · exact fun cap hc cap' hc' => h.same cap (hs.inits cap hc) cap' (hs.inits cap' hc')
  · intro cap hc
    obtain ⟨b, r, hcap⟩ := h.captured cap (hs.inits cap hc)
    exact ⟨b, r, hcap.call, hcap.response, hcap.count, hcap.bySrvNull, hcap.mdt,
      fun hn => (hv cap hc).2.trans (hcap.out hn), by
        rw [(hv cap hc).1]
        exact hcap.channels⟩

/-- The attempt under way stays, no more waits, and nothing is written. -/
theorem fewer (h : OutInv K s n) (hs : s.toSession.Fewer s'.toSession) (hst : s'.state = s.state)
    (hf : s'.connOnDoneFuncOrEmpty = s.connOnDoneFuncOrEmpty)
    (hv : ∀ cap ∈ s'.inits, s'.vecs.lookup cap.vec = s.vecs.lookup cap.vec)
    (hout : ∀ a, s'.out a = s.out a) : OutInv K s' n :=
  h.carry hs hst hf (fun _ => hout) (fun a _ => hout a) fun cap hc => ⟨hv cap hc, hout _⟩

/-- Attempt `a` ends with an error, and no handler is left. -/
theorem ends (h : OutInv K s n) (hno : ∀ a, (a, none) ∉ n.ended) {a : Nat} (ha : a ∉ s.connects)
    (hend : a ∉ n.ended.map Prod.fst) (hb : a ∈ n.before.map Prod.fst) (e : Err)
    (hs : s.toSession.Fewer s'.toSession) (hf : s'.connOnDoneFuncOrEmpty = none)
    (hv : s'.vecs = s.vecs)
    (hm : s'.mem = s.mem) : OutInv K s' (n.finish a (some e)) := by
  -- A failed attempt leaves all memory as it was.
  have hout : ∀ x, s'.out x = s.out x := by
    intro x
    simp only [out, hm]
  -- It is no success either.
  have hno' : ∀ x, (x, none) ∉ (n.finish a (some e)).ended := by
    intro x hx
    rcases List.mem_append.mp hx with hx | hx
    · exact hno x hx
    · cases List.mem_singleton.mp hx
  refine ⟨fun f hf' => ?_, fun x b hx => h.vanilla x b (hs.subClass x b hx), fun x f _ hf' => ?_,
    fun x hx => ?_, h.names, h.connects.sublist hs.connects, fun x hx => ?_, fun f hf' => ?_, ?_,
    fun x hx => absurd hx (hno' x), fun hk x b hx _ => ?_, fun x b hx => absurd hx (hno' x), ?_,
    fun hn => h.unnamed (hs.srvNamespace hn), fun hr => ?_,
    fun cap hc cap' hc' => h.same cap (hs.inits cap hc) cap' (hs.inits cap' hc'), fun cap hc => ?_⟩
  · rw [hf] at hf'
    cases hf'
  · rw [hf] at hf'
    cases hf'
  · rcases hx with hx | hx | ⟨f, hf', -⟩ | hx
    · exact h.known x (.inl (hs.connects.subset hx))
    · exact h.known x (.inr (.inl (hs.awaits x hx)))
    · rw [hf] at hf'
      cases hf'
    · rcases ConnectNotes.mem_names_finish.mp hx with hx | rfl
      · exact h.known x (.inr (.inr (.inr hx)))
      · exact hb
  · intro hx'
    have hx := hs.connects.subset hx
    rcases ConnectNotes.mem_names_finish.mp hx' with hx' | rfl
    · exact h.toStart x hx hx'
    · exact ha hx
  · rw [hf] at hf'
    cases hf'
  · exact ConnectNotes.nodup_names_finish h.once hend _
  · rw [hout]
    exact h.untouched hk x b hx (hno x)
  · have hlog := hs.logIns
    have hone := h.logIns
    show _ + n.responses.length ≤ 1
    omega
  · obtain ⟨hi, hmade⟩ := h.nothing hr
    refine ⟨List.eq_nil_iff_forall_not_mem.mpr fun cap hc => ?_, hmade⟩
    have hc := hs.inits cap hc
    rw [hi] at hc
    cases hc
  · obtain ⟨b, r, hcap⟩ := h.captured cap (hs.inits cap hc)
    exact ⟨b, r, hcap.call, hcap.response, hcap.count, hcap.bySrvNull, hcap.mdt,
      fun _ => (hout _).trans (hcap.out (hno _)), by
        rw [hv]
        exact hcap.channels⟩

/-- The attempt under way ends with an error. -/
theorem fails (h : OutInv K s n) {f : OnDone} (hf : s.connOnDoneFuncOrEmpty = some f) (e : Err)
    (hs : s.toSession.Fewer s'.toSession) (hf' : s'.connOnDoneFuncOrEmpty = none)
    (hv : s'.vecs = s.vecs) (hm : s'.mem = s.mem) : OutInv K s' (n.finish f.attempt (some e)) := by
  obtain ⟨hend, hcon⟩ := h.running f hf
  have hb := h.known f.attempt (.inr (.inr (.inl ⟨f, hf, rfl⟩)))
  exact h.ends (h.no_success hf) hcon hend hb e hs hf' hv hm

/-- An attempt that the client starts in NULL state ends at once. -/
theorem failsAtOnce (h : OutInv K s n) (hst : s.state = .null) {a : Nat} (ha : a ∉ s.connects)
    (hend : a ∉ n.ended.map Prod.fst) (hb : a ∈ n.before.map Prod.fst) (e : Err)
    (hs : s.toSession.Fewer s'.toSession) (hf : s'.connOnDoneFuncOrEmpty = none)
    (hv : s'.vecs = s.vecs)
    (hm : s'.mem = s.mem) : OutInv K s' (n.finish a (some e)) := by
  refine h.ends (fun x hx => ?_) ha hend hb e hs hf hv hm
  have hpeer := (h.succeeded x hx).1
  rw [hst] at hpeer
  cases hpeer

/-- An attempt is under way, and nothing is to come but its log-in response. -/
theorem begins (h : OutInv K s n) (hst : s.state = .null) {a : Nat} (ha : a ∉ s.connects)
    (hend : a ∉ n.ended.map Prod.fst) (hb : a ∈ n.before.map Prod.fst) (hr : n.responses = [])
    (hcon : s'.connects = s.connects)
    (hsub : ∀ x b, .asyncConnect x true b ∈ s'.queue → .asyncConnect x true b ∈ s.queue)
    (hawaits : ∀ x, s'.Awaits x → x = a) (hinits : s'.inits = [])
    (hlog : s'.logIns ≤ 1) (hf : s'.connOnDoneFuncOrEmpty = some ⟨.user, a⟩) (hm : s'.mem = s.mem) :
    OutInv K s' n := by
  have hout : ∀ x, s'.out x = s.out x := by
    intro x
    simp only [out, hm]
  -- In NULL state no attempt has succeeded.
  have hno : ∀ x, (x, none) ∉ n.ended := by
    intro x hx
    have hpeer := (h.succeeded x hx).1
    rw [hst] at hpeer
    cases hpeer
  -- From here on the handler in place is this attempt's.
  have hself : ∀ f, s'.connOnDoneFuncOrEmpty = some f → f = ⟨.user, a⟩ := by
    intro f hf'
    rw [hf] at hf'
    exact (Option.some.inj hf').symm
  refine ⟨fun f hf' => ?_, fun x b hx => h.vanilla x b (hsub x b hx), fun x f hx hf' => ?_,
    fun x hx => ?_, h.names, ?_, ?_, fun f hf' => ?_, h.once, fun x hx => absurd hx (hno x),
    fun hk x b hx _ => ?_, fun x b hx => absurd hx (hno x), ?_,
    fun _ => hr, fun _ => ⟨hinits, (h.nothing hr).2⟩, fun cap hc => ?_, fun cap hc => ?_⟩
  · rw [hself f hf']
  · rw [hself f hf', hawaits x hx]
  · rcases hx with hx | hx | ⟨f, hf', rfl⟩ | hx
    · exact h.known x (.inl (hcon ▸ hx))
    · rw [hawaits x hx]
      exact hb
    · rw [hself f hf']
      exact hb
    · exact h.known x (.inr (.inr (.inr hx)))
  · rw [hcon]
    exact h.connects
  · rw [hcon]
    exact h.toStart
  · rw [hself f hf', hcon]
    exact ⟨hend, ha⟩
  · rw [hout]
    exact h.untouched hk x b hx (hno x)
  · rw [hr]
    exact hlog
  · rw [hinits] at hc
    cases hc
  · rw [hinits] at hc
    cases hc

/-- The log-in response is there. -/
theorem responds (h : OutInv K s n) (hz : s.logIns = 0) (hr : n.responses = [])
    (hsrv : s.srvNamespace ≠ []) (a : Nat) (r : LogInRsp) : OutInv K s (n.respond a r) := by
  have hi := (h.nothing hr).1
  refine ⟨h.user, h.vanilla, h.owner, h.known, h.names, h.connects, h.toStart, h.running, h.once,
    h.succeeded, fun _ => h.untouched (.inr hr), fun x b hx hb => ?_, ?_, fun hn => absurd hn hsrv,
    fun hn => ?_, h.same,
    fun cap hc => ?_⟩
  · obtain ⟨r', hr', -⟩ := h.emits x b hx hb
    rw [hr] at hr'
    cases hr'
  · show s.logIns + (n.responses ++ [_]).length ≤ 1
    rw [hz, hr]
    exact Nat.le_refl 1
  · exact absurd hn (List.append_ne_nil_of_right_ne_nil _ (List.cons_ne_nil _ _))
  · rw [hi] at hc
    cases hc

/-- Init-channels are to come for the attempt under way. -/
theorem announces (h : OutInv K s n) {f : OnDone} {cap : InitCapture} {b : OutArgs} {r : LogInRsp}
    (hf : s.connOnDoneFuncOrEmpty = some f) (ha : cap.attempt = f.attempt) (hr : n.responses ≠ [])
    (hcap : Captured s' n cap b r) (hcon : s'.connects = s.connects)
    (hsub : ∀ x b, .asyncConnect x true b ∈ s'.queue → .asyncConnect x true b ∈ s.queue)
    (hawaits : ∀ x, s'.Awaits x → s.Awaits x ∨ x = cap.attempt) (hinits : ∀ c ∈ s'.inits, c = cap)
    (hlog : s'.logIns ≤ s.logIns) (hsrv : s'.srvNamespace = s.srvNamespace)
    (hst : s'.state = s.state) (hf' : s'.connOnDoneFuncOrEmpty = s.connOnDoneFuncOrEmpty)
    (hm : s'.mem = s.mem) : OutInv K s' n := by
  have hout : ∀ x, s'.out x = s.out x := by
    intro x
    simp only [out, hm]
  -- An attempt is under way, so none has succeeded yet.
  have hno := h.no_success hf
  refine ⟨?_, fun x b hx => h.vanilla x b (hsub x b hx), fun x g hx hg => ?_,
    fun x hx => ?_, h.names,
    ?_, ?_, ?_, h.once, ?_, fun hk x b hx hx' => ?_, fun x b hx => absurd hx (hno x), ?_, ?_,
    fun hn => absurd hn hr, fun c hc c' hc' => ?_, fun c hc => ?_⟩
  · rw [hf']
    exact h.user
  · rw [hf'] at hg
    -- The one that awaits something new is the attempt of the capture, and the handler in place is
    -- its own.
    rcases hawaits x hx with hx | rfl
    · exact h.owner x g hx hg
    · rw [hf] at hg
      cases hg
      exact ha.symm
  · rcases hx with hx | hx | ⟨g, hg, rfl⟩ | hx
    · exact h.known x (.inl (hcon ▸ hx))
    · rcases hawaits x hx with hx | rfl
      · exact h.known x (.inr (.inl hx))
      · exact h.known _ (.inr (.inr (.inl ⟨f, hf, ha.symm⟩)))
    · exact h.known _ (.inr (.inr (.inl ⟨g, hf' ▸ hg, rfl⟩)))
    · exact h.known x (.inr (.inr (.inr hx)))
  · rw [hcon]
    exact h.connects
  · rw [hcon]
    exact h.toStart
  · rw [hf', hcon]
    exact h.running
  · rw [hf', hst]
    exact h.succeeded
  · rw [hout]
    exact h.untouched hk x b hx hx'
  · have hone := h.logIns
    omega
  · rw [hsrv]
    exact h.unnamed
  · rw [hinits c hc, hinits c' hc']
  · rw [hinits c hc]
    exact ⟨b, r, hcap⟩

/-- An init-channel of the attempt under way is hooked up. -/
theorem hooksUp (h : OutInv K s n) {f : OnDone} {cap : InitCapture} {b : OutArgs} {r : LogInRsp}
    (hf : s.connOnDoneFuncOrEmpty = some f) (hcap : Captured s n cap b r)
    (hinits : ∀ c ∈ s.inits, c = cap) (ch : ChannelObj) :
    OutInv K (s.setVec cap.vec ((s.vecs.lookup cap.vec).getD [] ++ [some ch])) (n.hookUp ch) ∧
      Captured (s.setVec cap.vec ((s.vecs.lookup cap.vec).getD [] ++ [some ch])) (n.hookUp ch) cap b
        r := by
  have hno := h.no_success hf
  have hcap' : Captured (s.setVec cap.vec ((s.vecs.lookup cap.vec).getD [] ++ [some ch]))
      (n.hookUp ch) cap b r := by
    refine ⟨hcap.call, hcap.response, hcap.count, hcap.bySrvNull, hcap.mdt,
      hcap.out, ?_⟩
    rw [setVec_vecs, List.lookup_cons_self, Option.getD_some, hcap.channels]
    simp [ConnectNotes.hookUp]
  have hr : n.responses ≠ [] := List.ne_nil_of_mem hcap.response
  refine ⟨⟨h.user, h.vanilla, h.owner, h.known, h.names, h.connects, h.toStart, h.running, h.once,
    h.succeeded,
    h.untouched, fun x b hx => absurd hx (hno x), h.logIns, h.unnamed, fun hn => absurd hn hr,
    h.same, fun c hc => ?_⟩, hcap'⟩
  rw [hinits c hc]
  exact ⟨b, r, hcap'⟩

/-- The attempt under way succeeds, with its out-arguments as they should be. -/
theorem succeeds (h : OutInv K s n) {f : OnDone} {b out' : OutArgs} {r : LogInRsp}
    (hf : s.connOnDoneFuncOrEmpty = some f) (hb : (f.attempt, b) ∈ n.before)
    (hr : (f.attempt, r) ∈ n.responses) (hemits : Emits b r n.made out')
    (hs : s.toSession.Fewer s'.toSession) (hst : s'.state = .peer)
    (hf' : s'.connOnDoneFuncOrEmpty = none) (hv : s'.vecs = s.vecs)
    (hm : s'.mem = (f.attempt, out') :: s.mem) : OutInv K s' (n.finish f.attempt none) := by
  obtain ⟨hend, hcon⟩ := h.running f hf
  -- No attempt of this session succeeded before.
  have hno := h.no_success hf
  -- The memory of the attempt that ends is replaced; the others' is as it was.
  have hself : s'.out f.attempt = out' := by
    simp only [out, hm, List.lookup_cons_self, Option.getD_some]
  have hother : ∀ x, x ≠ f.attempt → s'.out x = s.out x := by
    intro x hx
    have hne : (x == f.attempt) = false := by simp [hx]
    simp only [out, hm, List.lookup_cons, hne]
  -- So it is the one attempt that ended without an error.
  have hnone : ∀ x, (x, none) ∈ (n.finish f.attempt none).ended ↔ x = f.attempt := by
    intro x
    refine ⟨fun hx => ?_, fun hx => ?_⟩
    · rcases List.mem_append.mp hx with hx | hx
      · exact absurd hx (hno x)
      · exact congrArg Prod.fst (List.mem_singleton.mp hx)
    · rw [hx]
      exact List.mem_append_right _ (List.mem_singleton_self _)
  refine ⟨fun g hg => ?_, fun x b hx => h.vanilla x b (hs.subClass x b hx), fun x g _ hg => ?_,
    fun x hx => ?_, h.names, h.connects.sublist hs.connects, fun x hx hx' => ?_, fun g hg => ?_, ?_,
    fun _ _ => ⟨hst, hf'⟩,
    fun hk x b' hx hx' => ?_, fun x b' hx hb' => ?_, ?_, fun hn => h.unnamed (hs.srvNamespace hn),
    fun hn => ?_, fun cap hc cap' hc' => h.same cap (hs.inits cap hc) cap' (hs.inits cap' hc'),
    fun cap hc => ?_⟩
  · rw [hf'] at hg
    cases hg
  · rw [hf'] at hg
    cases hg
  · rcases hx with hx | hx | ⟨g, hg, -⟩ | hx
    · exact h.known x (.inl (hs.connects.subset hx))
    · exact h.known x (.inr (.inl (hs.awaits x hx)))
    · rw [hf'] at hg
      cases hg
    · rcases ConnectNotes.mem_names_finish.mp hx with hx | rfl
      · exact h.known x (.inr (.inr (.inr hx)))
      · exact h.known _ (.inr (.inr (.inl ⟨f, hf, rfl⟩)))
  · have hx := hs.connects.subset hx
    rcases ConnectNotes.mem_names_finish.mp hx' with hx' | rfl
    · exact h.toStart x hx hx'
    · exact hcon hx
  · rw [hf'] at hg
    cases hg
  · exact ConnectNotes.nodup_names_finish h.once hend _
  · have hne : x ≠ f.attempt := fun hx'' => hx' ((hnone x).mpr hx'')
    rw [hother x hne]
    exact h.untouched hk x b' hx (hno x)
  · obtain rfl := (hnone x).mp hx
    rw [hself, h.before_eq hb' hb]
    exact ⟨r, hr, hemits⟩
  · have hlog := hs.logIns
    have hone := h.logIns
    show _ + n.responses.length ≤ 1
    omega
  · obtain ⟨hi, hmade⟩ := h.nothing hn
    refine ⟨List.eq_nil_iff_forall_not_mem.mpr fun cap hc => ?_, hmade⟩
    have hc := hs.inits cap hc
    rw [hi] at hc
    cases hc
  · obtain ⟨b', r', hcap⟩ := h.captured cap (hs.inits cap hc)
    refine ⟨b', r', hcap.call, hcap.response, hcap.count, hcap.bySrvNull, hcap.mdt,
      fun hn => ?_, ?_⟩
    · have hne : cap.attempt ≠ f.attempt := fun he => hn ((hnone _).mpr he)
      rw [hother _ hne]
      exact hcap.out (hno _)
    · rw [hv]
      exact hcap.channels

/-- A call is made, under a name that is new. -/
theorem calls (h : OutInv K s n) {a : Nat} {out' : OutArgs} (ha : a ∉ n.before.map Prod.fst)
    (hcon : s'.connects = s.connects ++ [a])
    (hsub : ∀ x b, .asyncConnect x true b ∈ s'.queue → .asyncConnect x true b ∈ s.queue)
    (hawaits : ∀ x, s'.Awaits x → s.Awaits x)
    (hinits : ∀ c ∈ s'.inits, c ∈ s.inits) (hlog : s'.logIns ≤ s.logIns)
    (hsrv : s'.srvNamespace = s.srvNamespace) (hst : s'.state = s.state)
    (hf : s'.connOnDoneFuncOrEmpty = s.connOnDoneFuncOrEmpty) (hv : s'.vecs = s.vecs)
    (hm : s'.mem = (a, out') :: s.mem) :
    OutInv K s' { n with before := n.before ++ [(a, out')] } := by
  -- The new attempt's memory is at the head; the other attempts' is behind it.
  have hself : s'.out a = out' := by
    simp only [out, hm, List.lookup_cons_self, Option.getD_some]
  have hother : ∀ x, x ≠ a → s'.out x = s.out x := by
    intro x hx
    have hne : (x == a) = false := by simp [hx]
    simp only [out, hm, List.lookup_cons, hne]
  -- Attempts have names of their own: one known before is not this one.
  have hnew : ∀ x, x ∈ n.before.map Prod.fst → x ≠ a := fun x hx hxa => ha (hxa ▸ hx)
  have hkeep : ∀ {x : Nat}, x ∈ n.before.map Prod.fst →
      x ∈ (n.before ++ [(a, out')]).map Prod.fst := by
    intro x hx
    rw [List.map_append]
    exact List.mem_append_left _ hx
  have hold : ∀ {x : Nat} {b : OutArgs}, x ∈ n.before.map Prod.fst →
      (x, b) ∈ n.before ++ [(a, out')] → (x, b) ∈ n.before := by
    intro x b hx hb
    rcases List.mem_append.mp hb with hb | hb
    · exact hb
    · cases List.mem_singleton.mp hb
      exact absurd hx ha
  -- What has ended was known, so this attempt has not.
  have hended : ∀ x e, (x, e) ∈ n.ended → x ∈ n.before.map Prod.fst := fun x e hx =>
    h.known x (.inr (.inr (.inr (List.mem_map.mpr ⟨(x, e), hx, rfl⟩))))
  refine ⟨?_, fun x b hx => h.vanilla x b (hsub x b hx), ?_, fun x hx => ?_, ?_, ?_, fun x hx => ?_,
    fun f hf' => ?_, h.once, ?_, fun hk x b hb hx => ?_, fun x b hx hb => ?_, ?_, ?_, fun hr => ?_,
    fun c hc c' hc' => h.same c (hinits c hc) c' (hinits c' hc'), fun c hc => ?_⟩
  · rw [hf]
    exact h.user
  · rw [hf]
    exact fun x f hx => h.owner x f (hawaits x hx)
  · rw [hf, hcon] at hx
    rcases hx with hx | hx | hx | hx
    · rcases List.mem_append.mp hx with hx | hx
      · exact hkeep (h.known x (.inl hx))
      · rw [List.mem_singleton.mp hx, List.map_append]
        exact List.mem_append_right _ (List.mem_singleton_self _)
    · exact hkeep (h.known x (.inr (.inl (hawaits x hx))))
    · exact hkeep (h.known x (.inr (.inr (.inl hx))))
    · exact hkeep (h.known x (.inr (.inr (.inr hx))))
  · rw [List.map_append, List.nodup_append]
    refine ⟨h.names, by simp, fun x hx y hy => ?_⟩
    rw [List.mem_singleton.mp hy]
    exact hnew x hx
  · rw [hcon, List.nodup_append]
    refine ⟨h.connects, by simp, fun x hx y hy => ?_⟩
    rw [List.mem_singleton.mp hy]
    exact hnew x (h.known x (.inl hx))
  · rw [hcon] at hx
    rcases List.mem_append.mp hx with hx | hx
    · exact h.toStart x hx
    · rw [List.mem_singleton.mp hx]
      exact fun hend => ha (h.known a (.inr (.inr (.inr hend))))
  · rw [hf] at hf'
    obtain ⟨hend, hcon'⟩ := h.running f hf'
    refine ⟨hend, fun hx => ?_⟩
    rw [hcon] at hx
    rcases List.mem_append.mp hx with hx | hx
    · exact hcon' hx
    · exact ha (List.mem_singleton.mp hx ▸ h.known f.attempt (.inr (.inr (.inl ⟨f, hf', rfl⟩))))
  · rw [hst, hf]
    exact h.succeeded
  · rcases List.mem_append.mp hb with hb | hb
    · rw [hother x (hnew x (List.mem_map.mpr ⟨(x, b), hb, rfl⟩))]
      exact h.untouched hk x b hb hx
    · cases List.mem_singleton.mp hb
      exact hself
  · have hx' := hended x none hx
    rw [hother x (hnew x hx')]
    exact h.emits x b hx (hold hx' hb)
  · have hone := h.logIns
    show _ + n.responses.length ≤ 1
    omega
  · rw [hsrv]
    exact h.unnamed
  · obtain ⟨hi, hmade⟩ := h.nothing hr
    refine ⟨List.eq_nil_iff_forall_not_mem.mpr fun cap hc => ?_, hmade⟩
    have hc := hinits cap hc
    rw [hi] at hc
    cases hc
  · obtain ⟨b, r, hcap⟩ := h.captured c (hinits c hc)
    refine ⟨b, r, List.mem_append_left _ hcap.call, hcap.response, hcap.count, hcap.bySrvNull,
      hcap.mdt, fun hn => ?_, ?_⟩
    · rw [hother _ (hnew _ (List.mem_map.mpr ⟨_, hcap.call, rfl⟩))]
      exact hcap.out hn
    · rw [hv]
      exact hcap.channels

end OutInv

end Client

end IpcSession
