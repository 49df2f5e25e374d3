import IpcSession.Server.Updates

/-!
# The resources of a channel, down to the system

`Server.createChannelAndResources` says what the function returns and records what it did.  Here it
is run once more, statement by statement, against the MQs and the descriptors of the system: who
owns a descriptor, and who closes it, is part of it.

* `Os` — the MQs that exist and the descriptors that are open;
* `Frame` — the out-arguments and the locals of the call, with the objects that own something;
* `createChannelAndResourcesOn_eq`: the two descriptions of the function agree;
* `AllOrNothing`, `allOrNothing_iff`: success leaves everything, failure nothing, unless a step
  fails after both MQs have been made.
-/

namespace IpcSession

/-! ### The system -/

/-- The MQs that exist and the descriptors that are open.  The number of the next socket pair is
    one that no open descriptor has. -/
structure Os where
  mqs : List SharedName
  fds : List NativeHandle
  nextPair : Nat
  fresh : ∀ h ∈ fds, h.pair < nextPair

namespace Os

/-- Create an MQ in the mode `CREATE_ONLY`: a name that exists is an error (`EEXIST`). -/
def createMq (e : ErrorCode) (name : SharedName) (os : Os) : ErrorCode × Os :=
  match e with
  | some e => (some e, os)
  | none =>
    if name ∈ os.mqs then (some (.other 17), os)
    else (none, { os with mqs := name :: os.mqs })

/-- `remove_persistent()`. -/
def removeMq (name : SharedName) (os : Os) : Os :=
  { os with mqs := os.mqs.filter (· ≠ name) }

/-- `close()` of a descriptor. -/
def close (h : NativeHandle) (os : Os) : Os where
  mqs := os.mqs
  fds := os.fds.filter (· ≠ h)
  nextPair := os.nextPair
  fresh := fun h' hm => os.fresh h' (List.mem_of_mem_filter hm)

/-- The two ends of a new pair, both open. -/
def addPair (os : Os) : Os where
  mqs := os.mqs
  fds := ⟨os.nextPair, false⟩ :: ⟨os.nextPair, true⟩ :: os.fds
  nextPair := os.nextPair + 1
  fresh := by
    intro h hm
    simp only [List.mem_cons] at hm
    rcases hm with rfl | rfl | hm
    · exact Nat.lt_succ_self _
    · exact Nat.lt_succ_self _
    · exact Nat.lt_succ_of_lt (os.fresh h hm)

/-- `connect_pair()`. -/
def connectPair (e : ErrorCode) (os : Os) : Except Err (NativeHandle × NativeHandle) × Os :=
  match e with
  | some e => (.error e, os)
  | none => (.ok (⟨os.nextPair, false⟩, ⟨os.nextPair, true⟩), os.addPair)

section OsLemmas

variable {os os' : Os} {name : SharedName}

/-- Creating an MQ either fails and changes nothing, or makes the one MQ. -/
theorem createMq_cases (e : ErrorCode) (name : SharedName) (os : Os) :
    ((e ≠ none ∨ name ∈ os.mqs) ∧ ∃ e', os.createMq e name = (some e', os)) ∨
      ((e = none ∧ name ∉ os.mqs) ∧
        os.createMq e name = (none, { os with mqs := name :: os.mqs })) := by
  cases e with
  | some e => exact .inl ⟨.inl nofun, e, rfl⟩
  | none =>
    by_cases hm : name ∈ os.mqs
    · exact .inl ⟨.inr hm, .other 17, by simp [createMq, hm]⟩
    · exact .inr ⟨⟨rfl, hm⟩, by simp [createMq, hm]⟩

/-- Removing what was made last leads back. -/
theorem removeMq_cons (hm : os.mqs = name :: os'.mqs) (hn : name ∉ os'.mqs) :
    (os.removeMq name).mqs = os'.mqs := by
  simp only [removeMq, hm, List.filter_cons, ne_eq, not_true_eq_false, decide_false,
    Bool.false_eq_true, if_false]
  rw [List.filter_eq_self]
  intro a ha
  simp only [decide_eq_true_eq]
  rintro rfl
  exact hn ha

end OsLemmas

end Os

/-! ### The call -/

/-- The state of a call of `create_channel_and_resources()`: its out-arguments, and its locals that
    own something.  An open MQ handle is known by the name of its MQ. -/
structure Frame where
  os : Os
  openedChannel : Option ChannelObj := none
  remoteHndlOrNull : Option NativeHandle := none
  mqNameC2sOrNone : SharedName := []
  mqNameS2cOrNone : SharedName := []
  mqC2s : Option SharedName := none
  mqS2c : Option SharedName := none
  localSockStmOrNull : Option NativeHandle := none

namespace Frame

/-- `make_sock_stm_func()`: the local descriptor goes to a socket stream, which will close it, the
    remote one to a `Native_handle`, which will not.  Then the master channel is asked for the
    credentials of the opposing process; `ask` is that query with its assertion. -/
def makeSockStm (e : ErrorCode) (ask : Outcome Failure Unit) (f : Frame) :
    Outcome Failure (ErrorCode × Frame) :=
  match f.os.connectPair e with
  | (.error e, os) => .done (some e, { f with os })
  | (.ok (localHndl, remoteHndl), os) => do
    ask
    return (none,
      { f with os, remoteHndlOrNull := some remoteHndl, localSockStmOrNull := some localHndl })

/-- `make_channel_mqs()`, with the two names that it makes up. -/
def makeChannelMqs (c2s s2c : SharedName) (o : ResourceOracle) (f : Frame) : Bool × Frame :=
  match f.os.createMq o.mqC2s c2s with
  | (some _, os) => (false, { f with os })
  | (none, os) =>
    match os.createMq o.mqS2c s2c with
    | (some _, os) => (false, { f with os := os.removeMq c2s, mqC2s := none })
    | (none, os) =>
      (true, { f with
        os
        mqC2s := some c2s
        mqS2c := some s2c
        mqNameC2sOrNone := c2s
        mqNameS2cOrNone := s2c })

/-- `opened_channel = Channel_obj(…, std::move(…), &sys_err_code)`: the channel takes over what it
    is made of, and keeps it when there is an error. -/
def constructChannel (nickname : Nickname) (e : ErrorCode) (f : Frame) : ErrorCode × Frame :=
  (e, { f with
    openedChannel :=
      some { nickname, mqOut := f.mqS2c, mqIn := f.mqC2s, sock := f.localSockStmOrNull }
    mqC2s := none
    mqS2c := none
    localSockStmOrNull := none })

/-- Close the descriptor that an object owns, if it owns one. -/
def closeOwned (h : Option NativeHandle) (f : Frame) : Frame :=
  match h with
  | some h => { f with os := f.os.close h }
  | none => f

/-- The clean-up on an error: the names and the remote handle are left as they are. -/
def cleanUp (f : Frame) : Frame :=
  let f := { f with mqC2s := none, mqS2c := none }
  let f := { f with os := (f.os.removeMq f.mqNameC2sOrNone).removeMq f.mqNameS2cOrNone }
  { f.closeOwned (f.openedChannel.bind (·.sock)) with openedChannel := none }

/-- Return: the locals are destroyed. -/
def ret (ok : Bool) (f : Frame) : Resources × Os :=
  (⟨ok, f.openedChannel, f.remoteHndlOrNull, f.mqNameC2sOrNone, f.mqNameS2cOrNone⟩,
    (f.closeOwned f.localSockStmOrNull).os)

/-- The part with MQs, once they are there: the socket pair if there is to be one, and the
    channel. -/
def makeChannel (cfg : Cfg) (nickname : Nickname) (ask : Outcome Failure Unit) (o : ResourceOracle)
    (f : Frame) : Outcome Failure (ErrorCode × Frame) :=
  if cfg.socketStreamEnabled then do
    let (e, f) ← f.makeSockStm o.connectPair ask
    match e with
    | none => return f.constructChannel nickname o.channel
    | some e => return (some e, f)
  else .done (f.constructChannel nickname o.channel)

end Frame

/-- `create_channel_and_resources()`, called with empty out-arguments (asserted), given the nickname
    and the two names. -/
def createChannelAndResourcesOn (cfg : Cfg) (nickname : Nickname) (c2s s2c : SharedName)
    (ask : Outcome Failure Unit) (o : ResourceOracle) (os : Os) :
    Outcome Failure (Resources × Os) :=
  let f : Frame := { os }
  if cfg.mqsEnabled then
    match f.makeChannelMqs c2s s2c o with
    | (false, f) => .done (f.ret false)
    | (true, f) => do
      let (e, f) ← f.makeChannel cfg nickname ask o
      match e with
      | some _ => return f.cleanUp.ret false
      | none => return f.ret true
  else do
    let (e, f) ← f.makeSockStm o.connectPair ask
    match e with
    | some _ => return f.ret false
    | none => return (f.constructChannel nickname none).2.ret true

namespace Server

/-- The function as this session calls it. -/
def createChannelAndResourcesOn (cfg : Cfg) (active : Bool) (o : ResourceOracle) (os : Os)
    (s : Server) : Outcome Failure (Resources × Os) :=
  IpcSession.createChannelAndResourcesOn cfg (s.nextNickname active).1 (s.nextMqName cfg true)
    (s.nextMqName cfg false) (assertPeerCreds o.peerCreds s.toSession) o os

end Server

/-! ### The two descriptions agree -/

/-- What the environment decides, with the refusals of the system counted in. -/
def ResourceOracle.on (os : Os) (c2s s2c : SharedName) (o : ResourceOracle) : ResourceOracle :=
  { o with
    mqC2s := (os.createMq o.mqC2s c2s).1
    mqS2c := ((os.createMq o.mqC2s c2s).2.createMq o.mqS2c s2c).1 }

namespace Server

variable {cfg : Cfg} {s : Server}

/-- Giving out a nickname leaves the names of the MQs, the number of the next pair and the channel
    alone. -/
theorem nextNickname_names (cfg : Cfg) (active c2s : Bool) (s : Server) :
    (s.setSession (s.nextNickname active).2).nextMqName cfg c2s = s.nextMqName cfg c2s ∧
      (s.setSession (s.nextNickname active).2).nextPair = s.nextPair ∧
      (s.setSession (s.nextNickname active).2).masterChannel = s.masterChannel := by
  cases active <;> exact ⟨rfl, rfl, rfl⟩

/-- What `make_channel_mqs()` yields: the two names if both MQs can be made. -/
theorem makeChannelMqs_fst (cfg : Cfg) (o : ResourceOracle) (s : Server) :
    (s.makeChannelMqs cfg o).1 =
        (if o.mqC2s = none ∧ o.mqS2c = none then
          some (s.nextMqName cfg true, s.nextMqName cfg false) else none) ∧
      (s.makeChannelMqs cfg o).2.nextPair = s.nextPair ∧
      (s.makeChannelMqs cfg o).2.masterChannel = s.masterChannel := by
  obtain ⟨es, hadds, -⟩ := (makeChannelMqs_onlyResources cfg o s).session
  refine ⟨?_, ?_, hadds.frame.1⟩ <;> simp only [makeChannelMqs] <;> cases o.mqC2s with
    | some e => rfl
    | none => cases o.mqS2c <;> rfl

/-- What the function comes to, without the state that it leaves. -/
def returned {α : Type} (x : Outcome Failure (Resources × α)) : Outcome Failure Resources := do
  let (r, _) ← x
  return r

/-- What a call that returns comes to. -/
@[simp] theorem returned_done {α : Type} (r : Resources) (a : α) :
    returned (.done (r, a)) = .done r := rfl

/-- What one that fails an assertion does. -/
@[simp] theorem returned_failed {α : Type} (e : Failure) :
    returned (.failed e : Outcome Failure (Resources × α)) = .failed e := rfl

/-- The query and its assertion depend on the channel alone. -/
theorem assertPeerCreds_congr {e : ErrorCode} {b b' : Session}
    (h : b'.masterChannel = b.masterChannel) : assertPeerCreds e b' = assertPeerCreds e b := by
  rw [assertPeerCreds, assertPeerCreds, h]

/-- The assertion holds, or it ends the program. -/
theorem assertPeerCreds_cases (e : ErrorCode) (b : Session) :
    assertPeerCreds e b = .done () ∨ ∃ f, assertPeerCreds e b = .failed f := by
  cases hm : b.masterChannel with
  | none => exact .inr ⟨.nullMasterChannel, by simp [assertPeerCreds, hm, Outcome.check]⟩
  | some ch =>
    cases e with
    | none => exact .inl (by simp [assertPeerCreds, hm, Outcome.check])
    | some e => exact .inr ⟨.noPeerCreds, by simp [assertPeerCreds, hm, Outcome.check]⟩

/-- With both MQs there: with sockets or without, the channel is made or not. -/
theorem constructMqsChannel_eq {nickname : Nickname} {c2s s2c : SharedName} {o : ResourceOracle}
    {f : Frame} (hf : f = ⟨f.os, none, none, c2s, s2c, some c2s, some s2c, none⟩)
    (hp : s.nextPair = f.os.nextPair) :
    returned (do
        let (e, f) ← f.makeChannel cfg nickname (assertPeerCreds o.peerCreds s.toSession) o
        match e with
        | some _ => return f.cleanUp.ret false
        | none => return f.ret true) =
      returned (s.constructMqsChannel cfg nickname c2s s2c o) := by
  generalize f.os = os at hf hp
  subst hf
  have hask := assertPeerCreds_cases o.peerCreds s.toSession
  simp only [Frame.makeChannel, constructMqsChannel]
  rcases Bool.eq_false_or_eq_true cfg.socketStreamEnabled with hk | hk
  · rcases Option.eq_none_or_eq_some o.connectPair with hc | ⟨e, hc⟩
    · rcases hask with ha | ⟨e, ha⟩
      · rcases Option.eq_none_or_eq_some o.channel with hn | ⟨e, hn⟩ <;>
          simp [Frame.makeSockStm, Os.connectPair, Frame.constructChannel, Frame.cleanUp,
            Frame.closeOwned, Frame.ret, makeSockStm, hk, hc, hn, ha, hp]
      · simp [Frame.makeSockStm, Os.connectPair, makeSockStm, hk, hc, ha]
    · simp [Frame.makeSockStm, Os.connectPair, Frame.cleanUp, Frame.closeOwned, Frame.ret,
        makeSockStm, hk, hc]
  · rcases Option.eq_none_or_eq_some o.channel with hn | ⟨e, hn⟩ <;>
      simp [Frame.constructChannel, Frame.cleanUp, Frame.closeOwned, Frame.ret, hk, hn]

/-- The channel of a socket pair alone. -/
theorem constructSockChannel_eq {nickname : Nickname} {o : ResourceOracle} {os : Os}
    (hp : s.nextPair = os.nextPair) :
    returned (do
        let (e, f) ← ({ os } : Frame).makeSockStm o.connectPair
          (assertPeerCreds o.peerCreds s.toSession)
        match e with
        | some _ => return f.ret false
        | none => return (f.constructChannel nickname none).2.ret true) =
      returned (s.constructSockChannel nickname o) := by
  simp only [constructSockChannel]
  rcases Option.eq_none_or_eq_some o.connectPair with hc | ⟨e, hc⟩
  · rcases assertPeerCreds_cases o.peerCreds s.toSession with ha | ⟨e, ha⟩
    · simp [Frame.makeSockStm, Os.connectPair, Frame.constructChannel, Frame.ret,
        makeSockStm, hc, ha,
        hp]
    · simp [Frame.makeSockStm, Os.connectPair, makeSockStm, hc, ha]
  · simp [Frame.makeSockStm, Os.connectPair, Frame.ret, makeSockStm, hc]

/-- **The two descriptions agree** on whether the function returns, on what it returns and on what
    the out-arguments hold. -/
theorem createChannelAndResourcesOn_eq (cfg : Cfg) (active : Bool) (o : ResourceOracle) (os : Os)
    (s : Server) (hp : os.nextPair = s.nextPair) :
    returned (s.createChannelAndResourcesOn cfg active o os) =
      returned (s.createChannelAndResources cfg active
        (o.on os (s.nextMqName cfg true) (s.nextMqName cfg false))) := by
  obtain ⟨hc2s, hpair, hch⟩ := nextNickname_names cfg active true s
  have hs2c := (nextNickname_names cfg active false s).1
  have hpair := hpair.trans hp.symm
  simp only [createChannelAndResourcesOn, IpcSession.createChannelAndResourcesOn,
    createChannelAndResources]
  generalize s.setSession (s.nextNickname active).2 = s₀ at hc2s hs2c hpair hch
  rw [← assertPeerCreds_congr hch]
  by_cases hm : cfg.mqsEnabled = true
  · simp only [hm, if_true]
    have hmqs := makeChannelMqs_fst cfg (o.on os (s.nextMqName cfg true) (s.nextMqName cfg false))
        s₀
    generalize makeChannelMqs cfg _ s₀ = made at hmqs ⊢
    obtain ⟨names, s₁⟩ := made
    obtain ⟨hnames, hp₁, hch₁⟩ := hmqs
    rw [hc2s, hs2c] at hnames
    rw [← assertPeerCreds_congr hch₁]
    simp only [ResourceOracle.on] at hnames
    simp only [Frame.makeChannelMqs]
    -- The first MQ fails, or it is made and the second one is tried.
    rcases Os.createMq_cases o.mqC2s (s.nextMqName cfg true) os with ⟨-, e, h₁⟩ | ⟨-, h₁⟩
    · obtain rfl : names = none := by simpa [h₁] using hnames
      simp [h₁, Frame.ret]
    · simp only [h₁] at hnames ⊢
      generalize hos : ({ os with mqs := s.nextMqName cfg true :: os.mqs } : Os) = os₁ at hnames
      have hp₂ : os₁.nextPair = os.nextPair := by rw [← hos]
      rcases Os.createMq_cases o.mqS2c (s.nextMqName cfg false) os₁ with ⟨-, e, h₂⟩ | ⟨-, h₂⟩
      · obtain rfl : names = none := by simpa [h₂] using hnames
        simp [h₂, Frame.ret]
      · obtain rfl : names = some (s.nextMqName cfg true, s.nextMqName cfg false) := by
          simpa [h₂] using hnames
        simp only [h₂]
        exact constructMqsChannel_eq rfl ((hp₁.trans hpair).trans hp₂.symm)
  · simp only [hm, Bool.false_eq_true, if_false]
    exact constructSockChannel_eq hpair

/-! ### All or nothing -/

/-- Success leaves both MQs under the names returned, and the two open ends of one socket pair;
    failure leaves the system and the out-arguments as they were. -/
structure AllOrNothing (cfg : Cfg) (os : Os) (r : Resources) (os' : Os) : Prop where
  mqs : r.ok = true → cfg.mqsEnabled = true →
    r.mqNameC2s ≠ r.mqNameS2c ∧ r.mqNameC2s ∈ os'.mqs ∧ r.mqNameS2c ∈ os'.mqs ∧
      ∃ ch, r.opened = some ch ∧ ch.mqOut = some r.mqNameS2c ∧ ch.mqIn = some r.mqNameC2s
  socks : r.ok = true → cfg.socketStreamEnabled = true →
    ∃ (ch : ChannelObj) (pair : Nat), r.opened = some ch ∧ ch.sock = some ⟨pair, false⟩ ∧
      r.remoteHndl = some ⟨pair, true⟩ ∧ ⟨pair, false⟩ ∈ os'.fds ∧ ⟨pair, true⟩ ∈ os'.fds
  mqsRemoved : r.ok = false → os'.mqs = os.mqs
  fdsClosed : r.ok = false → os'.fds = os.fds
  outArgs : r.ok = false → r = ⟨false, none, none, [], []⟩

/-- Both MQs can be made. -/
def MakesMqs (cfg : Cfg) (o : ResourceOracle) (os : Os) (s : Server) : Prop :=
  (o.mqC2s = none ∧ s.nextMqName cfg true ∉ os.mqs) ∧
    (o.mqS2c = none ∧ s.nextMqName cfg false ∉ os.mqs)

/-- The pair is made, and then the query for the credentials of the opposing process fails. -/
def AsksInVain (cfg : Cfg) (o : ResourceOracle) (os : Os) (s : Server) : Prop :=
  cfg.socketStreamEnabled = true ∧ (cfg.mqsEnabled = true → MakesMqs cfg o os s) ∧
    o.connectPair = none ∧ assertPeerCreds o.peerCreds s.toSession ≠ .done ()

/-- Both MQs can be made, and then the socket pair or the channel cannot. -/
def FailsLate (cfg : Cfg) (o : ResourceOracle) (os : Os) (s : Server) : Prop :=
  cfg.mqsEnabled = true ∧ MakesMqs cfg o os s ∧
    (cfg.socketStreamEnabled = true ∧ o.connectPair ≠ none ∨ o.channel ≠ none)

/-- A name of an MQ is not empty. -/
theorem nextMqName_ne_nil (cfg : Cfg) (s : Server) (c2s : Bool) : s.nextMqName cfg c2s ≠ [] := by
  rw [nextMqName, SharedName.channelMqName_eq]
  simp

/-- The names of the two directions differ. -/
theorem nextMqName_ne (cfg : Cfg) (s : Server) :
    s.nextMqName cfg false ≠ s.nextMqName cfg true :=
  Ne.symm (SharedName.channelMqName_c2s_ne_s2c _ _ _ _ _)

section

variable {active : Bool} {o : ResourceOracle} {os : Os}

/-- `make_channel_mqs()` where both MQs can be made. -/
theorem MakesMqs.makeChannelMqs (h : MakesMqs cfg o os s) :
    ({ os } : Frame).makeChannelMqs (s.nextMqName cfg true) (s.nextMqName cfg false) o =
      (true, {
        os := { os with mqs := s.nextMqName cfg false :: s.nextMqName cfg true :: os.mqs }
        mqC2s := some (s.nextMqName cfg true)
        mqS2c := some (s.nextMqName cfg false)
        mqNameC2sOrNone := s.nextMqName cfg true
        mqNameS2cOrNone := s.nextMqName cfg false }) := by
  obtain ⟨⟨h₁, hn₁⟩, ⟨h₂, hn₂⟩⟩ := h
  simp [Frame.makeChannelMqs, h₁, h₂, Os.createMq, hn₁, hn₂, nextMqName_ne cfg s]

/-- A query in vain ends the program. -/
theorem AsksInVain.fails (h : AsksInVain cfg o os s) :
    ∃ e, s.createChannelAndResourcesOn cfg active o os = .failed e := by
  obtain ⟨hk, hmqs, hc, ha⟩ := h
  obtain ⟨e, ha⟩ := (assertPeerCreds_cases o.peerCreds s.toSession).resolve_left ha
  refine ⟨e, ?_⟩
  simp only [createChannelAndResourcesOn, IpcSession.createChannelAndResourcesOn]
  by_cases hm : cfg.mqsEnabled = true
  · simp [hm, (hmqs hm).makeChannelMqs, Frame.makeChannel, hk, Frame.makeSockStm,
      Os.connectPair, hc,
      ha]
  · simp [hm, Frame.makeSockStm, Os.connectPair, hc, ha]

/-- A query that is made is not in vain. -/
theorem assertPeerCreds_of_not (h : ¬ AsksInVain cfg o os s) (hk : cfg.socketStreamEnabled = true)
    (hmqs : cfg.mqsEnabled = true → MakesMqs cfg o os s) (hc : o.connectPair = none) :
    assertPeerCreds o.peerCreds s.toSession = .done () := by
  by_contra ha
  exact h ⟨hk, hmqs, hc, ha⟩

/-- On a late failure the names stay in the out-arguments. -/
theorem FailsLate.names (active : Bool) (h : FailsLate cfg o os s)
    (hv : ¬ AsksInVain cfg o os s) :
    ∃ r os', s.createChannelAndResourcesOn cfg active o os = .done (r, os') ∧ r.ok = false ∧
      r.mqNameC2s = s.nextMqName cfg true := by
  obtain ⟨hm, hmqs, hlate⟩ := h
  simp only [createChannelAndResourcesOn, IpcSession.createChannelAndResourcesOn, hm, if_true,
    hmqs.makeChannelMqs, Frame.makeChannel]
  rcases Bool.eq_false_or_eq_true cfg.socketStreamEnabled with hk | hk
  · rcases Option.eq_none_or_eq_some o.connectPair with hc | ⟨e, hc⟩
    · obtain ⟨e, hn⟩ := Option.ne_none_iff_exists'.mp (hlate.resolve_left (by simp [hc]))
      simp [Frame.makeSockStm, Os.connectPair, Frame.constructChannel, Frame.cleanUp,
        Frame.closeOwned, Frame.ret, hk, hc, hn, assertPeerCreds_of_not hv hk (fun _ => hmqs) hc]
    · simp [Frame.makeSockStm, Os.connectPair, Frame.cleanUp, Frame.closeOwned, Frame.ret, hk, hc]
  · obtain ⟨e, hn⟩ := Option.ne_none_iff_exists'.mp (hlate.resolve_left (by simp [hk]))
    simp [Frame.constructChannel, Frame.cleanUp, Frame.closeOwned, Frame.ret, hk, hn]

/-- Nothing has been made, and nothing is left. -/
theorem AllOrNothing.nothing {os os' : Os} (hm : os'.mqs = os.mqs) (hf : os'.fds = os.fds) :
    AllOrNothing cfg os ⟨false, none, none, [], []⟩ os' where
  mqs := fun h => absurd h Bool.false_ne_true
  socks := fun h => absurd h Bool.false_ne_true
  mqsRemoved := fun _ => hm
  fdsClosed := fun _ => hf
  outArgs := fun _ => rfl

/-- All that is configured has been made. -/
theorem AllOrNothing.all {os os' : Os} {ch : ChannelObj} {hndl : Option NativeHandle}
    {c2s s2c : SharedName}
    (hm : cfg.mqsEnabled = true → c2s ≠ s2c ∧ c2s ∈ os'.mqs ∧ s2c ∈ os'.mqs ∧
      ch.mqOut = some s2c ∧ ch.mqIn = some c2s)
    (hs : cfg.socketStreamEnabled = true → ∃ pair, ch.sock = some ⟨pair, false⟩ ∧
      hndl = some ⟨pair, true⟩ ∧ ⟨pair, false⟩ ∈ os'.fds ∧ ⟨pair, true⟩ ∈ os'.fds) :
    AllOrNothing cfg os ⟨true, some ch, hndl, c2s, s2c⟩ os' where
  mqs := fun _ h => by
    obtain ⟨hne, hc, hs2c, hout, hin⟩ := hm h
    exact ⟨hne, hc, hs2c, ch, rfl, hout, hin⟩
  socks := fun _ h => by
    obtain ⟨pair, hsock, hhndl, hlocal, hremote⟩ := hs h
    exact ⟨ch, pair, rfl, hsock, hhndl, hlocal, hremote⟩
  mqsRemoved := fun h => absurd h.symm Bool.false_ne_true
  fdsClosed := fun h => absurd h.symm Bool.false_ne_true
  outArgs := fun h => absurd h.symm Bool.false_ne_true

/-- With both MQs there, and nothing in the way, the channel is made of all that there is. -/
theorem MakesMqs.allOrNothing (hmqs : MakesMqs cfg o os s) (hm : cfg.mqsEnabled = true)
    (hv : ¬ AsksInVain cfg o os s)
    (hc : cfg.socketStreamEnabled = true → o.connectPair = none) (hn : o.channel = none) :
    ∃ r os', s.createChannelAndResourcesOn cfg active o os = .done (r, os') ∧
      AllOrNothing cfg os r os' := by
  have hne := (nextMqName_ne cfg s).symm
  simp only [createChannelAndResourcesOn, IpcSession.createChannelAndResourcesOn, hm, if_true,
    hmqs.makeChannelMqs, Frame.makeChannel]
  rcases Bool.eq_false_or_eq_true cfg.socketStreamEnabled with hk | hk
  · simp only [hk, if_true, Frame.makeSockStm, Os.connectPair, hc hk, Frame.constructChannel, hn,
      Frame.ret, Frame.closeOwned, assertPeerCreds_of_not hv hk (fun _ => hmqs) (hc hk),
      Outcome.done_bind, Outcome.pure_eq]
    exact ⟨_, _, rfl, .all (fun _ => ⟨hne, by simp [Os.addPair], by simp [Os.addPair], rfl, rfl⟩)
      fun _ => ⟨os.nextPair, rfl, rfl, by simp [Os.addPair], by simp [Os.addPair]⟩⟩
  · simp only [hk, Bool.false_eq_true, if_false, Frame.constructChannel, hn, Frame.ret,
      Frame.closeOwned, Outcome.done_bind, Outcome.pure_eq]
    exact ⟨_, _, rfl, .all (fun _ => ⟨hne, by simp, by simp, rfl, rfl⟩)
      fun hs => absurd (hk.symm.trans hs) Bool.false_ne_true⟩

/-- An MQ that cannot be made takes the other one with it. -/
theorem allOrNothing_mqsFail (active : Bool) (hm : cfg.mqsEnabled = true)
    (hmqs : ¬ MakesMqs cfg o os s) :
    ∃ r os', s.createChannelAndResourcesOn cfg active o os = .done (r, os') ∧
      AllOrNothing cfg os r os' := by
  simp only [createChannelAndResourcesOn, IpcSession.createChannelAndResourcesOn, hm, if_true,
    Frame.makeChannelMqs]
  rcases Os.createMq_cases o.mqC2s (s.nextMqName cfg true) os with ⟨-, e, h₁⟩ | ⟨hc2s, h₁⟩
  · simp only [h₁]
    exact ⟨_, _, rfl, .nothing rfl rfl⟩
  · -- the first MQ is there, so the second one is not, and the first one is removed again
    simp only [h₁]
    generalize hos : ({ os with mqs := s.nextMqName cfg true :: os.mqs } : Os) = os₁
    have hl : os₁.mqs = s.nextMqName cfg true :: os.mqs := by rw [← hos]
    have hfds : os₁.fds = os.fds := by rw [← hos]
    rcases Os.createMq_cases o.mqS2c (s.nextMqName cfg false) os₁ with ⟨-, e, h₂⟩ | ⟨hs2c, -⟩
    · simp only [h₂]
      exact ⟨_, _, rfl, .nothing (Os.removeMq_cons hl hc2s.2) hfds⟩
    · exact absurd ⟨hc2s, hs2c.1, fun hmem => hs2c.2 (hl ▸ List.mem_cons_of_mem _ hmem)⟩ hmqs

/-- Without MQs the channel is made of the socket pair alone. -/
theorem allOrNothing_sockOnly (active : Bool) (hm : ¬ cfg.mqsEnabled = true)
    (hv : ¬ AsksInVain cfg o os s) :
    ∃ r os', s.createChannelAndResourcesOn cfg active o os = .done (r, os') ∧
      AllOrNothing cfg os r os' := by
  have hk : cfg.socketStreamEnabled = true := by simp [Cfg.socketStreamEnabled, hm]
  simp only [createChannelAndResourcesOn, IpcSession.createChannelAndResourcesOn, hm,
    Bool.false_eq_true, if_false]
  rcases Option.eq_none_or_eq_some o.connectPair with hc | ⟨e, hc⟩
  · simp only [Frame.makeSockStm, Os.connectPair, hc, Frame.constructChannel, Frame.ret,
      Frame.closeOwned, assertPeerCreds_of_not hv hk (fun h => absurd h hm) hc, Outcome.done_bind,
      Outcome.pure_eq]
    exact ⟨_, _, rfl, .all (fun h => absurd h hm)
      fun _ => ⟨os.nextPair, rfl, rfl, by simp [Os.addPair], by simp [Os.addPair]⟩⟩
  · simp only [Frame.makeSockStm, Os.connectPair, hc, Outcome.done_bind, Outcome.pure_eq]
    exact ⟨_, _, rfl, .nothing rfl rfl⟩

/-- Short of a late failure the function does all or nothing. -/
theorem allOrNothing_of_not (active : Bool) (h : ¬ FailsLate cfg o os s)
    (hv : ¬ AsksInVain cfg o os s) :
    ∃ r os', s.createChannelAndResourcesOn cfg active o os = .done (r, os') ∧
      AllOrNothing cfg os r os' := by
  by_cases hm : cfg.mqsEnabled = true
  · by_cases hmqs : MakesMqs cfg o os s
    · -- what is left is made without an error
      have hlate : ¬ (cfg.socketStreamEnabled = true ∧ o.connectPair ≠ none ∨ o.channel ≠ none) :=
        fun hl => h ⟨hm, hmqs, hl⟩
      simp only [ne_eq, not_or, not_and, not_not] at hlate
      exact hmqs.allOrNothing hm hv hlate.1 hlate.2
    · exact allOrNothing_mqsFail active hm hmqs
  · exact allOrNothing_sockOnly active hm hv

end

/-- **All or nothing**, unless a step fails after both MQs have been made: the two names, and the
    remote handle if there is one, then stay in the out-arguments.  The function returns wherever it
    does not ask for the credentials of the opposing process in vain. -/
theorem allOrNothing_iff (cfg : Cfg) (active : Bool) (o : ResourceOracle) (os : Os) (s : Server) :
    (AsksInVain cfg o os s ∧ ∃ e, s.createChannelAndResourcesOn cfg active o os = .failed e) ∨
      (¬ AsksInVain cfg o os s ∧ ∃ r os',
        s.createChannelAndResourcesOn cfg active o os = .done (r, os') ∧
          (AllOrNothing cfg os r os' ↔ ¬ FailsLate cfg o os s)) := by
  by_cases hv : AsksInVain cfg o os s
  · exact .inl ⟨hv, hv.fails⟩
  · refine .inr ⟨hv, ?_⟩
    by_cases hl : FailsLate cfg o os s
    · obtain ⟨r, os', hd, hok, hname⟩ := hl.names active hv
      refine ⟨r, os', hd, fun hall => ?_, fun h => absurd hl h⟩
      have hblank := hall.outArgs hok
      rw [hblank] at hname
      exact absurd hname.symm (nextMqName_ne_nil cfg s true)
    · obtain ⟨r, os', hd, hall⟩ := allOrNothing_of_not active hl hv
      exact ⟨r, os', hd, fun _ => hl, fun _ => hall⟩

/-- With MQs and sockets, a `Channel_obj` that cannot be constructed leaves the names and the remote
    handle behind, and the remote descriptor open. -/
theorem not_allOrNothing_channelFails :
    ¬ ∀ (cfg : Cfg) (active : Bool) (o : ResourceOracle) (os : Os) (s : Server) (r : Resources)
      (os' : Os), s.createChannelAndResourcesOn cfg active o os = .done (r, os') →
        AllOrNothing cfg os r os' := by
  intro hall
  have h := hall .sampleWithMqs true { channel := some (.other 24) } ⟨[], [], 0, by simp⟩
    { constructed ['7'] with masterChannel := some (.fresh 0 true) } _ _ rfl
  have hfds := h.fdsClosed (by decide)
  revert hfds
  decide

end Server

end IpcSession
