import IpcSession.Client.Calls
import IpcSession.Client.Errors
import IpcSession.Client.Gone
import IpcSession.Client.Pending

namespace IpcSession

/-!
# Connects that a sub-class takes over

A sub-class can go back from PEER state to CONNECTING, and complete the connect later on.

* `Client.HandlerNotes` — what an observer notes of the user's handlers, and of the channel's error
  while the client is CONNECTING.
* `Session.Mild` — what code does that runs no handler of the user's.
* `Client.Moves` — what a step outside of PEER state does.
* `Client.handlersInPeer_of_kept` — in every run in which no request for an open channel reaches the
  user before PEER state, **the user's handlers are run in PEER state only, and a connect whose
  channel has failed ends**.
* `Client.not_handlersInPeer_takenOver` — such a request can hose the session while CONNECTING.
-/

/-- The on-error handler or the passive-open handler is run. -/
def Event.runsHandler : Event → Bool
  | onErr .. => true
  | passiveOpen .. => true
  | _ => false

/-- The marks of what runs a handler. -/
def Mark.runsHandler : Mark → Bool
  | hose .. => true
  | call e => e.runsHandler
  | _ => false

namespace Session

variable {s s' s'' : Session} {l : Option Mark} {L : Mark → Prop} {ch ch' : MasterChannel}

/-- What code does that runs no handler of the user's: the channel can fail, but not recover. -/
structure Mild (s s' : Session) : Prop where
  log : ∃ es, s'.log = s.log ++ es ∧ (∀ e ∈ es, e.connectCode = none ∧ e.runsHandler = false) ∧
    (es.any Event.isChannelError = true → s'.channelHosed = true)
  hosed : s.channelHosed = true → s'.channelHosed = true
  ok : s'.peerStateErrCodeOrOk = s.peerStateErrCodeOrOk
  srvNamespace : s'.srvNamespace = s.srvNamespace
  channel : s'.masterChannel.isSome = s.masterChannel.isSome

namespace Mild

theorem trans (h : Mild s s') (h' : Mild s' s'') : Mild s s'' where
  log := by
    obtain ⟨es, hl, he, hh⟩ := h.log
    obtain ⟨es', hl', he', hh'⟩ := h'.log
    refine ⟨es ++ es', by rw [hl', hl, List.append_assoc], fun e hm => ?_, fun ha => ?_⟩
    · exact (List.mem_append.mp hm).elim (he e) (he' e)
    · rw [List.any_append, Bool.or_eq_true] at ha
      exact ha.elim (fun ha => h'.hosed (hh ha)) hh'
  hosed := h'.hosed ∘ h.hosed
  ok := h'.ok.trans h.ok
  srvNamespace := h'.srvNamespace.trans h.srvNamespace
  channel := h'.channel.trans h.channel

/-- Nothing is recorded, and what it speaks of stays. -/
theorem of_same (hl : s'.log = s.log) (hm : s'.masterChannel = s.masterChannel)
    (ho : s'.peerStateErrCodeOrOk = s.peerStateErrCodeOrOk)
    (hn : s'.srvNamespace = s.srvNamespace) :
    Mild s s' where
  log := ⟨[], by rw [hl, List.append_nil], (fun e he => by cases he), fun ha => by cases ha⟩
  hosed := fun hh => by rw [channelHosed, hm]; exact hh
  ok := ho
  srvNamespace := hn
  channel := by rw [hm]

theorem refl (s : Session) : Mild s s := .of_same rfl rfl rfl rfl

/-- One event is recorded, which is no error of the channel. -/
theorem of_event {e : Event} (hl : s'.log = s.log ++ [e]) (hc : e.connectCode = none)
    (hr : e.runsHandler = false) (he : e.isChannelError = false)
    (hm : s'.masterChannel.map (·.hosed) = s.masterChannel.map (·.hosed))
    (ho : s'.peerStateErrCodeOrOk = s.peerStateErrCodeOrOk)
    (hn : s'.srvNamespace = s.srvNamespace) :
    Mild s s' where
  log := by
    refine ⟨[e], hl, fun x hx => ?_, fun ha => ?_⟩
    · rw [List.mem_singleton.mp hx]
      exact ⟨hc, hr⟩
    · rw [List.any_cons, List.any_nil, Bool.or_false, he] at ha
      cases ha
  hosed := fun hh => by
    have key : ∀ b : Session, b.channelHosed = (b.masterChannel.map (·.hosed)).any id := by
      intro b
      unfold channelHosed
      cases b.masterChannel <;> rfl
    rw [key, hm, ← key]
    exact hh
  ok := ho
  srvNamespace := hn
  channel := by
    have hs := congrArg Option.isSome hm
    simpa only [Option.isSome_map] using hs

/-- Another member of the channel changes. -/
theorem of_channel (hl : s'.log = s.log) (hm : s.masterChannel = some ch)
    (hm' : s'.masterChannel = some ch') (hh : ch'.hosed = ch.hosed)
    (ho : s'.peerStateErrCodeOrOk = s.peerStateErrCodeOrOk)
    (hn : s'.srvNamespace = s.srvNamespace) :
    Mild s s' where
  log := ⟨[], by rw [hl, List.append_nil], (fun e he => by cases he), fun ha => by cases ha⟩
  hosed := fun hh' => by
    simp only [channelHosed, hm, hm', Option.any_some] at hh' ⊢
    exact hh.trans hh'
  ok := ho
  srvNamespace := hn
  channel := by rw [hm, hm']; rfl

/-- The channel fails. -/
theorem of_error {via : Bool} {e : Err} (hl : s'.log = s.log ++ [.channelError via e])
    (hm : s.masterChannel = some ch) (hm' : s'.masterChannel = some { ch with hosed := true })
    (ho : s'.peerStateErrCodeOrOk = s.peerStateErrCodeOrOk)
    (hn : s'.srvNamespace = s.srvNamespace) :
    Mild s s' where
  log := by
    refine ⟨[.channelError via e], hl, fun x hx => ?_, fun _ => ?_⟩
    · rw [List.mem_singleton.mp hx]
      exact ⟨rfl, rfl⟩
    · rw [channelHosed, hm']
      rfl
  hosed := fun _ => by
    rw [channelHosed, hm']
    rfl
  ok := ho
  srvNamespace := hn
  channel := by rw [hm, hm']; rfl

end Mild

/-- What runs a handler bears a mark of it. -/
theorem Update.mild (h : Update s l s') (hl : ∀ k, l = some k → k.runsHandler = false) :
    Mild s s' := by
  -- Most updates touch neither the log nor the channel.
  have same : ∀ {x : Session}, x.log = s.log → x.masterChannel = s.masterChannel →
      x.peerStateErrCodeOrOk = s.peerStateErrCodeOrOk → x.srvNamespace = s.srvNamespace →
        Mild s x :=
    fun hl hm ho hn => .of_same hl hm ho hn
  cases h with
  | @record e he =>
    have hr : e.runsHandler = false := hl _ rfl
    refine .of_event rfl ?_ hr ?_ rfl rfl rfl
    · exact Event.connectCode_of_isCommon (Event.isCommon_of_isPlain he)
    · cases e <;> first | rfl | cases he
  | nickname active => cases active <;> exact same rfl rfl rfl rfl
  | giveBuilder call hb => exact .of_event rfl rfl rfl rfl rfl rfl rfl
  | takeBuilder hd =>
    obtain ⟨-, rfl⟩ := takeBuilder_done hd
    exact same rfl rfl rfl rfl
  | useBuilder hd =>
    obtain ⟨-, rfl⟩ := takeBuilder_done hd
    exact same rfl rfl rfl rfl
  | emitHosed hp hc =>
    -- Reporting the hosing error runs a handler, which the hypothesis rules out.
    have hno := hl _ rfl
    cases hno
  | emitError hm hh e => exact .of_error rfl hm rfl rfl rfl
  | failCall hm hh e => exact .of_error rfl hm rfl rfl rfl
  | transmit hm hh m => exact .of_event rfl rfl rfl rfl (by rw [hm]; rfl) rfl rfl
  | flushTo hm hh => exact .of_channel rfl hm rfl rfl rfl rfl
  | undoExpect hm hh => exact .of_channel rfl hm rfl rfl rfl rfl
  | expectEnd hm hh => exact .of_channel rfl hm rfl rfl rfl rfl
  | takeEnd hm hh hc => exact .of_channel rfl hm rfl rfl rfl rfl
  | cache hm hh hr => exact .of_channel rfl hm rfl rfl rfl rfl
  | gotLogInReq hm hh hr he hb => exact .of_channel rfl hm rfl rfl rfl rfl
  | gotLogInRsp hm hh hr he => exact .of_channel rfl hm rfl rfl rfl rfl
  | gotEnd hm hh hr he hb => exact .of_channel rfl hm rfl rfl rfl rfl
  | takeTask hdt hd =>
    obtain ⟨-, -, hs⟩ := takeTask_done hd
    exact same (by rw [hs]) (by rw [hs]) (by rw [hs]) (by rw [hs])
  | _ => exact same rfl rfl rfl rfl

/-- Updates that run no handler. -/
theorem Updates.mild (h : Updates L s s') (hL : ∀ k, L k → k.runsHandler = false) : Mild s s' :=
  h.keeps (P := Mild s) (.refl s) fun _ _ _ hb hl hu =>
    hb.trans (hu.mild fun k hk => hL k (hl k hk))

/-- A task leaves the queue. -/
theorem takeTask_mild {t : Task} (hd : s.takeTask = .done (t, s')) : Mild s s' := by
  obtain ⟨-, -, hs⟩ := takeTask_done hd
  exact .of_same (by rw [hs]) (by rw [hs]) (by rw [hs]) (by rw [hs])

/-- What the destructor does in thread U. -/
theorem DtorAct.mild (h : s.DtorAct s') : Mild s s' := by
  cases h <;> exact .of_same rfl rfl rfl rfl

end Session

/-- What an observer notes of the user's handlers and of channels that fail. -/
structure HandlerNotes where
  /-- The handlers of the user's that were run outside of PEER state. -/
  early : List Event := []
  /-- Once the channel has failed while CONNECTING: the codes that the completion handler has been
      run with since. -/
  failed : Option (List ErrorCode) := none
  deriving DecidableEq, Repr

namespace Client

variable {cfg : Cfg} {s s₁ s' t : Client} {o : ClientOracle} {f : OnDone} {a : Act} {counts : Prop}
  {passiveOpen : Bool}

/-! ### The observer -/

/-- The client is CONNECTING while the step uses the channel: a sub-class that completes a connect
    enters PEER state first. -/
def usesConnecting (s : Client) : Act → Bool
  | .complete .. => false
  | act => s.state = .connecting || s.startsConnect act

/-- The observer takes its notes. -/
def takeHandlerNotes (cfg : Cfg) (s : Client) (act : Act) (n : HandlerNotes) : HandlerNotes :=
  match step cfg s act with
  | .done s' =>
    let es := s'.log.drop s.log.length
    { early := n.early ++ if s.state = .peer then [] else es.filter Event.runsHandler
      failed :=
        if n.failed.isSome || s.usesConnecting act && es.any Event.isChannelError then
          some (n.failed.getD [] ++ es.filterMap Event.connectCode)
        else none }
  | _ => n

/-! ### What a step outside of PEER state does -/

/-- What is recorded from `s` to `s'`: no handler of the user's, these codes, and whether the
    channel failed. -/
def Tells (s s' : Client) (codes : List ErrorCode) (fails : Bool) : Prop :=
  ∃ es, s'.log = s.log ++ es ∧ es.filter Event.runsHandler = [] ∧
    es.filterMap Event.connectCode = codes ∧ es.any Event.isChannelError = fails

/-- Mild code runs no handler and ends no attempt. -/
theorem tells_of_mild {u : Client} (h : s.toSession.Mild u.toSession) :
    ∃ fails, Tells s u [] fails ∧ (fails = true → u.channelHosed = true) := by
  obtain ⟨es, hl, he, hh⟩ := h.log
  refine ⟨_, ⟨es, hl, ?_, ?_, rfl⟩, hh⟩
  · exact List.filter_eq_nil_iff.mpr fun e hm => by rw [(he e hm).2]; exact fun hn => by cases hn
  · exact List.filterMap_eq_nil_iff.mpr fun e hm => (he e hm).1

/-- The attempt ends after that. -/
theorem Tells.snoc {fails : Bool} {e : ErrorCode} {out : OutArgs} (h : Tells s s₁ [] fails)
    (hl : s'.log = s₁.log ++ [.connectDone e out]) : Tells s s' [e] fails := by
  obtain ⟨es, hl₁, hr, hc, hf⟩ := h
  refine ⟨es ++ [.connectDone e out], by rw [hl, hl₁, List.append_assoc], ?_, ?_, ?_⟩
  · rw [List.filter_append, hr]
    rfl
  · rw [List.filterMap_append, hc]
    rfl
  · rw [List.any_append, hf, List.any_cons, List.any_nil]
    exact Bool.or_false _

/-- What a step outside of PEER state does; `counts` says that the channel, if it fails, does so
    while CONNECTING. -/
inductive Moves (counts : Prop) (s s' : Client) : Prop
  | stays (hs' : s'.state = s.state) (hc : counts → s.state = .connecting) {b : Bool}
      (hl : Tells s s' [] b) (hf : b = true → s'.channelHosed = true)
      (hh : s.channelHosed = true → s'.channelHosed = true)
  | begins (hs : s.state = .null) (hn : s.srvNamespace = []) (hs' : s'.state = .connecting)
      {b : Bool} (hl : Tells s s' [] b) (hf : b = true → s'.channelHosed = true)
  | fails (hs' : s'.state = .null) (e : Err) {b : Bool} (hl : Tells s s' [some e] b)
      (hn : b = true → s'.srvNamespace ≠ [])
  | succeeds (hs : s.state = .connecting) (hh : s.channelHosed = false) (hs' : s'.state = .peer)
      {b : Bool} (hl : Tells s s' [none] b) (hf : b = true → ¬ counts)

/-- What holds at any time: outside of PEER state the session is not hosed, a channel in NULL state
    has failed, and with an attempt under way the server's name is known. -/
structure Unheard (s : Client) : Prop where
  ok : s.state ≠ .peer → s.peerStateErrCodeOrOk = none
  null : s.state = .null → s.masterChannel.isSome = true → s.channelHosed = true
  named : s.state = .connecting → s.srvNamespace ≠ []

/-- What a step leaves. -/
structure Leaves (counts : Prop) (s s' : Client) : Prop where
  moves : Moves counts s s'
  unheard : Unheard s'
  named : s.srvNamespace ≠ [] → s'.srvNamespace ≠ []

/-- Names and out-arguments. -/
theorem Alike.mild (h : Alike s t) : s.toSession.Mild t.toSession where
  log := by
    obtain ⟨es, hl, he⟩ := h.log
    refine ⟨es, hl, fun e hm => ?_, fun ha => ?_⟩
    · obtain ⟨id, rfl⟩ := he e hm
      exact ⟨rfl, rfl⟩
    · obtain ⟨e, hm, hc⟩ := List.any_eq_true.mp ha
      obtain ⟨id, rfl⟩ := he e hm
      cases hc
  hosed := fun hh => by rw [Session.channelHosed, h.channel]; exact hh
  ok := h.ok
  srvNamespace := h.srvNamespace
  channel := by rw [h.channel]

namespace Leaves

/-- Mild code, in the state it finds. -/
theorem of_mild {u : Client} (h : Unheard s) (hm : s.toSession.Mild u.toSession)
    (hs' : u.state = s.state)
    (hc : counts → s.state = .connecting) : Leaves counts s u where
  moves := by
    obtain ⟨fails, hl, hf⟩ := tells_of_mild hm
    exact .stays hs' hc hl hf hm.hosed
  unheard := {
    ok := fun hs => hm.ok.trans (h.ok (hs' ▸ hs))
    null := fun hs hch => hm.hosed (h.null (hs' ▸ hs) (hm.channel ▸ hch))
    named := fun hs => by rw [hm.srvNamespace]; exact h.named (hs' ▸ hs) }
  named := fun hn => by rw [hm.srvNamespace]; exact hn

/-- After mild code the attempt is given up. -/
theorem givenUp (h : Unheard s) (hs : s.state = .connecting) (hm : s.toSession.Mild t.toSession)
    (f : OnDone) (e : Err) : Leaves counts s (t.givenUp f e) := by
  have hname : (t.givenUp f e).srvNamespace = s.srvNamespace := hm.srvNamespace
  refine ⟨?_, ⟨fun _ => hm.ok.trans (h.ok (by rw [hs]; exact fun hn => by cases hn)),
    fun _ hch => (by cases hch), fun hn => by cases hn⟩, fun hn => hname ▸ hn⟩
  obtain ⟨fails, hl, -⟩ := tells_of_mild hm
  exact .fails rfl e (hl.snoc rfl) fun _ => hname ▸ h.named hs

end Leaves

/-- A call on the channel that is refused. -/
theorem Refused.mild {x b : Session} {ch : MasterChannel} (hm : x.masterChannel = some ch)
    (hr : Refused x ch b) : x.Mild b := by
  cases hr with
  | old => exact .refl x
  | new hh e => exact .of_error rfl hm rfl rfl rfl

/-- An attempt that succeeds on a channel that has not failed. -/
theorem SuccessResult.leaves {c : Bool} (h : Unheard s) (hs : s.state = .connecting)
    (hh : s.channelHosed = false) (hm : s.toSession.Mild t.toSession)
    (hl : ∃ es, t.log = s.log ++ es ∧ es.any Event.isChannelError = false)
    (hr : SuccessResult t f c s') (hc : counts → s.state = .connecting) : Leaves counts s s' := by
  have hp : s.state ≠ .peer := by rw [hs]; exact fun hn => by cases hn
  obtain ⟨fails, htells, hf⟩ := tells_of_mild hm
  have hno : fails = false := by
    obtain ⟨es, hl, hno⟩ := hl
    obtain ⟨es', hl', -, -, rfl⟩ := htells
    rw [List.append_cancel_left (hl'.symm.trans hl)]
    exact hno
  cases hr with
  | reported =>
    refine ⟨.succeeds hs hh rfl (htells.snoc rfl) ?_, ⟨fun hn => absurd rfl hn, fun hn => ?_,
      fun hn => ?_⟩, fun hn => ?_⟩
    · intro htrue
      rw [hno] at htrue
      cases htrue
    · cases hn
    · cases hn
    · show t.srvNamespace ≠ []
      rw [hm.srvNamespace]
      exact hn
  | dropped hf' e =>
    have hgiven : Leaves counts s (t.givenUp f e) := Leaves.givenUp h hs hm f e
    exact ⟨.fails rfl e (htells.snoc rfl) fun _ => hgiven.named (h.named hs),
      ⟨hgiven.unheard.ok, fun _ hch => (by cases hch),
      fun hn => by cases hn⟩, hgiven.named⟩
  | takenOver hf' =>
    exact Leaves.of_mild h
      (u := ((((t.setState .peer).setOnDone none).setState .connecting).setOnDone
      (some ⟨.takenOver, f.attempt⟩))) hm hs.symm hc

/-! ### The tasks -/

/-- The log-in response runs no handler of the session, and counts only in CONNECTING state. -/
theorem LogInRspResult.leaves {m : Msg} {attempt : Nat} (h : Unheard s) (hs : s.state = .connecting)
    (hc : counts → s.state = .connecting) (hr : LogInRspResult cfg m attempt o s s') :
    Leaves counts s s' := by
  have hp : s.state ≠ .peer := by rw [hs]; exact fun hn => by cases hn
  cases hr with
  | rejected ha hf e => exact .givenUp h hs ha.mild _ e
  | @refused t ha ch hm b hb =>
    exact .of_mild h (ha.mild.trans (hb.mild (ha.channel.trans hm))) ha.state hc
  | @expects t ha ch hm hh cap =>
    have hflush : t.toSession.Mild (t.flushTo ch (.initOpenChannel cap)) :=
      .of_channel rfl (ha.channel.trans hm) rfl rfl rfl rfl
    exact .of_mild h (ha.mild.trans hflush) ha.state hc
  | @succeeds t ha ch hm hh r hb hacc hn ho f hf s' hs' =>
    have hflush : t.toSession.Mild (t.flushTo ch .openChannelReq) :=
      .of_channel rfl (ha.channel.trans hm) rfl rfl rfl rfl
    have hhosed : s.channelHosed = false := by
      rw [Session.channelHosed, hm]
      exact hh
    refine SuccessResult.leaves (t := t.setSession (t.flushTo ch .openChannelReq)) h hs hhosed
      (ha.mild.trans hflush) ?_ hs' hc
    obtain ⟨es, hl, he⟩ := ha.log
    refine ⟨es, hl, List.any_eq_false.mpr fun e hm => ?_⟩
    obtain ⟨id, rfl⟩ := he e hm
    exact fun hn => by cases hn

/-- The handlers are swapped. -/
theorem swapHandlers_mild {x : Session} {ch : MasterChannel} (hm : x.masterChannel = some ch) :
    x.Mild (swapHandlers ch x) :=
  .of_channel rfl hm rfl rfl rfl rfl

/-- The call that completes an attempt is refused. -/
theorem CompleteRefused.mild {x b : Session} {ch : MasterChannel} (hm : x.masterChannel = some ch)
    (hr : CompleteRefused x ch b) : x.Mild b := by
  cases hr with
  | undo hb => exact hb.mild hm
  | expect hh e =>
    have hundo : x.Mild (x.setChannel { ch with openReqHandler := none }) :=
      .of_channel rfl hm rfl rfl rfl rfl
    exact hundo.trans (.of_error rfl rfl rfl rfl rfl)
  | send hh e => exact (swapHandlers_mild hm).trans (.of_error rfl rfl rfl rfl rfl)

/-- So it is with an init-channel. -/
theorem InitOpenChannelResult.leaves {m : Msg} {cap : InitCapture} (h : Unheard s)
    (hs : s.state = .connecting) (hc : counts → s.state = .connecting)
    (hr : InitOpenChannelResult m cap o s s') : Leaves counts s s' := by
  have hp : s.state ≠ .peer := by rw [hs]; exact fun hn => by cases hn
  cases hr with
  | waits ha => exact .of_mild h ha.mild ha.state hc
  | @refused t ha ch hm b hb =>
    exact .of_mild h (ha.mild.trans (hb.mild (ha.channel.trans hm))) ha.state hc
  -- The failing acknowledgement: the completion with an error, under a namespace set long ago.
  | @failed t ha ch hm hh f hf e =>
    have hfail : (swapHandlers ch t.toSession).Mild
        ((swapHandlers ch t.toSession).failCall (swapped ch) e) := .of_error rfl rfl rfl rfl rfl
    have hmild := (ha.mild.trans (swapHandlers_mild (ha.channel.trans hm))).trans hfail
    obtain ⟨fails, hl, -⟩ := tells_of_mild
      (u := t.setSession ((swapHandlers ch t.toSession).failCall (swapped ch) e)) hmild
    have hname : t.srvNamespace = s.srvNamespace := ha.srvNamespace
    refine ⟨.fails rfl e (hl.snoc rfl) fun _ => ?_,
      ⟨fun _ => hmild.ok.trans (h.ok hp), fun _ _ => rfl,
      fun hn => ?_⟩, fun hn => ?_⟩
    · show t.srvNamespace ≠ []
      exact hname ▸ h.named hs
    · cases hn
    · show t.srvNamespace ≠ []
      exact hname ▸ hn
  -- The last init-channel: what follows is the common completion, over an unhosed channel.
  | @succeeds t ha ch hm hh hlast hu he hd msg u hu' f hf s' hs' =>
    have hsent : (swapHandlers ch t.toSession).Mild
        ((swapHandlers ch t.toSession).transmit (swapped ch) msg) :=
      .of_event rfl rfl rfl rfl rfl rfl rfl
    have hmild := ((ha.mild.trans (swapHandlers_mild (ha.channel.trans hm))).trans hsent).trans
        hu'.mild
    have hhosed : s.channelHosed = false := by
      rw [Session.channelHosed, hm]
      exact hh
    refine SuccessResult.leaves (t := u) h hs hhosed hmild ?_ hs' hc
    obtain ⟨es, hl, hes⟩ := ha.log
    obtain ⟨es', hl', hes'⟩ := hu'.log
    -- Running the handlers of init-channels emits no error.
    have hno : ∀ {l : List Event}, (∀ e ∈ l, ∃ id, e = Event.initOpenChannelRan id) →
        l.any Event.isChannelError = false := by
      intro l hl
      refine List.any_eq_false.mpr fun e hm => ?_
      obtain ⟨id, rfl⟩ := hl e hm
      exact fun hn => by cases hn
    refine ⟨es ++ ([.sent msg] ++ es'), ?_, ?_⟩
    · rw [hl', ← List.append_assoc, ← List.append_assoc]
      show (t.log ++ [.sent msg]) ++ es' = _
      rw [hl]
    · rw [List.any_append, List.any_append, hno hes, hno hes']
      rfl

/-- And with `async_connect()`, which NULL state allows as well. -/
theorem AsyncConnectResult.leaves {attempt : Nat} {subClass : Bool} {b : Builder} (h : Unheard s)
    (hp : s.state ≠ .peer) (hc : counts → s.state = .connecting ∨ s.state = .null)
    (hr : AsyncConnectResult cfg attempt subClass b o s s') : Leaves counts s s' := by
  -- Up to the socket stream the attempt logs nothing.
  have told : ∀ {x : Client}, x.log = s.log → Tells s x [] false := fun hl =>
    ⟨[], by rw [hl, List.append_nil], rfl, rfl, rfl⟩
  cases hr with
  | ignored hs =>
    have hmild : s.toSession.Mild (s.toSession.record .connectIgnored) :=
      .of_event rfl rfl rfl rfl rfl rfl rfl
    exact .of_mild (u := s.record .connectIgnored) h hmild rfl fun hn => (hc hn).resolve_right hs
  | cnsFailed hs e hcns =>
    refine ⟨.fails rfl e ((told (x := s) rfl).snoc rfl) fun hn => ?_,
      ⟨fun _ => h.ok hp, fun _ => h.null hs,
      fun hn => ?_⟩, id⟩ <;>
    cases hn
  | sockFailed hs pid hcns hn hf e hsock =>
    refine ⟨.fails rfl e ((told (x := s) rfl).snoc rfl) fun _ => hn,
      ⟨fun _ => h.ok hp, fun _ => h.null hs,
      fun hn => ?_⟩, fun _ => hn⟩
    cases hn
  | sendFailed hs pid hcns hn hf hm t ht ch hch e hsend =>
    subst ht
    -- The failed send emits the channel's error, and that on the way out of the attempt.
    have htold : Tells s (((((s.begin attempt subClass).setSession
        (s.putSrvNamespace (pidToString pid))).makeChannel).setSession
          ((((s.begin attempt subClass).setSession
            (s.putSrvNamespace (pidToString pid))).makeChannel).failCall
            ch e))) [] true := ⟨[.channelError false e], rfl, rfl, rfl, rfl⟩
    refine ⟨.fails rfl e (htold.snoc rfl) fun _ => hn,
      ⟨fun _ => h.ok hp, fun _ hch => ?_, fun hn => ?_⟩, fun _ => hn⟩
    · cases hch
    · cases hn
  | refused hs pid hcns hn hf hm t ht ch hch e hsend =>
    subst ht
    cases hch
    refine ⟨.begins hs hf rfl (b := true) ⟨[.channelError true e], rfl, rfl, rfl, rfl⟩ fun _ => rfl,
      ⟨fun _ => h.ok hp, fun hn => ?_, fun _ => hn⟩, fun _ => hn⟩
    cases hn
  | sent hs pid hcns hn hf hm t ht ch hch hsend =>
    subst ht
    cases hch
    refine ⟨.begins hs hf rfl (b := false) ⟨[.sent _], rfl, rfl, rfl, rfl⟩ fun hn => ?_,
      ⟨fun _ => h.ok hp, fun hn => ?_, fun _ => hn⟩, fun _ => hn⟩
    · cases hn
    · cases hn

/-- Before PEER state the report of an error runs no handler of the session. -/
theorem ErrorResult.leaves {chan : Nat} {e : Err} (h : Unheard s) (hp : s.state ≠ .peer)
    (hc : counts → s.state = .connecting) (hr : ErrorResult cfg chan e s s') :
    Leaves counts s s' := by
  cases hr with
  | other hne => exact .of_mild h (.refl _) rfl hc
  | failed hid hs hf => exact .givenUp h hs (.refl _) _ e
  | peer hs hb => exact absurd hs hp

/-- A request that does not reach the user. -/
theorem openChannelReq_mild {b b' : Session} {m : Msg}
    (hd : onMasterChannelOpenChannelReq cfg m o b = .done b') (hp : b.peerStateErrCodeOrOk = none)
    (hquiet : b.masterChannel.isSome = true → b.channelHosed = true ∨
      (o.send = .ok → b.onPassiveOpenSet = false) ∧ ∀ e, o.send ≠ .failed e) : b.Mild b' := by
  have hmark : b.Mild (b.record (.openChannelReqRan m.id)) := .of_event rfl rfl rfl rfl rfl rfl rfl
  simp only [onMasterChannelOpenChannelReq, Outcome.bind_eq_done] at hd
  obtain ⟨hosed, hh, hd⟩ := hd
  obtain ⟨-, rfl⟩ := Session.hosed_done hh
  have hfalse : (b.record (.openChannelReqRan m.id)).peerStateErrCodeOrOk.isSome = false := by
    rw [Session.record_peerStateErrCodeOrOk, hp]
    rfl
  rw [hfalse] at hd
  simp only [Bool.false_eq_true, if_false, Outcome.bind_eq_done, Prod.exists] at hd
  obtain ⟨-, -, p, b₁, hprep, hd⟩ := hd
  have hmild := hmark.trans ((prepare_updates (L := fun _ => False) hprep).mild fun _ hf => hf.elim)
  -- A request is accepted only where a passive-open handler is set.
  have hprep' : b₁.masterChannel = b.masterChannel ∧
      (p.result = .accepted → b.onPassiveOpenSet = true) := by
    simp only [prepare] at hprep
    split at hprep
    · rename_i hset
      have hset : b.onPassiveOpenSet = true := hset
      split at hprep
      · simp only [Outcome.bind_eq_done, Prod.exists] at hprep
        obtain ⟨obj, b₂, hobj, hprep⟩ := hprep
        cases hprep
        simp [Session.createChannelObj] at hobj
        obtain ⟨-, -, -, -, rfl⟩ := hobj
        exact ⟨rfl, fun _ => hset⟩
      · cases hprep
    · cases hprep
      exact ⟨rfl, fun hn => by cases hn⟩
  obtain ⟨hchan, hset⟩ := hprep'
  obtain ⟨ch, hm, hr⟩ := Session.openChannelReqRespond_done hd
  have hhosed : b.channelHosed = ch.hosed := by rw [Session.channelHosed, ← hchan, hm]; rfl
  have hquiet := hquiet (by rw [← hchan, hm]; rfl)
  rw [hhosed] at hquiet
  -- The response goes over an unhosed channel or the session gives up in silence.
  generalize hsend : o.send = r at hr hquiet
  cases hr with
  | accepted hh ha =>
    rcases hquiet with hc | ⟨hc, -⟩
    · rw [hh] at hc
      cases hc
    · have hno := hc rfl
      rw [hset ha] at hno
      cases hno
  | rejected hh ha => exact hmild.trans (.of_event rfl rfl rfl rfl (by rw [hm]; rfl) rfl rfl)
  | refusedOld => exact hmild
  | refusedNew hh e => exact hmild.trans (.of_error rfl hm rfl rfl rfl)
  | failed hh hp' e =>
    rcases hquiet with hc | ⟨-, hc⟩
    · rw [hh] at hc
      cases hc
    · exact absurd rfl (hc e)

/-! ### A step -/

/-- A request for an open channel is handled while CONNECTING, and the user is to hear of it: it is
    accepted, or the answer fails. -/
def answersEarly (s : Client) : Act → Bool
  | .run o => s.state = .connecting && s.queue.head?.any Task.isOpenChannelReq &&
      match o.send with
      | .ok => s.onPassiveOpenSet
      | .failed _ => true
      | .refused _ => false
  | _ => false

/-- A sub-class completes a connect with success while the channel has failed. -/
def completesFailed (s : Client) : Act → Bool
  | .complete none _ => s.channelHosed
  | _ => false

/-- What the base class relies on. -/
def keepsToPeer (s : Client) (act : Act) : Bool :=
  !s.answersEarly act && !act.subClassFails && !s.completesFailed act

/-- Thread W has taken a task first. -/
theorem Leaves.taken {q : List Task}
    (h : Leaves counts (s.setSession { s.toSession with queue := q }) s') :
    Leaves counts s s' := by
  refine ⟨?_, h.unheard, h.named⟩
  cases h.moves with
  | stays hs' hc hl hf hh => exact .stays hs' hc hl hf hh
  | begins hs hn hs' hl hf => exact .begins hs hn hs' hl hf
  | fails hs' e hl hn => exact .fails hs' e hl hn
  | succeeds hs hh hs' hl hf => exact .succeeds hs hh hs' hl hf

/-- A task leaves the queue. -/
theorem Unheard.taken {t : Task} {b : Session} (h : Unheard s) (ht : s.takeTask = .done (t, b)) :
    Unheard (s.setSession b) := by
  obtain ⟨-, -, hb⟩ := Session.takeTask_done ht
  rw [hb]
  exact ⟨h.ok, h.null, h.named⟩

/-- A step of an attempt that does not start one is taken in CONNECTING state. -/
theorem connecting_of_usesConnecting (hn : s.startsConnect a = false)
    (hc : s.usesConnecting a = true) : s.state = .connecting := by
  cases a <;> first
    | (simp only [usesConnecting, hn, Bool.or_false, decide_eq_true_eq] at hc; exact hc)
    | cases hc

/-- No attempt starts with a task other than that of `async_connect()`. -/
theorem startsConnect_of_takeTask {t : Task} {b : Session} (ht : s.takeTask = .done (t, b))
    (hno : t.isAsyncConnect = false) : s.startsConnect (.run o) = false := by
  obtain ⟨-, hq, -⟩ := Session.takeTask_done ht
  simp only [startsConnect, hq, List.head?_cons, Option.any_some, hno, Bool.and_false]

/-- Session code outside of PEER state. -/
theorem Leaves.of_session {b : Session} (h : Unheard s) (hm : s.toSession.Mild b)
    (hn : ∀ o, a = .run o → s.startsConnect a = false) :
    Leaves (s.usesConnecting a = true) s (s.setSession b) := by
  refine .of_mild h hm rfl fun hc => connecting_of_usesConnecting ?_ hc
  cases a with
  | run o => exact hn o rfl
  | _ => rfl

/-- **A step outside of PEER state.** -/
theorem StepResult.leaves (h : Unheard s) (hp : s.state ≠ .peer)
    (hg : s.keepsToPeer a = true) (hr : StepResult cfg s a s') :
    Leaves (s.usesConnecting a = true) s s' := by
  simp only [keepsToPeer, Bool.and_eq_true, Bool.not_eq_true'] at hg
  obtain ⟨⟨hearly, -⟩, hfailed⟩ := hg
  cases hr with
  | anywhere hn hu =>
    refine .of_session h (hu.mild fun k hk => ?_) fun o ha => ?_
    · cases k with
      | call e => cases e <;> first | rfl | cases hk
      | hose => cases hk
      | _ => rfl
    · subst ha
      simp only [startsConnect, hn o rfl, Bool.and_false]
  | inPeer hs hu => exact absurd hs hp
  | @called call attempt out subClass b bl ht =>
    have hmild : s.toSession.Mild b := (Session.Update.takeBuilder ht).mild fun _ hk => by cases hk
    exact .of_mild (u := ((s.setSession b).setOut attempt out).post
      (.asyncConnect attempt subClass bl)) h
      (hmild.trans (.of_same rfl rfl rfl rfl)) rfl fun hc => connecting_of_usesConnecting rfl hc
  | @request o chan m b b' ht hd =>
    refine .of_session h ((Session.takeTask_mild ht).trans (openChannelReq_mild hd ?_ fun hm => ?_))
      fun _ _ => startsConnect_of_takeTask ht rfl
    · exact (Session.takeTask_mild ht).ok.trans (h.ok hp)
    · obtain ⟨-, hq, hbs⟩ := Session.takeTask_done ht
      cases hs : s.state with
      | peer => exact absurd hs hp
      | null => exact .inl ((h.taken ht).null hs hm)
      | connecting =>
        -- Nothing of it reaches the user.
        have hset : b.onPassiveOpenSet = s.onPassiveOpenSet := by rw [hbs]
        simp only [answersEarly, hs, hq, List.head?_cons, Option.any_some, Task.isOpenChannelReq,
          decide_true, Bool.true_and] at hearly
        refine .inr ⟨fun hok => ?_, fun e he => ?_⟩
        · rw [hok] at hearly
          exact hset.trans hearly
        · rw [he] at hearly
          cases hearly
  | @connects o attempt subClass bl b s' ht hr =>
    have htaken := h.taken ht
    obtain ⟨-, -, hb⟩ := Session.takeTask_done ht
    rw [hb] at hr htaken
    refine (hr.leaves htaken hp fun hc => ?_).taken
    cases hs : s.state with
    | connecting => exact .inl hs
    | null => exact .inr hs
    | peer => exact absurd hs hp
  | @logInRsp o chan attempt m b s' ht hs hr =>
    have htaken := h.taken ht
    obtain ⟨-, -, hb⟩ := Session.takeTask_done ht
    rw [hb] at hr htaken
    exact (hr.leaves htaken hs fun _ => hs).taken
  | @initOpenChannel o chan m cap b s' ht hs hr =>
    have htaken := h.taken ht
    obtain ⟨-, -, hb⟩ := Session.takeTask_done ht
    rw [hb] at hr htaken
    exact (hr.leaves htaken hs fun _ => hs).taken
  | @error o chan e b s' ht hr =>
    have htaken := h.taken ht
    have hno := startsConnect_of_takeTask (o := o) ht rfl
    obtain ⟨-, -, hb⟩ := Session.takeTask_done ht
    rw [hb] at hr htaken
    refine (hr.leaves htaken hp fun hc => ?_).taken
    have hs : s.state = .connecting := connecting_of_usesConnecting hno hc
    exact hs
  | @completed e r s' ht hpe hr =>
    have hs := takenOver_state ht
    cases hr with
    | failed hf e => exact .givenUp h hs (.refl _) _ e
    | @succeeds b hb f hf =>
      have hmild : s.toSession.Mild b := by
        rcases hb with rfl | hb
        · exact .refl _
        · exact (Session.emplaceGracefulFinisher_updates (L := (· = .finisher)) rfl hb).mild
            fun k hk => by rw [hk]; rfl
      obtain ⟨fails, hl, -⟩ := tells_of_mild (u := s.setSession b) hmild
      refine ⟨.succeeds hs hfailed rfl (hl.snoc rfl) fun _ hc => ?_,
        ⟨fun hn => absurd rfl hn, fun hn => ?_,
        fun hn => ?_⟩, fun hn => ?_⟩
      · cases hc
      · cases hn
      · cases hn
      · show b.srvNamespace ≠ []
        rw [hmild.srvNamespace]
        exact hn
  | @dtorAct a b hn hact => exact .of_session h hact.mild fun o ha => absurd ha (hn o)
  | @dtorTask o t b b' ht htask =>
    have hno := startsConnect_of_takeTask (o := o) ht (by cases htask <;> rfl)
    refine .of_session h ((Session.takeTask_mild ht).trans ?_) fun _ _ => hno
    cases htask with
    | finisherQuery => exact .of_same rfl rfl rfl rfl
    | sendEnd hf hu hw =>
      refine (hu.mild fun k hk => ?_).trans (.of_same rfl rfl rfl rfl)
      cases k <;> first | rfl | cases hk
    | noChannel hm => exact .of_same rfl rfl rfl rfl
    | flush hm willRun => exact .of_same rfl rfl rfl rfl

/-- PEER state is left by nothing. -/
theorem StepResult.peer (hs : s.state = .peer) (hr : StepResult cfg s a s') : s'.state = .peer := by
  cases hr with
  | anywhere hn hu => exact hs
  | inPeer _ hu => exact hs
  | called ht => exact hs
  | request ht hd => exact hs
  | connects ht hr =>
    have hno : s.state ≠ .null := by rw [hs]; exact fun hn => by cases hn
    cases hr with
    | ignored => exact hs
    | cnsFailed hn => exact absurd hn hno
    | sockFailed hn => exact absurd hn hno
    | sendFailed hn => exact absurd hn hno
    | refused hn => exact absurd hn hno
    | sent hn => exact absurd hn hno
  | logInRsp ht hc hr =>
    rw [hs] at hc
    cases hc
  | initOpenChannel ht hc hr =>
    rw [hs] at hc
    cases hc
  | error ht hr =>
    cases hr with
    | other => exact hs
    | failed hid hc hf =>
      have hc : s.state = .connecting := hc
      rw [hs] at hc
      cases hc
    | peer => exact hs
  | completed ht hp hr =>
    have hc := takenOver_state ht
    rw [hs] at hc
    cases hc
  | dtorAct hn hact => exact hs
  | dtorTask ht htask => exact hs

/-! ### Runs -/

/-- What is promised of the user's handlers, and of connects whose channel fails. -/
structure HandlersInPeer (s : Client) (n : HandlerNotes) : Prop where
  /-- Neither handler has been run outside of PEER state. -/
  early : n.early = []
  /-- A connect whose channel has failed has ended, with an error and in NULL state, as soon as
      thread W has nothing to do. -/
  failed : s.w = .idle → s.queue = [] → ∀ codes, n.failed = some codes →
    (∃ e rest, codes = some e :: rest) ∧ s.state = .null

/-- The invariant of runs. -/
structure TakenInv (cfg : Cfg) (s : Client) (n : HandlerNotes) : Prop where
  seated : Seated s
  err : ErrInv cfg True False s
  unheard : Unheard s
  early : n.early = []
  failed : ∀ codes, n.failed = some codes → s.srvNamespace ≠ [] ∧
    ((codes = [] ∧ s.state = .connecting ∧ s.channelHosed = true) ∨
      ((∃ e rest, codes = some e :: rest) ∧ s.state = .null))

/-- Nothing has been noted. -/
theorem TakenInv.fresh (cfg : Cfg) (passiveOpen : Bool) : TakenInv cfg (fresh passiveOpen) {} where
  seated := .fresh passiveOpen
  err := errInv_fresh passiveOpen
  unheard := ⟨fun _ => rfl, fun _ hm => (by cases hm), fun hs => by cases hs⟩
  early := rfl
  failed := fun _ h => by cases h

/-- What the observer notes of a step outside of PEER state. -/
theorem takeHandlerNotes_eq {n : HandlerNotes} {codes : List ErrorCode} {fails : Bool}
    (hd : step cfg s a = .done s') (ht : Tells s s' codes fails) : takeHandlerNotes cfg s a n = {
      early := n.early
      failed := if n.failed.isSome || s.usesConnecting a && fails then
        some (n.failed.getD [] ++ codes) else none } := by
  obtain ⟨es, hl, hr, hc, hf⟩ := ht
  simp only [takeHandlerNotes, hd, hl, List.drop_left, hr, hc, hf, ite_self, List.append_nil]

/-- Every step that keeps to PEER state keeps what is known of the handlers. -/
theorem TakenInv.step {n : HandlerNotes} (h : TakenInv cfg s n) (hg : s.keepsToPeer a = true)
    (hd : Client.step cfg s a = .done s') : TakenInv cfg s' (takeHandlerNotes cfg s a n) := by
  have hres := step_result h.seated hd
  have hsub : a.subClassFails = false := by
    simp only [keepsToPeer, Bool.and_eq_true, Bool.not_eq_true'] at hg
    exact hg.1.2
  have herr := step_errInv h.err (fun _ => hsub) (fun hf => hf.elim) (fun hf => hf.elim) hd
  -- In PEER state there is no connect to fail: nothing is noted and nothing can be.
  by_cases hp : s.state = .peer
  · have hs' := hres.peer hp
    have hnone : n.failed = none := by
      cases hn : n.failed with
      | none => rfl
      | some codes =>
        rcases (h.failed codes hn).2 with ⟨-, hs, -⟩ | ⟨-, hs⟩ <;>
          · rw [hp] at hs
            cases hs
    have huses : s.usesConnecting a = false := by
      cases a <;> first | rfl | simp [usesConnecting, startsConnect, hp]
    have hnotes : takeHandlerNotes cfg s a n = ⟨n.early, none⟩ := by
      simp [takeHandlerNotes, hd, hp, hnone, huses]
    rw [hnotes]
    exact ⟨hres.seated h.seated, herr,
      ⟨fun hn => absurd hs' hn, fun hn => (by rw [hs'] at hn; cases hn),
      fun hn => (by rw [hs'] at hn; cases hn)⟩, h.early, fun _ hn => by cases hn⟩
  · obtain ⟨hmoves, hun, hname⟩ := hres.leaves h.unheard hp hg
    -- What is left for each kind of step: the notes it adds, and what they say of the state it ends
    -- in.
    have main : ∀ {codes : List ErrorCode} {fails : Bool}, Tells s s' codes fails →
        (∀ c, (if n.failed.isSome || s.usesConnecting a && fails then
            some (n.failed.getD [] ++ codes) else none) = some c → s'.srvNamespace ≠ [] ∧
          ((c = [] ∧ s'.state = .connecting ∧ s'.channelHosed = true) ∨
            ((∃ e rest, c = some e :: rest) ∧ s'.state = .null))) →
        TakenInv cfg s' (takeHandlerNotes cfg s a n) := by
      intro codes fails ht hfailed
      rw [takeHandlerNotes_eq hd ht]
      exact ⟨hres.seated h.seated, herr, hun, h.early, hfailed⟩
    cases hmoves with
    -- No completion: a failure noted earlier stays as it was, and one noted now hosed the channel.
    | stays hs' hc hl hf hh =>
      refine main hl fun c hif => ?_
      cases hn : n.failed with
      | some codes =>
        rw [hn] at hif
        cases hif
        obtain ⟨hsrv, hold⟩ := h.failed codes hn
        rw [Option.getD_some, List.append_nil]
        refine ⟨hname hsrv, ?_⟩
        rcases hold with ⟨hcd, hs, hhosed⟩ | ⟨hcd, hs⟩
        · exact .inl ⟨hcd, hs'.trans hs, hh hhosed⟩
        · exact .inr ⟨hcd, hs'.trans hs⟩
      | none =>
        rw [hn] at hif
        split at hif
        · rename_i hu
          cases hif
          simp only [Option.isSome_none, Bool.false_or, Bool.and_eq_true] at hu
          have hs := hc hu.1
          exact ⟨hname (h.unheard.named hs), .inl ⟨rfl, hs'.trans hs, hf hu.2⟩⟩
        · cases hif
    -- The first step of an attempt: the namespace is still empty, so nothing failed before it.
    | begins hs hnm hs' hl hf =>
      refine main hl fun c hif => ?_
      cases hn : n.failed with
      | some codes => exact absurd hnm (h.failed codes hn).1
      | none =>
        rw [hn] at hif
        split at hif
        · rename_i hu
          cases hif
          simp only [Option.isSome_none, Bool.false_or, Bool.and_eq_true] at hu
          exact ⟨hun.named hs', .inl ⟨rfl, hs', hf hu.2⟩⟩
        · cases hif
    -- The completion with an error: it is appended to the codes of a failure already noted.
    | fails hs' e hl hnm =>
      refine main hl fun c hif => ?_
      cases hn : n.failed with
      | some codes =>
        rw [hn] at hif
        cases hif
        obtain ⟨hsrv, hold⟩ := h.failed codes hn
        refine ⟨hname hsrv, .inr ⟨?_, hs'⟩⟩
        rcases hold with ⟨rfl, -, -⟩ | ⟨⟨e₀, rest, rfl⟩, -⟩
        · exact ⟨e, [], rfl⟩
        · exact ⟨e₀, rest ++ [some e], rfl⟩
      | none =>
        rw [hn] at hif
        split at hif
        · rename_i hu
          cases hif
          simp only [Option.isSome_none, Bool.false_or, Bool.and_eq_true] at hu
          exact ⟨hnm hu.2, .inr ⟨⟨e, [], rfl⟩, hs'⟩⟩
        · cases hif
    -- Success needs an unhosed channel in CONNECTING state, which no noted failure leaves.
    | succeeds hs hh hs' hl hf =>
      refine main hl fun c hif => ?_
      have hnone : n.failed = none := by
        cases hn : n.failed with
        | none => rfl
        | some codes =>
          rcases (h.failed codes hn).2 with ⟨-, -, hhosed⟩ | ⟨-, hnull⟩
          · rw [hh] at hhosed
            cases hhosed
          · rw [hs] at hnull
            cases hnull
      rw [hnone] at hif
      split at hif
      · rename_i hu
        simp only [Option.isSome_none, Bool.false_or, Bool.and_eq_true] at hu
        exact absurd hu.1 (hf hu.2)
      · cases hif

/-- An error of the channel does not stay unheard: with thread W idle there is none that the connect
    waits out. -/
theorem TakenInv.handlersInPeer {n : HandlerNotes} (h : TakenInv cfg s n) : HandlersInPeer s n where
  early := h.early
  failed := fun _ hq codes hn => by
    rcases (h.failed codes hn).2 with ⟨-, hs, hhosed⟩ | hended
    · obtain ⟨chan, hc⟩ := Session.errorState_of_channelHosed hhosed
      rcases h.err.connecting trivial hs chan hc with ⟨e, hmem⟩ | hp
      · rw [hq] at hmem
        cases hmem
      · rw [h.unheard.ok (by rw [hs]; exact fun hn => by cases hn)] at hp
        cases hp
    · exact hended

/-- **The user's handlers are run in PEER state only, and a connect whose channel has failed ends**,
    so long as no request for an open channel reaches the user while the client is CONNECTING. -/
theorem handlersInPeer_of_kept {p : Client × HandlerNotes}
    (hr : Machine.Reaches (Machine.observed (takeHandlerNotes cfg) (step cfg))
      (fun p act => p.1.keepsToPeer act = true) (fresh passiveOpen, {}) p) :
      HandlersInPeer p.1 p.2 := by
  have hinv : TakenInv cfg p.1 p.2 := by
    refine hr.invariant (P := fun p => TakenInv cfg p.1 p.2) (.fresh cfg passiveOpen)
      fun p act p' hp hg hd => ?_
    obtain ⟨hstep, hnote⟩ := Machine.observed_done hd
    rw [hnote]
    exact hp.step hg hstep
  exact hinv.handlersInPeer

/-- The sub-class takes the connect over, the server's request is rejected, and the channel
    fails. -/
theorem handlersInPeer_of_kept_takenOver : ∃ p,
    Machine.Reaches (Machine.observed (takeHandlerNotes .sample) (step .sample))
      (fun p act => p.1.keepsToPeer act = true) (fresh false, {}) p ∧
    p.2.failed = some [some (.other 1)] ∧ p.1.state = .null ∧ HandlersInPeer p.1 p.2 := by
  obtain ⟨p, hr, hp⟩ := Machine.Reaches.exists_of_run
    (Machine.guarded (fun p act => p.1.keepsToPeer act)
      (Machine.observed (takeHandlerNotes .sample) (step .sample))) (fresh false, {})
    (subClassPrefix ++ [.run { hook := .toConnecting }, .run {}, .channelError (.other 1), .run {}])
    (fun p => decide (p.2.failed = some [some (.other 1)] ∧ p.1.state = .null)) (by decide)
  have hr := hr.of_guarded
  exact ⟨p, hr, (of_decide_eq_true hp).1, (of_decide_eq_true hp).2, handlersInPeer_of_kept hr⟩

/-- **A request that is handled before the sub-class completes the connect can hose the session**:
    the on-error handler is run while CONNECTING, and the connect hangs. -/
theorem not_handlersInPeer_takenOver :
    ¬ ∀ (cfg : Cfg) (passiveOpen : Bool) (p : Client × HandlerNotes),
      Machine.Reaches (Machine.observed (takeHandlerNotes cfg) (step cfg)) Machine.anyStep
        (fresh passiveOpen, {}) p → HandlersInPeer p.1 p.2 := by
  intro hall
  obtain ⟨p, hr, hp⟩ := Machine.Reaches.exists_of_run
    (Machine.observed (takeHandlerNotes .sample) (step .sample)) (fresh true, {})
    (subClassPrefix ++ [.run { hook := .toConnecting }, .run { send := .failed (.other 1) }])
    (fun p => decide (p.1.state = .connecting ∧ p.1.w = .idle ∧ p.1.queue = [] ∧
      p.1.connOnDoneFuncOrEmpty.isSome ∧
      p.2.early ≠ [] ∧ p.2.failed = some [])) (by decide)
  obtain ⟨hs, hw, hq, -, -, hf⟩ := of_decide_eq_true hp
  have hnull := ((hall _ _ _ hr).failed hw hq _ hf).2
  rw [hs] at hnull
  cases hnull

end Client

end IpcSession
