import IpcSession.Client.AllOrNothing

namespace IpcSession

/-!
# What the stages of a connect attempt can come to

* `Client.LogInRspResult`, `Client.InitOpenChannelResult` — the results of
  `on_master_channel_log_in_rsp()` and of `on_master_channel_init_open_channel()`, each with what
  the handler had to find for it.
* `Client.ErrorResult`, `Client.CompleteResult` — those of `on_master_channel_error()` and of
  `complete_async_connect_after_canceling_peer_state()`.
* `Client.completes` — the task at hand ends in the completion handler, with success.
-/

/-- It calls `cancel_peer_state_to_null()`. -/
def Hook.isToNull : Hook → Bool
  | toNull _ => true
  | _ => false

namespace Client

variable {cfg : Cfg} {s s' t u : Client} {o : ClientOracle}

/-- `t` is `s` but for names, out-arguments, nicknames, and the note that a handler runs. -/
structure Alike (s t : Client) : Prop where
  state : t.state = s.state
  onDone : t.connOnDoneFuncOrEmpty = s.connOnDoneFuncOrEmpty
  nextChan : t.nextChan = s.nextChan
  queue : t.queue = s.queue
  channel : t.masterChannel = s.masterChannel
  worker : t.w = s.w
  finisher : t.gracefulFinisher = s.gracefulFinisher
  ok : t.peerStateErrCodeOrOk = s.peerStateErrCodeOrOk
  srvNamespace : t.srvNamespace = s.srvNamespace
  log : ∃ es, t.log = s.log ++ es ∧ ∀ e ∈ es, ∃ id, e = .initOpenChannelRan id

namespace Alike

/-- Nothing is noted. -/
theorem of_session (hst : t.state = s.state)
    (hf : t.connOnDoneFuncOrEmpty = s.connOnDoneFuncOrEmpty)
    (hn : t.nextChan = s.nextChan) {n : SharedName}
    (hs : t.toSession = s.toSession.putCliNamespace n) : Alike s t := by
  constructor <;> first | assumption | skip
  · rw [hs]; rfl
  · rw [hs]; rfl
  · rw [hs]; rfl
  · rw [hs]; rfl
  · rw [hs]; rfl
  · rw [hs]; rfl
  · exact ⟨[], by rw [hs, List.append_nil]; rfl, fun e he => by cases he⟩

theorem trans (h : Alike s t) (h' : Alike t u) : Alike s u where
  state := h'.state.trans h.state
  onDone := h'.onDone.trans h.onDone
  nextChan := h'.nextChan.trans h.nextChan
  queue := h'.queue.trans h.queue
  channel := h'.channel.trans h.channel
  worker := h'.worker.trans h.worker
  finisher := h'.finisher.trans h.finisher
  ok := h'.ok.trans h.ok
  srvNamespace := h'.srvNamespace.trans h.srvNamespace
  log := by
    obtain ⟨es, hl, he⟩ := h.log
    obtain ⟨es', hl', he'⟩ := h'.log
    refine ⟨es ++ es', by rw [hl', hl, List.append_assoc], fun e hm => ?_⟩
    exact (List.mem_append.mp hm).elim (he e) (he' e)

/-- Out-arguments are filled in. -/
theorem setOut (s : Client) (attempt : Nat) (out : OutArgs) : Alike s (s.setOut attempt out) :=
  .of_session rfl rfl rfl (n := s.cliNamespace) rfl

/-- The init-channels so far are kept. -/
theorem setVec (s : Client) (vec : Nat) (chans : Channels) : Alike s (s.setVec vec chans) :=
  .of_session rfl rfl rfl (n := s.cliNamespace) rfl

/-- A nickname is used up. -/
theorem nextNickname (s : Client) (active : Bool) :
    Alike s (s.setSession (s.toSession.nextNickname active).2) := by
  cases active <;>
    exact ⟨rfl, rfl, rfl, rfl, rfl, rfl, rfl, rfl, rfl, [], (List.append_nil _).symm, fun e he => by
      cases he⟩

/-- The handler of an init-channel is noted. -/
theorem initRan (s : Client) (id : Nat) : Alike s (s.record (.initOpenChannelRan id)) :=
  ⟨rfl, rfl, rfl, rfl, rfl, rfl, rfl, rfl, rfl, [.initOpenChannelRan id], rfl, fun e he => by
    rw [List.mem_singleton.mp he]
    exact ⟨id, rfl⟩⟩

end Alike

/-- `b` is what is left of `a` where its channel `ch` refuses a call. -/
inductive Refused (a : Session) (ch : MasterChannel) : Session → Prop
  | old (hh : ch.hosed = true) : Refused a ch a
  | new (hh : ch.hosed = false) (e : Err) : Refused a ch (a.emitError ch e)

/-- A call on the channel that returns `false`. -/
theorem Refused.of_noError {a b x : Session} {ch : MasterChannel}
    (h : Session.NoErrorResult a ch x false b) : Refused a ch b := by
  cases h with
  | refusedOld hh => exact .old hh
  | refusedNew hh e => exact .new hh e

/-! ### The end of an attempt that has succeeded -/

/-- The ways a handler that is run with success can go; `c` says that the sub-class drops the
    channel. -/
inductive SuccessResult (s : Client) (f : OnDone) : Bool → Client → Prop
  | reported : SuccessResult s f false
      (((s.setState .peer).setOnDone none).record (.connectDone none (s.out f.attempt)))
  | dropped (hf : f.kind = .wrapper) (e : Err) : SuccessResult s f true
      ((((s.setState .peer).setOnDone none).backToNull).record
        (.connectDone (some e) (s.out f.attempt)))
  | takenOver (hf : f.kind = .wrapper) : SuccessResult s f false
      ((((s.setState .peer).setOnDone none).setState .connecting).setOnDone
        (some ⟨.takenOver, f.attempt⟩))

/-- The sub-class, if the handler is its own, gives the attempt up. -/
def dropsChannel (s : Client) (hook : Hook) : Bool :=
  s.connOnDoneFuncOrEmpty.any (fun f => f.kind = .wrapper) && hook.isToNull

/-- A connect succeeds, or is kept from PEER state by its handler. -/
theorem connectSucceeded_result {hook : Hook} (hd : s.connectSucceeded cfg hook = .done s') :
    ∃ f, s.connOnDoneFuncOrEmpty = some f ∧ SuccessResult s f (s.dropsChannel hook) s' := by
  simp only [connectSucceeded, Outcome.bind_eq_done] at hd
  obtain ⟨s₁, h₁, hd⟩ := hd
  have hs₁ : s₁ = s' := by
    split at hd
    · simp only [Outcome.bind_eq_done] at hd
      obtain ⟨-, -, hd⟩ := hd
      exact Outcome.done.inj hd
    · exact Outcome.done.inj hd
  subst hs₁
  have hset : (s.setState .peer).connOnDoneFuncOrEmpty = s.connOnDoneFuncOrEmpty := rfl
  cases hf : s.connOnDoneFuncOrEmpty with
  | none =>
    simp only [invokeConnOnDoneFunc, hset, hf] at h₁
    cases h₁
  | some f =>
    refine ⟨f, rfl, ?_⟩
    simp only [invokeConnOnDoneFunc, hset, hf] at h₁
    obtain ⟨kind, attempt⟩ := f
    simp only [dropsChannel, hf, Option.any_some]
    cases kind with
    | wrapper =>
      cases hook with
      | passOn => cases h₁; exact .reported
      | toNull e => cases h₁; exact .dropped rfl e
      | toConnecting => cases h₁; exact .takenOver rfl
    | user => cases hook <;> (cases h₁; exact .reported)
    | takenOver => cases hook <;> (cases h₁; exact .reported)

/-- A handler that is run with an error. -/
theorem invokeConnOnDoneFunc_error {e : Err} {hook : Hook}
    (hd : s.invokeConnOnDoneFunc (some e) hook = .done s') :
    ∃ f, s.connOnDoneFuncOrEmpty = some f ∧
      s' = (s.setOnDone none).record (.connectDone (some e) (s.out f.attempt)) := by
  obtain ⟨f, hf, hr⟩ := invokeConnOnDoneFunc_done hd
  cases hr with
  | plain => exact ⟨f, hf, rfl⟩

/-- NULL state, with the channel gone and the handler run with `e`. -/
def givenUp (s : Client) (f : OnDone) (e : Err) : Client :=
  (s.backToNull.setOnDone none).record (.connectDone (some e) (s.out f.attempt))

/-- Back in NULL state the attempt is given up. -/
theorem backToNull_invoke {e : Err} {hook : Hook}
    (hd : s.backToNull.invokeConnOnDoneFunc (some e) hook = .done s') :
    ∃ f, s.connOnDoneFuncOrEmpty = some f ∧ s' = s.givenUp f e :=
  invokeConnOnDoneFunc_error hd

/-! ### The log-in response -/

/-- The results of `on_master_channel_log_in_rsp()`. -/
inductive LogInRspResult (cfg : Cfg) (m : Msg) (attempt : Nat) (o : ClientOracle) (s : Client) :
    Client → Prop
  | rejected {t : Client} (h : Alike s t) {f : OnDone} (hf : s.connOnDoneFuncOrEmpty = some f)
      (e : Err) : LogInRspResult cfg m attempt o s (t.givenUp f e)
  /-- The channel has failed, and the error handler will complete the attempt. -/
  | refused {t : Client} (h : Alike s t) {ch : MasterChannel} (hm : s.masterChannel = some ch)
      {b : Session} (hb : Refused t.toSession ch b) :
      LogInRspResult cfg m attempt o s (t.setSession b)
  /-- There are init-channels to come. -/
  | expects {t : Client} (h : Alike s t) {ch : MasterChannel} (hm : s.masterChannel = some ch)
      (hh : ch.hosed = false) (cap : InitCapture) :
      LogInRspResult cfg m attempt o s (t.setSession (t.flushTo ch (.initOpenChannel cap)))
  /-- There are none. -/
  | succeeds {t : Client} (h : Alike s t) {ch : MasterChannel} (hm : s.masterChannel = some ch)
      (hh : ch.hosed = false) {r : LogInRsp} (hr : m.body = .logInRsp r)
      (ha : accepts cfg s (s.out attempt) r = true) (hn : asksNone (s.out attempt) r = true)
      (ho : o.expect = .ok) {f : OnDone} (hf : s.connOnDoneFuncOrEmpty = some f) {s' : Client}
      (hs : SuccessResult (t.setSession (t.flushTo ch .openChannelReq)) f (s.dropsChannel o.hook)
        s') : LogInRspResult cfg m attempt o s s'

/-- Reading the log-in response changes names and out-arguments. -/
theorem readLogInRsp_alike {m : Msg} {attempt : Nat} {res : Except Err (Nat × Mdt)}
    (hd : s.readLogInRsp cfg attempt m = .done (res, t)) : Alike s t := by
  obtain ⟨⟨v, w, name, rfl⟩, -⟩ := readLogInRsp_done hd
  exact .of_session rfl rfl rfl (n := name) rfl

/-- The response asks for no init-channels. -/
theorem asksNone_of_count {out : OutArgs} {r : LogInRsp}
    (hcli : out.initChannelsByCliReq.getD [] = [])
    (hn : (r.numInitChannelsBySrvReq + (out.initChannelsByCliReq.getD []).length) % 2 ^ 64 = 0) :
    asksNone out r = true := by
  rw [hcli] at hn
  simp only [asksNone, hcli, decide_true, Bool.true_and]
  exact decide_eq_true hn

/-- The handler of the log-in response is one of the cases of `LogInRspResult`. -/
theorem onMasterChannelLogInRsp_result {chan attempt : Nat} {m : Msg}
    (hd : s.onMasterChannelLogInRsp cfg chan m attempt o = .done s') :
    s.state = .connecting ∧ LogInRspResult cfg m attempt o s s' := by
  simp only [onMasterChannelLogInRsp, Outcome.bind_eq_done, Prod.exists,
    Outcome.check_eq_done] at hd
  obtain ⟨res, t, hread, -, hstate, -, -, hd⟩ := hd
  -- Reading the response changes nothing but what it reads into.
  have ht := readLogInRsp_alike hread
  have hmem : ∀ a, t.out a = s.out a := by
    obtain ⟨⟨v, w, name, rfl⟩, -⟩ := readLogInRsp_done hread
    exact fun _ => rfl
  refine ⟨ht.state.symm.trans (of_decide_eq_true hstate), ?_⟩
  cases res with
  -- A response that is not well formed or rejects: back to NULL state, with the code.
  | error e =>
    obtain ⟨f, hf, rfl⟩ := backToNull_invoke hd
    exact .rejected ht (ht.onDone ▸ hf) e
  | ok p =>
    obtain ⟨n, mdt⟩ := p
    obtain ⟨-, hread'⟩ := readLogInRsp_done hread
    obtain ⟨r, hr, -, hn, -⟩ := hread' n mdt rfl
    simp only at hd
    -- No init-channels at all: the connect completes in this very handler.
    split at hd
    · rename_i hn0
      simp only [Outcome.bind_eq_done, Outcome.check_eq_done, Prod.exists] at hd
      obtain ⟨-, hcli, ok, t₁, h₁, hd⟩ := hd
      obtain ⟨b, hb, rfl⟩ := lift_done h₁
      obtain ⟨ch, hm, hres⟩ := Session.expectOpenChannelReqs_done hb
      have hm : t.masterChannel = some ch := hm
      -- The out-arguments are written first, before anything can refuse.
      have ht₁ := ht.trans (.setOut t attempt { t.out attempt with
        initChannelsBySrvReq := (t.out attempt).initChannelsBySrvReq.map (fun _ => [])
        mdt := (t.out attempt).mdt.map (fun _ => some mdt) })
      cases ok with
      | false =>
        cases hd
        exact .refused ht₁ (ht.channel ▸ hm) (.of_noError hres)
      | true =>
        have hexpect := Session.expectOpenChannelReqs_true hb
        cases hres with
        | ok hh =>
          obtain ⟨f, hf, hs⟩ := connectSucceeded_result hd
          have hf : t.connOnDoneFuncOrEmpty = some f := hf
          have hcli : (s.out attempt).initChannelsByCliReq.getD [] = [] := by
            rw [← hmem]
            exact of_decide_eq_true hcli
          have hdrops : t.dropsChannel o.hook = s.dropsChannel o.hook := by
            simp only [dropsChannel, ht.onDone]
          refine .succeeds ht₁ (ht.channel ▸ hm) hh hr ?_
            (asksNone_of_count hcli (hn ▸ hn0)) hexpect
            (ht.onDone ▸ hf) ?_
          · exact accepts_of_readLogInRsp hread hr
          · exact hdrops ▸ hs
    · simp only [Outcome.bind_eq_done, Prod.exists] at hd
      obtain ⟨-, -, ok, t₁, h₁, hd⟩ := hd
      obtain ⟨b, hb, rfl⟩ := lift_done h₁
      obtain ⟨ch, hm, hres⟩ := Session.expectOpenChannelReqs_done hb
      have hm : t.masterChannel = some ch := hm
      have ht₁ := ht.trans (.setVec t chan [])
      cases hd
      cases ok with
      | false => exact .refused ht₁ (ht.channel ▸ hm) (.of_noError hres)
      | true =>
        cases hres with
        | ok hh => exact .expects ht₁ (ht.channel ▸ hm) hh _

/-! ### The init-channels -/

/-- The requests go from the one handler to the other. -/
def swapHandlers (ch : MasterChannel) (b : Session) : Session :=
  (b.setChannel { ch with openReqHandler := none }).flushTo { ch with openReqHandler := none }
    .openChannelReq

/-- The channel after that. -/
def swapped (ch : MasterChannel) : MasterChannel :=
  { ch with openReqHandler := some .openChannelReq
            cached := ch.cached.filter (fun m => !ch.answers m.body) }

/-- What is left of `a`, with channel `ch`, where one of the calls at the last init-channel is
    refused. -/
inductive CompleteRefused (a : Session) (ch : MasterChannel) : Session → Prop
  | undo {b : Session} (hb : Refused a ch b) : CompleteRefused a ch b
  | expect (hh : ch.hosed = false) (e : Err) :
      CompleteRefused a ch ((a.setChannel { ch with openReqHandler := none }).emitError
        { ch with openReqHandler := none } e)
  | send (hh : ch.hosed = false) (e : Err) :
      CompleteRefused a ch ((swapHandlers ch a).emitError (swapped ch) e)

/-- The results of `on_master_channel_init_open_channel()`. -/
inductive InitOpenChannelResult (m : Msg) (cap : InitCapture) (o : ClientOracle) (s : Client) :
    Client → Prop
  /-- There are more to come. -/
  | waits {t : Client} (h : Alike s t) : InitOpenChannelResult m cap o s t
  /-- The channel has failed, and the error handler will complete the attempt. -/
  | refused {t : Client} (h : Alike s t) {ch : MasterChannel} (hm : s.masterChannel = some ch)
      {b : Session} (hb : CompleteRefused t.toSession ch b) :
      InitOpenChannelResult m cap o s (t.setSession b)
  /-- The acknowledgement could not be sent. -/
  | failed {t : Client} (h : Alike s t) {ch : MasterChannel} (hm : s.masterChannel = some ch)
      (hh : ch.hosed = false) {f : OnDone} (hf : s.connOnDoneFuncOrEmpty = some f) (e : Err) :
      InitOpenChannelResult m cap o s
        ((((t.setSession ((swapHandlers ch t.toSession).failCall (swapped ch) e)).setState
          .null).setOnDone none).record (.connectDone (some e) (t.out f.attempt)))
  | succeeds {t : Client} (h : Alike s t) {ch : MasterChannel} (hm : s.masterChannel = some ch)
      (hh : ch.hosed = false)
      (hl : ((s.vecs.lookup cap.vec).getD []).length + 1 = cap.nInitChannels)
      (hu : o.undo = .ok) (he : o.expect = .ok) (hd : o.send = .ok) {msg : Msg} {u : Client}
      (hu : Alike (t.setSession ((swapHandlers ch t.toSession).transmit (swapped ch) msg)) u)
      {f : OnDone} (hf : s.connOnDoneFuncOrEmpty = some f) {s' : Client}
      (hs : SuccessResult u f (s.dropsChannel o.hook) s') : InitOpenChannelResult m cap o s s'

/-- The handler of an init-channel is one of the cases of `InitOpenChannelResult`. -/
theorem onMasterChannelInitOpenChannel_result {m : Msg} {cap : InitCapture}
    (hd : s.onMasterChannelInitOpenChannel cfg m cap o = .done s') :
    s.state = .connecting ∧ InitOpenChannelResult m cap o s s' := by
  simp only [onMasterChannelInitOpenChannel, Outcome.bind_eq_done, Outcome.check_eq_done] at hd
  obtain ⟨-, hstate, -, -, hd⟩ := hd
  refine ⟨of_decide_eq_true hstate, ?_⟩
  split at hd
  · simp only [Outcome.bind_eq_done, Prod.exists] at hd
    obtain ⟨obj, t₁, h₁, -, -, hd⟩ := hd
    obtain ⟨b, hb, rfl⟩ := lift_done h₁
    -- The channel object is made from a nickname of the passive side, whatever the environment
    -- answers.
    have hb' : b = ((s.record (.initOpenChannelRan m.id)).toSession.nextNickname false).2 := by
      simp [Session.createChannelObj] at hb
      exact hb.2.2.2.2.symm
    subst hb'
    have ht := (Alike.initRan s m.id).trans (.nextNickname _ false)
    split at hd
    · cases hd
      exact .waits (ht.trans (.setVec _ _ _))
    · rename_i hlen
      have ht := ht.trans (.setVec _ cap.vec (((s.vecs.lookup cap.vec).getD []) ++ [some obj]))
      -- The last of them: the container is full and the connect completes or fails here.
      have hlast : ((s.vecs.lookup cap.vec).getD []).length + 1 = cap.nInitChannels := by
        simpa [Client.record] using hlen
      simp only [initChannelsComplete, Outcome.bind_eq_done, Prod.exists] at hd
      obtain ⟨ok₁, t₂, h₂, hd⟩ := hd
      obtain ⟨b₂, hb₂, rfl⟩ := lift_done h₂
      obtain ⟨ch, hm, hr₂⟩ := Session.undoExpectOpenChannelReqs_done hb₂
      have hm' := ht.channel ▸ hm
      -- undo_expect_msgs() refuses only if the channel is hosed already.
      cases ok₁ with
      | false =>
        cases hd
        exact .refused ht hm' (.undo (.of_noError hr₂))
      | true =>
        have hundo := Session.undoExpectOpenChannelReqs_true hb₂
        simp only [Bool.not_true, Bool.false_eq_true, if_false, Outcome.bind_eq_done,
          Prod.exists] at hd
        obtain ⟨ok₃, t₃, h₃, hd⟩ := hd
        obtain ⟨b₃, hb₃, rfl⟩ := lift_done h₃
        obtain ⟨ch₃, hm₃, hr₃⟩ := Session.expectOpenChannelReqs_done hb₃
        cases hr₂ with
        | ok hh =>
          cases hm₃
          -- Expecting the user's requests from now on: the same channel, unhosed a moment ago.
          cases ok₃ with
          | false =>
            cases hd
            cases hr₃ with
            | refusedOld hh' =>
              have hh' : ch.hosed = true := hh'
              rw [hh] at hh'
              cases hh'
            | refusedNew hh' e => exact .refused ht hm' (.expect hh e)
          | true =>
            have hexpect := Session.expectOpenChannelReqs_true hb₃
            simp only [Bool.not_true, Bool.false_eq_true, if_false, Outcome.bind_eq_done,
              Prod.exists] at hd
            obtain ⟨c, t₄, h₄, hd⟩ := hd
            obtain ⟨b₄, hb₄, rfl⟩ := lift_done h₄
            obtain ⟨ch₄, hm₄, hr₄⟩ := Session.send_done hb₄
            cases hr₃ with
            | ok hh' =>
              cases hm₄
              -- The acknowledgement: the last of the four calls that can find the channel hosed.
              generalize hsend : o.send = r at hr₄
              cases hr₄ with
              | refusedOld hh'' =>
                have hh'' : ch.hosed = true := hh''
                rw [hh] at hh''
                cases hh''
              | refusedNew hh'' e =>
                cases hd
                exact .refused ht hm' (.send hh e)
              | failed hh'' e =>
                obtain ⟨f, hf, rfl⟩ := invokeConnOnDoneFunc_error hd
                exact .failed ht hm' hh (ht.onDone ▸ hf) e
              | ok hh'' =>
                simp only [Outcome.bind_eq_done] at hd
                obtain ⟨t₅, h₅, hd⟩ := hd
                obtain ⟨out, rfl⟩ := emitInitChannels_frame h₅
                obtain ⟨f, hf, hs⟩ := connectSucceeded_result hd
                exact .succeeds ht hm' hh hlast hundo hexpect hsend (.setOut _ _ _)
                  (ht.onDone ▸ hf) hs
  · cases hd

/-! ### The ends of an attempt that others bring about -/

/-- The results of `on_master_channel_error()`. -/
inductive ErrorResult (cfg : Cfg) (chan : Nat) (e : Err) (s : Client) : Client → Prop
  | other (hc : s.masterChannel.map (·.id) ≠ some chan) : ErrorResult cfg chan e s s
  | failed (hc : s.masterChannel.map (·.id) = some chan) (hs : s.state = .connecting) {f : OnDone}
      (hf : s.connOnDoneFuncOrEmpty = some f) : ErrorResult cfg chan e s (s.givenUp f e)
  | peer (hs : s.state = .peer) {b : Session} (hb : s.onMasterChannelErrorPeer cfg e = .done b) :
      ErrorResult cfg chan e s (s.setSession b)

/-- The report of an error is one of the cases of `ErrorResult`. -/
theorem onMasterChannelError_result {chan : Nat} {e : Err}
    (hd : s.onMasterChannelError cfg chan e = .done s') : ErrorResult cfg chan e s s' := by
  simp only [onMasterChannelError] at hd
  split at hd
  · rename_i hc
    cases hd
    exact .other hc
  · rename_i hc
    have hc := not_not.mp hc
    cases hs : s.state with
    | null =>
      rw [hs] at hd
      cases hd
    | connecting =>
      simp only [hs, Outcome.bind_eq_done] at hd
      obtain ⟨-, -, hd⟩ := hd
      obtain ⟨f, hf, rfl⟩ := backToNull_invoke hd
      exact .failed hc hs hf
    | peer =>
      simp only [hs] at hd
      obtain ⟨b, hb, rfl⟩ := liftUnit_done hd
      exact .peer hs hb

/-- The results of `complete_async_connect_after_canceling_peer_state()`. -/
inductive CompleteResult (r : Ret) (s : Client) : ErrorCode → Client → Prop
  | failed {f : OnDone} (hf : s.connOnDoneFuncOrEmpty = some f) (e : Err) :
      CompleteResult r s (some e) (s.givenUp f e)
  | succeeds {b : Session} (hb : b = s.toSession ∨ s.emplaceGracefulFinisher r = .done b)
      {f : OnDone} (hf : s.connOnDoneFuncOrEmpty = some f) :
      CompleteResult r s none
        ((((s.setState .peer).setSession b).setOnDone none).record
          (.connectDone none (s.out f.attempt)))

/-- A sub-class's completion is one of the cases of `CompleteResult`. -/
theorem complete_result {e : ErrorCode} {r : Ret}
    (hd : s.completeAsyncConnectAfterCancelingPeerState cfg e r = .done s') :
    CompleteResult r s e s' := by
  simp only [completeAsyncConnectAfterCancelingPeerState, Outcome.bind_eq_done, Prod.exists] at hd
  obtain ⟨h, s₁, h₁, -, -, hd⟩ := hd
  obtain ⟨b, hb, rfl⟩ := lift_done h₁
  simp only [Outcome.bind_eq_done] at hb
  obtain ⟨h₂, -, hb⟩ := hb
  cases hb
  cases e with
  | some e =>
    obtain ⟨f, hf, rfl⟩ := backToNull_invoke hd
    exact .failed hf e
  | none =>
    simp only [Outcome.bind_eq_done] at hd
    obtain ⟨s₂, h₂, hd⟩ := hd
    obtain ⟨f, hf, rfl⟩ := invokeConnOnDoneFunc_passOn_done hd
    simp only [engageFinisher] at h₂
    split at h₂
    · obtain ⟨b₂, hb₂, rfl⟩ := liftUnit_done h₂
      exact CompleteResult.succeeds (s := s) (.inr hb₂) hf
    · cases h₂
      exact CompleteResult.succeeds (s := s) (.inl rfl) hf

/-! ### Where a sub-class has its say -/

/-- Handling the task at hand ends in the completion handler, with success. -/
def completes (cfg : Cfg) (s : Client) (o : ClientOracle) : Bool :=
  match s.queue with
  | .logInRsp _ m attempt :: _ =>
    match m.body with
    | .logInRsp r =>
      accepts cfg s (s.out attempt) r && asksNone (s.out attempt) r && o.expect = .ok
    | _ => false
  | .initOpenChannel _ _ cap :: _ =>
    ((s.vecs.lookup cap.vec).getD []).length + 1 = cap.nInitChannels && o.undo = .ok &&
      o.expect = .ok && o.send = .ok
  | _ => false

end Client

end IpcSession
