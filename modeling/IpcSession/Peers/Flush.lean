import IpcSession.Client.Progress
import IpcSession.Server.Progress

namespace IpcSession

/-!
# The final flush of both destructors

Both destructors make thread W wait for a promise that the handler of `async_end_sending()` sets.
They ignore what the call returns; where it returns `false`, the handler never runs, and threads W
and U are stuck (`not_flushSafe_literally`).  Where it does run, nothing is stuck, but for a thread
W that waits for the client's answer to the last init-channel (`flushSafe_of_run`).
-/

/-- **The destructors are not stuck in the final flush**, on either side, where its handler runs. -/
theorem flushSafe_of_run (cfg : Cfg) :
    (∀ passiveOpen as s,
      Machine.run (Machine.guarded Client.flushRuns (Client.step cfg))
      (Client.fresh passiveOpen) as =
        .done s →
      Client.FlushSafe cfg s ∧ as.count .flushDone ≤ 1) ∧
    (∀ srvNamespace as s,
      Machine.run (Machine.guarded Server.flushRuns (Server.step cfg))
        (Server.constructed srvNamespace) as = .done s →
      Server.FlushSafe cfg s ∧ as.count .flushDone ≤ 1) ∧
    (∀ srvNamespace out as s,
      Machine.run (Machine.guarded Server.flushRuns (Server.step cfg))
      (Server.fresh srvNamespace out)
        as = .done s →
      Server.FlushSafe cfg s ∧ as.count .flushDone ≤ 1 ∧
        s.log.countP Event.isLogInDone ≤ 1 ∧
        (s.dtor = .returned → s.log.countP Event.isLogInDone = 1)) := by
  refine ⟨fun _ as s h => Client.safe_of_run h, fun ns as s h => ?_, fun ns out as s h => ?_⟩
  · exact (Server.flushInv_constructed ns).run h
  · obtain ⟨hsafe, hcount⟩ := (Server.flushInv_fresh ns out).run h
    have hinv : Server.LogInInv cfg s := Machine.Reaches.invariant (Machine.Reaches.of_run as h)
      (Server.logInInv_fresh ns out)
      fun _ _ _ hinv _ hd => hinv.step (Machine.guarded_done hd).2
    exact ⟨hsafe, hcount, hinv.completes.atMostOnce, hinv.completes.byReturn⟩

namespace Server

/-- The log-in up to its success, with no init-channels. -/
def logInPrefix : List Act :=
  [.run { osProcCreds := ⟨5, 1, 1⟩, osProcInvokedAs := ['/', 'c'] },
    .deliver ⟨0, none, none, .logInReq ⟨1, 1, .none, true, some ⟨5, 1, 1⟩, ['c'], .none, [], 0⟩⟩,
    .run {}]

end Server

/-- Either side, hosed and then destroyed: the flush is on, and some step is enabled.  A server
    whose log-in never came to an end runs its handler when destroyed. -/
theorem flushSafe_of_run_hosed :
    (∃ s : Client, s.dtor = .flushing ∧ Client.LocalStep .sample s) ∧
    (∃ s : Server, s.dtor = .flushing ∧ Server.LocalStep .sample s) ∧
    (∃ s : Server, s.dtor = .returned ∧ s.log.countP Event.isLogInDone = 1) := by
  refine ⟨?_, ?_, ?_⟩
  · obtain ⟨s, hs, hp⟩ := Outcome.any_iff.mp (show Outcome.any (fun s => s.dtor = .flushing)
      (Machine.run (Machine.guarded Client.flushRuns (Client.step .sample)) (Client.fresh true)
        (Client.connectPrefix ⟨none, none, none⟩ ⟨1, 1, ['1'], [], 0⟩ ++
          [.channelError (.other 1), .run {}, .dtorStart, .run {}])) = true by decide)
    have hp : s.dtor = .flushing := of_decide_eq_true hp
    exact ⟨s, hp, ((flushSafe_of_run .sample).1 true _ s hs).1.progress (.inr (.inl hp))⟩
  · obtain ⟨s, hs, hp⟩ := Outcome.any_iff.mp (show Outcome.any (fun s => s.dtor = .flushing &&
        !s.waitsForPeer)
      (Machine.run (Machine.guarded Server.flushRuns (Server.step .sample))
        (Server.constructed ['7'])
        [.dtorStart]) = true by decide)
    simp only [Bool.and_eq_true, decide_eq_true_eq, Bool.not_eq_true'] at hp
    exact ⟨s, hp.1, (((flushSafe_of_run .sample).2.1 ['7'] _ s hs).1.flush (.inl hp.1)).mpr hp.2⟩
  · obtain ⟨s, hs, hp⟩ := Outcome.any_iff.mp (show Outcome.any (fun s => s.dtor = .returned)
      (Machine.run (Machine.guarded Server.flushRuns (Server.step .sample))
        (Server.fresh ['7'] ⟨none, none, none⟩)
        [.run {}, .channelError (.other 1), .dtorStart, .run {}, .run {}, .dtorStep, .dtorFinish]) =
          true by decide)
    have hp : s.dtor = .returned := of_decide_eq_true hp
    exact ⟨s, hp, ((flushSafe_of_run .sample).2.2 ['7'] ⟨none, none, none⟩ _ s hs).2.2.2 hp⟩

/-- **A hosed channel makes both destructors hang**: `async_end_sending()` returns `false`, and
    nobody sets the promise. -/
theorem not_flushSafe_literally :
    (¬ ∀ (cfg : Cfg) (passiveOpen : Bool) (s : Client),
      Machine.Reaches (Client.step cfg) Machine.anyStep (Client.fresh passiveOpen) s →
        s.dtor = .flushing → Client.LocalStep cfg s) ∧
    (¬ ∀ (cfg : Cfg) (srvNamespace : SharedName) (out : OutArgs) (s : Server),
      Machine.Reaches (Server.step cfg) Machine.anyStep (Server.fresh srvNamespace out) s →
        s.dtor = .flushing → Server.LocalStep cfg s) := by
  constructor
  · intro hall
    obtain ⟨s, hr, hs⟩ := Machine.Reaches.exists_of_run (Client.step .sample) (Client.fresh true)
      (Client.connectPrefix ⟨none, none, none⟩ ⟨1, 1, ['1'], [], 0⟩ ++
        [.channelError (.other 1), .run {}, .dtorStart, .run { flushRuns := false }])
      (fun s => s.channelHosed && decide (s.dtor = .flushing) && decide (s.w = .flushing false))
      (by decide)
    simp only [Bool.and_eq_true, decide_eq_true_eq] at hs
    exact Client.not_localStep_of_flushing hs.1.2 hs.2 (hall _ _ s hr hs.1.2)
  · intro hall
    obtain ⟨s, hr, hs⟩ := Machine.Reaches.exists_of_run (Server.step .sample)
      (Server.fresh ['7'] ⟨none, none, none⟩)
      (Server.logInPrefix ++
        [.channelError (.other 1), .run {}, .dtorStart, .run { flushRuns := false }])
      (fun s => s.channelHosed && decide (s.dtor = .flushing) && decide (s.w = .flushing false))
      (by decide)
    simp only [Bool.and_eq_true, decide_eq_true_eq] at hs
    exact Server.not_localStep_of_flushing hs.1.2 hs.2 (hall _ _ _ s hr hs.1.2)

end IpcSession
