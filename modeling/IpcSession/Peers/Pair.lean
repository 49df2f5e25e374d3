import IpcSession.Client.Model
import IpcSession.Machine.Run
import IpcSession.Server.Model

namespace IpcSession

/-!
# A client session and its opposing server session

The client makes a channel, and one server session is at its other end.  What the client has to do
with other servers, before or after, happens over other channels; so in a `Pair` it makes no second
one.

* `Pair.start` — any client between two channels, and a new server session.
* `Pair.step` — one side's step, or a message of one side's that comes to the other: the oldest that
  has not come over yet, since a channel loses nothing but what is under way when it ends.
-/

/-- The two ends of one master channel. -/
structure Pair where
  cli : Client
  srv : Server
  /-- The number of the client's channel. -/
  link : Nat
  /-- How many messages the client had sent over its earlier channels. -/
  sentBefore : Nat
  /-- The messages that have come over, oldest first. -/
  atCli : List Msg
  atSrv : List Msg
  deriving DecidableEq, Repr

namespace Pair

/-- The client is about to make its channel, and the server session to accept it. -/
def start (c : Client) (srvNamespace : SharedName) (out : OutArgs) : Pair :=
  { cli := c, srv := .fresh srvNamespace out, link := c.nextChan, sentBefore := c.outbox.length,
    atCli := [], atSrv := [] }

/-- A step of one side, or of the channel. -/
inductive Act where
  | cli (a : Client.Act)
  | srv (a : Server.Act)
  /-- The channel hands the client the server's next message. -/
  | toCli
  /-- The channel hands the server the client's next message. -/
  | toSrv
  deriving DecidableEq, Repr

/-- One step of the pair; `cc` and `sc` are the configurations of the two sides. -/
def step (cc sc : Cfg) (p : Pair) : Act → Outcome Failure Pair
  -- Messages arrive by the two steps at the end, never out of thin air.
  | .cli (.deliver _) => .disabled
  | .cli a => do
    let cli ← Client.step cc p.cli a
    -- A second connection would be to another session of the server.
    Outcome.require (cli.nextChan ≤ p.link + 1)
    return { p with cli }
  | .srv (.deliver _) => .disabled
  | .srv a => do
    let srv ← Server.step sc p.srv a
    return { p with srv }
  | .toCli =>
    match p.srv.outbox[p.atCli.length]? with
    | none => .disabled
    | some m => do
      let cli ← Client.step cc p.cli (.deliver m)
      return { p with cli, atCli := p.atCli ++ [m] }
  | .toSrv =>
    match p.cli.outbox[p.sentBefore + p.atSrv.length]? with
    | none => .disabled
    | some m => do
      let srv ← Server.step sc p.srv (.deliver m)
      return { p with srv, atSrv := p.atSrv ++ [m] }

variable {cc sc : Cfg} {p p' : Pair}

/-- What a step of the pair is made of. -/
inductive Stepped (cc sc : Cfg) (p : Pair) : Act → Pair → Prop
  | cli {a : Client.Act} {c : Client} (hno : ∀ m, a ≠ .deliver m)
      (hd : Client.step cc p.cli a = .done c) (hn : c.nextChan ≤ p.link + 1) :
      Stepped cc sc p (.cli a) { p with cli := c }
  | srv {a : Server.Act} {s : Server} (hno : ∀ m, a ≠ .deliver m)
      (hd : Server.step sc p.srv a = .done s) : Stepped cc sc p (.srv a) { p with srv := s }
  | toCli {m : Msg} {c : Client} (hm : p.srv.outbox[p.atCli.length]? = some m)
      (hd : Client.step cc p.cli (.deliver m) = .done c) :
      Stepped cc sc p .toCli { p with cli := c, atCli := p.atCli ++ [m] }
  | toSrv {m : Msg} {s : Server} (hm : p.cli.outbox[p.sentBefore + p.atSrv.length]? = some m)
      (hd : Server.step sc p.srv (.deliver m) = .done s) :
      Stepped cc sc p .toSrv { p with srv := s, atSrv := p.atSrv ++ [m] }

/-- A step of the pair is one side's, or a message that gets to the other. -/
theorem step_done {a : Act} (hd : step cc sc p a = .done p') : Stepped cc sc p a p' := by
  cases a with
  | cli a =>
    cases a with
    | deliver m => cases hd
    | _ =>
      simp only [step, Outcome.bind_eq_done, Outcome.require_eq_done, decide_eq_true_eq] at hd
      obtain ⟨c, hc, -, hn, hd⟩ := hd
      cases hd
      exact .cli (fun m h => by cases h) hc hn
  | srv a =>
    cases a with
    | deliver m => cases hd
    | _ =>
      simp only [step, Outcome.bind_eq_done] at hd
      obtain ⟨s, hs, hd⟩ := hd
      cases hd
      exact .srv (fun m h => by cases h) hs
  | toCli =>
    simp only [step] at hd
    split at hd
    · cases hd
    · rename_i m hm
      simp only [Outcome.bind_eq_done] at hd
      obtain ⟨c, hc, hd⟩ := hd
      cases hd
      exact .toCli hm hc
  | toSrv =>
    simp only [step] at hd
    split at hd
    · cases hd
    · rename_i m hm
      simp only [Outcome.bind_eq_done] at hd
      obtain ⟨s, hs, hd⟩ := hd
      cases hd
      exact .toSrv hm hs

/-- The pair fails with nothing that neither side fails with. -/
theorem step_failsOnly {P : Failure → Prop} (hc : ∀ b, (Client.step cc p.cli b).FailsOnly P)
    (hs : ∀ b, (Server.step sc p.srv b).FailsOnly P) (a : Act) : (step cc sc p a).FailsOnly P := by
  cases a with
  | cli a =>
    cases a with
    | deliver m => exact Outcome.failsOnly_disabled
    | _ =>
      simp only [step, Outcome.failsOnly_bind]
      exact ⟨hc _, fun _ _ => ⟨by simp, fun _ _ => by simp⟩⟩
  | srv a =>
    cases a with
    | deliver m => exact Outcome.failsOnly_disabled
    | _ =>
      simp only [step, Outcome.failsOnly_bind]
      exact ⟨hs _, fun _ _ => by simp⟩
  | toCli =>
    simp only [step]
    split
    · simp
    · simp only [Outcome.failsOnly_bind]
      exact ⟨hc _, fun _ _ => by simp⟩
  | toSrv =>
    simp only [step]
    split
    · simp
    · simp only [Outcome.failsOnly_bind]
      exact ⟨hs _, fun _ _ => by simp⟩

end Pair

end IpcSession
