import Ratsio.Ops

/-!
The reconnect machine of `NatsConnection` and the gate of its view `NatsConnSinkStream`
(`net/connection.rs`). The machine has one thread per running call of `trigger_reconnect` and
one per spawned attempt, and `NatsConnection.step` runs one thread up to its next lock or send;
the retry a failed attempt schedules is a new call of `trigger_reconnect`.
-/

namespace Ratsio

/-- State of the raw connection (`NatsConnectionState`). -/
inductive NatsConnectionState where
  | connected
  | reconnecting
  | disconnected
  deriving DecidableEq, Repr

/-- Where one running call of `trigger_reconnect` stands. -/
inductive TriggerPc where
  /-- Before `conn.state.read().1`. -/
  | start
  /-- It read `connect_version`; next it takes the write lock and decides. -/
  | decide (connectVersion : Nat)
  /-- It set the phase to `Disconnected`; next it calls `reconnect`. -/
  | reconnect
  deriving DecidableEq, Repr

/-- Where one attempt, the task `reconnect` spawns, stands. -/
inductive AttemptPc where
  /-- `get_conn_inner` is dialing. -/
  | dialing
  /-- The dial ended (with the endpoint and a transport on success) and the closure read
  `connect_version`. -/
  | dialed (connectVersion : Nat) (result : Option Url)
  /-- The new transport is in `conn.inner`; next the closure writes `state`. -/
  | installed (connectVersion : Nat)
  deriving DecidableEq, Repr

/-- `NatsConnection` with the threads running on it. `inner` holds the endpoint and the
transport; transports are numbered in the order they are installed. `reconnectHandler`
counts the messages sent on the `reconnect_handler` channel, and `announcing` the attempts that
wrote `Connected` and have still to send theirs. The fields `is_tls`, `init_hosts`,
`reconnect_hosts` and `reconnect_timeout` only feed the dial and the delay of a retry, which the
machine leaves open; `control_receiver` writes `reconnect_hosts` from an `INFO`, which changes
nothing the machine decides. -/
structure NatsConnection where
  state : NatsConnectionState × Nat
  inner : Url × Nat
  reconnectHandler : Nat
  triggers : List TriggerPc
  attempts : List AttemptPc
  announcing : Nat
  deriving DecidableEq, Repr

/-- One thread of the machine runs up to its next lock. -/
inductive Action where
  /-- Someone calls `trigger_reconnect`: a `NatsConnSinkStream` that saw `ServerDisconnected`,
  the pinger, or any other caller. -/
  | trigger
  /-- Running call `i` of `trigger_reconnect` takes its next step. -/
  | triggerStep (i : Nat)
  /-- The dial of attempt `i` ends, with the endpoint on success, and the attempt reads the
  version. -/
  | dial (i : Nat) (result : Option Url)
  /-- Attempt `i` takes its next step. -/
  | attemptStep (i : Nat)
  /-- An attempt that wrote `Connected` sends the connection on `reconnect_handler`. -/
  | announce
  deriving DecidableEq, Repr

namespace NatsConnection

/-- The value `create_connection` builds around the first transport it dialed. -/
def create (url : Url) : NatsConnection where
  state := (.connected, 0)
  inner := (url, 0)
  reconnectHandler := 0
  triggers := []
  attempts := []
  announcing := 0

/-- A new call of `trigger_reconnect` starts. -/
def trigger (c : NatsConnection) : NatsConnection :=
  { c with triggers := c.triggers ++ [.start] }

/-- The running call `i` of `trigger_reconnect` returns. -/
def finishTrigger (c : NatsConnection) (i : Nat) : NatsConnection :=
  { c with triggers := c.triggers.eraseIdx i }

/-- `reconnect`, called by the running call `i` of `trigger_reconnect`. -/
def reconnect (c : NatsConnection) (i : Nat) : NatsConnection :=
  if c.state.1 = .disconnected then
    { c with
      state := (.reconnecting, c.state.2)
      triggers := c.triggers.eraseIdx i
      attempts := c.attempts ++ [.dialing] }
  else
    c.finishTrigger i

/-- `trigger_reconnect`, from the point `pc` to its next lock. -/
def triggerReconnect (c : NatsConnection) (i : Nat) : TriggerPc → NatsConnection
  | .start => { c with triggers := c.triggers.set i (.decide c.state.2) }
  | .decide connectVersion =>
    if c.state.1 = .reconnecting then
      c.finishTrigger i
    else if c.state.1 = .connected ∧ c.state.2 > connectVersion then
      c.finishTrigger i
    else
      { c with state := (.disconnected, c.state.2), triggers := c.triggers.set i .reconnect }
  | .reconnect => c.reconnect i

/-- The closure of the attempt `i` spawned by `reconnect`, from `pc` to its next lock. On
success it installs the new transport and then sets `(Connected, connect_version + 1)`, after
which its send on `reconnect_handler` is left; on failure it sets
`(Disconnected, connect_version)` and schedules another `trigger_reconnect`. -/
def attempt (c : NatsConnection) (i : Nat) : AttemptPc → NatsConnection
  | .dialing => c
  | .dialed connectVersion (some url) =>
    { c with inner := (url, c.inner.2 + 1), attempts := c.attempts.set i (.installed connectVersion) }
  | .dialed connectVersion none =>
    { c.trigger with
      state := (.disconnected, connectVersion)
      attempts := c.attempts.eraseIdx i }
  | .installed connectVersion =>
    { c with
      state := (.connected, connectVersion + 1)
      attempts := c.attempts.eraseIdx i
      announcing := c.announcing + 1 }

/-- The send on `reconnect_handler` of an attempt that wrote `Connected`. -/
def announce (c : NatsConnection) : NatsConnection :=
  { c with reconnectHandler := c.reconnectHandler + 1, announcing := c.announcing - 1 }

/-- One step of the machine; `none` when the named thread does not exist or waits. -/
def step (c : NatsConnection) : Action → Option NatsConnection
  | .trigger => some c.trigger
  | .triggerStep i => c.triggers[i]?.map (c.triggerReconnect i)
  | .dial i result =>
    match c.attempts[i]? with
    | some .dialing => some { c with attempts := c.attempts.set i (.dialed c.state.2 result) }
    | _ => none
  | .attemptStep i =>
    match c.attempts[i]? with
    | some .dialing => none
    | some pc => some (c.attempt i pc)
    | none => none
  | .announce => if 0 < c.announcing then some c.announce else none

/-- The states a connection can reach from the one `create_connection` builds. -/
inductive Reachable : NatsConnection → Prop
  | create (url : Url) : Reachable (create url)
  | step {c c' : NatsConnection} (a : Action) : Reachable c → c.step a = some c' → Reachable c'

/-- Runs the actions in order; `none` as soon as one cannot run. -/
def run (c : NatsConnection) : List Action → Option NatsConnection
  | [] => some c
  | a :: as => (c.step a).bind (run · as)

theorem Reachable.run {c c' : NatsConnection} {as : List Action} (hc : c.Reachable)
    (h : c.run as = some c') : c'.Reachable := by
  induction as generalizing c with
  | nil => cases h; exact hc
  | cons a as ih =>
    simp only [NatsConnection.run, Option.bind_eq_some] at h
    obtain ⟨c₁, h₁, h₂⟩ := h
    exact ih (.step a hc h₁) h₂

end NatsConnection

/-- What `NatsConnSinkStream::start_send` answers for one frame, and what it did with it. -/
structure StartSend where
  result : Except RatsioError Unit
  /-- The frame reached the inner transport's `start_send`. -/
  passed : Bool
  /-- `reconnect_trigger` was called. -/
  triggered : Bool
  deriving DecidableEq, Repr

namespace NatsConnSinkStream

/-- The check that opens `start_send`, `poll_flush` and `poll_next`: `try_read` on the state
lock succeeded (`some`) and the phase is `Connected`. -/
def ready : Option (NatsConnectionState × Nat) → Bool
  | some state => state.1 = .connected
  | none => false

/-- `NatsConnSinkStream::start_send`. `state` is what `try_read` on the state lock gives,
`none` while a writer holds it; `inner` is `none` when `try_write` on the inner lock fails, and
otherwise what the inner transport's `start_send` answers. -/
def startSend (state : Option (NatsConnectionState × Nat))
    (inner : Option (Except RatsioError Unit)) : StartSend :=
  if !ready state then
    ⟨.ok (), false, false⟩
  else
    match inner with
    | some (.error .serverDisconnected) => ⟨.ok (), true, true⟩
    | some result => ⟨result, true, false⟩
    | none => ⟨.ok (), false, false⟩

end NatsConnSinkStream

end Ratsio
