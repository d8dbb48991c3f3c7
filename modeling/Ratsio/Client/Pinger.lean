import Ratsio.Client.ClientLemmas

/-!
The pinger that `create_client` spawns. `ConsistentCounter::inc` answers the value before the
increment, so the pinger fires at the `ping_max_out + 2`-th `PING` since a reset
(`pinger_fires_at_max_plus_two`).
-/

namespace Ratsio

namespace NatsClient

variable {w w' : NatsClient} {a : ClientAction}

theorem ping_eq (w : NatsClient) : w.ping =
    if w.state = .connected then
      if w.opts.pingMaxOut < w.pingAttempts then
        { w.send .ping with
          pingAttempts := w.pingAttempts + 1, state := .disconnected
          connection := (w.send .ping).connection.trigger }
      else { w.send .ping with pingAttempts := w.pingAttempts + 1 }
    else w :=
  rfl

theorem pingAttempts_step (h : w.step a = some w') :
    w'.pingAttempts = 0 ∨ w'.pingAttempts = w.pingAttempts ∨
      (a = .ping ∧ w.state = .connected ∧ w'.pingAttempts = w.pingAttempts + 1) := by
  cases moves_of_step h with
  | controlPing | controlInfo | controlReset | handleResetPings => exact .inl rfl
  | pingTick hs | pingFire hs => exact .inr (.inr ⟨rfl, hs, rfl⟩)
  | _ => exact .inr (.inl rfl)

theorem disconnect_other (hs : w'.state ≠ .disconnected) (ha : a ≠ .ping) :
    (w'.state = .disconnected ∧ w.state ≠ .disconnected ↔
      a = .ping ∧ w.state = .connected ∧ w.opts.pingMaxOut < w.pingAttempts) ∧
    (a = .ping → w.state = .connected →
      w'.connection = if w.opts.pingMaxOut < w.pingAttempts then (w.send .ping).connection.trigger
        else (w.send .ping).connection) :=
  ⟨⟨fun h => absurd h.1 hs, fun h => absurd h.1 ha⟩, fun h => absurd h ha⟩

theorem disconnect_step (h : w.step a = some w') :
    (w'.state = .disconnected ∧ w.state ≠ .disconnected ↔
      a = .ping ∧ w.state = .connected ∧ w.opts.pingMaxOut < w.pingAttempts) ∧
    (a = .ping → w.state = .connected →
      w'.connection = if w.opts.pingMaxOut < w.pingAttempts then (w.send .ping).connection.trigger
        else (w.send .ping).connection) := by
  cases moves_of_step h with
  | pingFire hs hgt =>
    exact ⟨⟨fun _ => ⟨rfl, hs, hgt⟩, fun _ => ⟨rfl, by rw [hs]; nofun⟩⟩, fun _ _ => (if_pos hgt).symm⟩
  | pingTick hs hle =>
    exact ⟨⟨fun h => absurd (hs.symm.trans h.1) nofun, fun h => absurd h.2.2 (Nat.not_lt.mpr hle)⟩,
      fun _ _ => (if_neg (Nat.not_lt.mpr hle)).symm⟩
  | pingIdle hs => exact ⟨⟨fun h => absurd h.1 h.2, fun h => absurd h.2.1 hs⟩, fun _ h => absurd h hs⟩
  | controlConnected => exact disconnect_other nofun nofun
  | handleTake => exact disconnect_other nofun nofun
  | handleMarkConnected => exact disconnect_other nofun nofun
  | _ => exact ⟨⟨fun h => absurd h.1 h.2, fun h => nomatch h.1⟩, nofun⟩

/-- How many of the next `k` frames handed from `w` on, the connection staying as it is in `w`,
meet a transport that answers `ServerDisconnected`: each of them calls `trigger_reconnect`. -/
def sinkTriggers (w : NatsClient) (k : Nat) : Nat :=
  ((List.range k).filter fun i =>
    decide (w.connection.state.1 = .connected) && (w.sinkAnswers (w.handed.length + i)).stateFree &&
      decide ((w.sinkAnswers (w.handed.length + i)).inner = some (.error .serverDisconnected))).length

theorem sinkTriggers_succ (w : NatsClient) (k : Nat) :
    w.sinkTriggers (k + 1) = w.sinkTriggers k +
      if decide (w.connection.state.1 = .connected) &&
        (w.sinkAnswers (w.handed.length + k)).stateFree &&
        decide ((w.sinkAnswers (w.handed.length + k)).inner = some (.error .serverDisconnected))
      then 1 else 0 := by
  simp only [sinkTriggers, List.range_succ, List.filter_append, List.length_append]
  split <;> simp [*]

theorem send_ping_connection {w₀ : NatsClient} {j : Nat} (hc : w.connection =
      { w₀.connection with
        triggers := w₀.connection.triggers ++ List.replicate (w₀.sinkTriggers j) .start })
    (hh : w.handed = w₀.handed ++ List.replicate j .ping) (ha : w.sinkAnswers = w₀.sinkAnswers) :
    (w.send .ping).connection =
      { w₀.connection with
        triggers := w₀.connection.triggers ++ List.replicate (w₀.sinkTriggers (j + 1)) .start } := by
  have htrig : w.sinkResult.triggered = (decide (w₀.connection.state.1 = .connected) &&
      (w₀.sinkAnswers (w₀.handed.length + j)).stateFree &&
      decide ((w₀.sinkAnswers (w₀.handed.length + j)).inner = some (.error .serverDisconnected))) := by
    simp only [(sinkResult_eq w).2, hc, hh, ha, List.length_append, List.length_replicate]
  show (if w.sinkResult.triggered then w.connection.trigger else w.connection) = _
  rw [htrig, sinkTriggers_succ]
  split_ifs <;> simp [hc, NatsConnection.trigger, List.replicate_succ']

theorem ping_run (hs : w.state = .connected) (h0 : w.pingAttempts = 0) (j : Nat) :
    ∃ w', w.run (List.replicate j .ping) = some w' ∧ w'.opts = w.opts ∧
      w'.sinkAnswers = w.sinkAnswers ∧
      (w'.state, w'.pingAttempts, w'.handed, w'.connection) =
        if w.opts.pingMaxOut + 2 ≤ j then
          (.disconnected, w.opts.pingMaxOut + 2,
            w.handed ++ List.replicate (w.opts.pingMaxOut + 2) .ping,
            { w.connection with
              triggers := w.connection.triggers ++
                List.replicate (w.sinkTriggers (w.opts.pingMaxOut + 2) + 1) .start })
        else
          (.connected, j, w.handed ++ List.replicate j .ping,
            { w.connection with
              triggers := w.connection.triggers ++ List.replicate (w.sinkTriggers j) .start }) := by
  induction j with
  | zero => exact ⟨w, rfl, rfl, rfl, by simp [hs, h0, sinkTriggers]⟩
  | succ j ih =>
    obtain ⟨w', hrun, hopts, hans, hst⟩ := ih
    refine ⟨w'.ping, by rw [List.replicate_succ', run_append, hrun]; rfl,
      by rw [ping_eq]; split_ifs <;> exact hopts, by rw [ping_eq]; split_ifs <;> exact hans, ?_⟩
    rw [← hopts] at hst ⊢
    split_ifs at hst with hj
    · simp only [Prod.mk.injEq] at hst
      obtain ⟨hd, hc, hh, hcon⟩ := hst
      rw [ping_eq, if_neg (by simp [hd]), if_pos (by omega), hd, hc, hh, hcon]
    · simp only [Prod.mk.injEq] at hst
      obtain ⟨hc, hcount, hh, hcon⟩ := hst
      have hsend := send_ping_connection hcon hh hans
      have hhand : (w'.send .ping).handed = w.handed ++ List.replicate (j + 1) .ping := by
        rw [send_handed, hh, List.append_assoc, List.replicate_succ']
      rw [ping_eq, if_pos hc, hcount]
      split_ifs with hm hj1 hj1
      · obtain rfl : j = w'.opts.pingMaxOut + 1 := by omega
        refine Prod.ext rfl (Prod.ext rfl (Prod.ext hhand ?_))
        show (w'.send .ping).connection.trigger = _
        rw [hsend]
        simp [NatsConnection.trigger, List.replicate_succ']
      · omega
      · omega
      · exact Prod.ext hc (Prod.ext rfl (Prod.ext hhand hsend))

/-- The pinger against its counter, over every interleaving: every step resets the counter,
keeps it, or is a tick taken while `Connected`, which adds one; a step writes `Disconnected`
exactly when it is a tick taken while `Connected` whose count before the tick exceeds
`ping_max_out`, and a tick taken while `Connected` calls `trigger_reconnect` itself exactly then.
From a reset while `Connected`, ticks alone send `PING` and leave the client `Connected` up to
the `ping_max_out + 1`-th, and disconnect it at the `ping_max_out + 2`-th, once; the connection
then has one call of `trigger_reconnect` more than the `PING`s that met a `ServerDisconnected`
started. -/
theorem pinger_fires_at_max_plus_two :
    (∀ {w w' : NatsClient} {a : ClientAction}, w.step a = some w' →
      (w'.pingAttempts = 0 ∨ w'.pingAttempts = w.pingAttempts ∨
        (a = .ping ∧ w.state = .connected ∧ w'.pingAttempts = w.pingAttempts + 1)) ∧
      (w'.state = .disconnected ∧ w.state ≠ .disconnected ↔
        a = .ping ∧ w.state = .connected ∧ w.opts.pingMaxOut < w.pingAttempts) ∧
      (a = .ping → w.state = .connected →
        w'.connection = if w.opts.pingMaxOut < w.pingAttempts then (w.send .ping).connection.trigger
          else (w.send .ping).connection)) ∧
    ∀ w : NatsClient, w.state = .connected → w.pingAttempts = 0 → ∀ j,
      (w.run (List.replicate j .ping)).map
          (fun w' => (w'.state, w'.pingAttempts, w'.handed, w'.connection)) =
        some (if w.opts.pingMaxOut + 2 ≤ j then
          (.disconnected, w.opts.pingMaxOut + 2,
            w.handed ++ List.replicate (w.opts.pingMaxOut + 2) .ping,
            { w.connection with
              triggers := w.connection.triggers ++
                List.replicate (w.sinkTriggers (w.opts.pingMaxOut + 2) + 1) .start })
        else
          (.connected, j, w.handed ++ List.replicate j .ping,
            { w.connection with
              triggers := w.connection.triggers ++ List.replicate (w.sinkTriggers j) .start })) := by
  refine ⟨fun h => ⟨pingAttempts_step h, disconnect_step h⟩, fun w hs h0 j => ?_⟩
  obtain ⟨w', hrun, -, -, hst⟩ := ping_run hs h0 j
  rw [hrun]
  exact congrArg some hst

/-- With `ping_max_out = 2` and a server that answers nothing after its `INFO`: the handshake
resets the counter, and the third tick, whose count after the increment is `3 > 2`, leaves the
client `Connected`; only the fourth tick disconnects it and calls `trigger_reconnect`. -/
theorem third_ping_keeps_connected :
    (sample.run (handshakeRun ++ List.replicate 3 ClientAction.ping)).map
        (fun w => (w.state, w.pingAttempts, w.connection.triggers)) = some (.connected, 3, []) ∧
    (sample.run (handshakeRun ++ List.replicate 4 ClientAction.ping)).map
        (fun w => (w.state, w.pingAttempts, w.connection.triggers)) =
      some (.disconnected, 4, [.start]) :=
  ⟨by decide, by decide⟩

end NatsClient

end Ratsio
