import Ratsio.Client.Registry

/-!
One run of the reconnect-signal handler that `create_client` spawns, from the signal it takes to
its next wait (`handler_run_keeps_or_closes`).
-/

namespace Ratsio

namespace NatsClient

variable {w : NatsClient} {k : String} {e : SubscriptionSink}

/-- The handler alone, from the signal it takes to its next wait: its steps up to
`NatsClient::connect`, the end of that call with outcome `ok`, and the step after it. -/
def handlerRunFor (opts : NatsClientOptions) (ok : Bool) : List ClientAction :=
  List.replicate (if opts.subscribeOnReconnect then 6 else 8) .handle ++
    [.handleConnect ok, .handle]

theorem RegistryOk.filter_tx (hw : w.RegistryOk) (he : w.subsMap.lookup k = some e) :
    w.subsMap.entries.filter (·.2.tx = e.tx) = [⟨k, e⟩] := by
  have hall : ∀ y ∈ w.subsMap.entries.filter (·.2.tx = e.tx), y = ⟨k, e⟩ := by
    rintro ⟨k', e'⟩ hy
    obtain ⟨hmem, htx⟩ := List.mem_filter.mp hy
    have he' : w.subsMap.lookup k' = some e' := AList.mem_lookup_iff.mpr hmem
    obtain rfl := hw.tx_inj k' k e' e he' he (by simpa using htx)
    rw [he] at he'
    cases he'
    rfl
  have hmem : (⟨k, e⟩ : Sigma fun _ : String => SubscriptionSink) ∈
      w.subsMap.entries.filter (·.2.tx = e.tx) :=
    List.mem_filter.mpr ⟨AList.mem_lookup_iff.mp he, by simp⟩
  have hnodup := w.subsMap.nodupKeys.nodup.filter (·.2.tx = e.tx)
  generalize w.subsMap.entries.filter (·.2.tx = e.tx) = l at hall hmem hnodup ⊢
  rw [List.eq_replicate_iff.mpr ⟨rfl, hall⟩] at hnodup hmem ⊢
  have hpos := List.length_pos_of_mem hmem
  rw [List.length_replicate] at hpos
  rw [show l.length = 1 by have := List.nodup_replicate.mp hnodup; omega]
  rfl

theorem RegistryOk.closeSinks_entry (hw : w.RegistryOk) (he : w.subsMap.lookup k = some e) :
    ∃ q, w.channels[e.tx]? = some q ∧ w.closeSinks.channels[e.tx]? = some (q ++ [.close]) := by
  have hlt := hw.tx_lt k e he
  refine ⟨w.channels[e.tx], List.getElem?_eq_getElem hlt, ?_⟩
  rw [closeSinks_getElem?, hw.filter_tx he, List.getElem?_eq_getElem hlt]
  rfl

theorem run_handler_to_resubscribe (hh : w.handler = .idle)
    (hsig : w.signalsTaken < w.connection.reconnectHandler) (ok : Bool)
    (hok : ok = true ∨ w.opts.ensureConnect = false) :
    ∃ w₁, w.run (List.replicate (if w.opts.subscribeOnReconnect then 6 else 8) .handle ++
        [.handleConnect ok]) = some w₁ ∧ w₁.handler = .resubscribe ∧ w₁.opts = w.opts ∧
      w₁.handed = w.handed ∧ w₁.sent = w.sent ∧ w₁.connection = w.connection ∧
      w₁.subsMap = (if w.opts.subscribeOnReconnect then w.subsMap else ∅) ∧
      w₁.channels = if w.opts.subscribeOnReconnect then w.channels else w.closeSinks.channels := by
  have hens : ok = false → w.opts.ensureConnect = false := fun h => hok.resolve_left (by simp [h])
  cases hflag : w.opts.subscribeOnReconnect <;> cases ok <;>
    simp [run, step, hh, handle, hsig, handleConnect, hflag, hens, closeSinks, pushControl]

/-- One run of the reconnect-signal handler, from a reachable client whose handler waits and has
a signal to take, to its next wait; the run exists whenever `NatsClient::connect` succeeds or
`ensure_connect` is off. With `subscribe_on_reconnect` it leaves the registry as it was and hands
`SUB(cmd)` to the sender once for each entry of the registry it started with; `start_send` passes
a sublist of them on, to the transport installed and only while the connection phase is
`Connected`. Without it, it pushes one `CLOSE` into the sink of every entry it started with,
leaves the registry empty and sends nothing. -/
theorem handler_run_keeps_or_closes (hw : w.Reachable) (hh : w.handler = .idle)
    (hsig : w.signalsTaken < w.connection.reconnectHandler) (ok : Bool)
    (hok : ok = true ∨ w.opts.ensureConnect = false) :
    ∃ w', w.run (handlerRunFor w.opts ok) = some w' ∧ w'.handler = .idle ∧
      (w.opts.subscribeOnReconnect = true →
        w'.subsMap = w.subsMap ∧
        w'.handed = w.handed ++ w.subsMap.entries.map (fun e => .sub e.2.cmd) ∧
        ∃ passed : List Op, passed.Sublist (w.subsMap.entries.map fun e => .sub e.2.cmd) ∧
          w'.sent = w.sent ++ passed.map (w.connection.inner.2, ·) ∧
          (passed ≠ [] → w.connection.state.1 = .connected)) ∧
      (w.opts.subscribeOnReconnect = false →
        w'.subsMap = ∅ ∧ w'.handed = w.handed ∧ w'.sent = w.sent ∧
        ∀ k e, w.subsMap.lookup k = some e →
          ∃ q, w.channels[e.tx]? = some q ∧ w'.channels[e.tx]? = some (q ++ [.close])) := by
  obtain ⟨w₁, h₁, hh₁, ho₁, hhand₁, hsent₁, hconn₁, hsubs₁, hch₁⟩ :=
    run_handler_to_resubscribe hh hsig ok hok
  have hrun : w.run (handlerRunFor w.opts ok) =
      some { w₁ with
        handed := (w₁.sendAll w₁.replayOps).handed
        sent := (w₁.sendAll w₁.replayOps).sent
        connection := (w₁.sendAll w₁.replayOps).connection
        handler := .idle } := by
    rw [handlerRunFor, ← List.singleton_append, ← List.append_assoc, run_append, h₁,
      Option.some_bind]
    simp only [run, step, hh₁, handle_resubscribe, Option.some_bind]
  refine ⟨_, hrun, rfl, fun hflag => ?_, fun hflag => ?_⟩
  · have hops : w₁.replayOps = w.subsMap.entries.map fun e => .sub e.2.cmd := by
      simp [replayOps, resubscribeOps, ho₁, hflag, hsubs₁]
    obtain ⟨⟨hhand, passed, hp, hs, hc⟩, -⟩ := hands_sendAll w₁ w₁.replayOps
    exact ⟨hsubs₁.trans (if_pos hflag), hhand.trans (by rw [hhand₁, hops]), passed, hops ▸ hp,
      hs.trans (by rw [hsent₁, hconn₁]), hconn₁ ▸ hc⟩
  · have hops : w₁.replayOps = [] := by simp [replayOps, ho₁, hflag]
    have hch : w₁.channels = w.closeSinks.channels := hch₁.trans (if_neg (by simp [hflag]))
    refine ⟨hsubs₁.trans (if_neg (by simp [hflag])), by rw [hops]; exact hhand₁,
      by rw [hops]; exact hsent₁, fun k e he => ?_⟩
    obtain ⟨q, hq, hq'⟩ := hw.registryOk.closeSinks_entry he
    exact ⟨q, hq, hch ▸ hq'⟩

def subscribedSample : NatsClient :=
  (sample.run ([.subscribe subscribeS1, .subscribed 0] ++ reconnectRun)).getD sample

theorem subscribedSample_reachable : subscribedSample.Reachable :=
  Reachable.run (.create _ _ _)
    (show sample.run ([.subscribe subscribeS1, .subscribed 0] ++ reconnectRun) =
      some subscribedSample from rfl)

theorem handler_run_keeps_or_closes_subscribed :
    subscribedSample.Reachable ∧ subscribedSample.handler = .idle ∧
    subscribedSample.signalsTaken < subscribedSample.connection.reconnectHandler ∧
    (true = true ∨ subscribedSample.opts.ensureConnect = false) ∧
    ∃ w', subscribedSample.run (handlerRunFor subscribedSample.opts true) = some w' ∧
      w'.handler = .idle ∧
      (subscribedSample.opts.subscribeOnReconnect = true →
        w'.subsMap = subscribedSample.subsMap ∧
        w'.handed = subscribedSample.handed ++
          subscribedSample.subsMap.entries.map (fun e => .sub e.2.cmd) ∧
        ∃ passed : List Op,
          passed.Sublist (subscribedSample.subsMap.entries.map fun e => .sub e.2.cmd) ∧
          w'.sent = subscribedSample.sent ++
            passed.map (subscribedSample.connection.inner.2, ·) ∧
          (passed ≠ [] → subscribedSample.connection.state.1 = .connected)) ∧
      (subscribedSample.opts.subscribeOnReconnect = false →
        w'.subsMap = ∅ ∧ w'.handed = subscribedSample.handed ∧
        w'.sent = subscribedSample.sent ∧ ∀ k e, subscribedSample.subsMap.lookup k = some e →
          ∃ q, subscribedSample.channels[e.tx]? = some q ∧
            w'.channels[e.tx]? = some (q ++ [.close])) :=
  ⟨subscribedSample_reachable, rfl, by decide, .inl rfl,
    handler_run_keeps_or_closes subscribedSample_reachable rfl (by decide) true (.inl rfl)⟩

end NatsClient

end Ratsio
