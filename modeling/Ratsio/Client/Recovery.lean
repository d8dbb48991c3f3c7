import Ratsio.Net.Recovery
import Ratsio.Client.Tasks

/-!
A reachable client is never stuck on its way back to a working connection when the server
answers (`client_recovers`): the schedule runs the reconnect machine (`Reachable.recover`), lets
the handler end the run it is in (`run_handlerRest`), and then take the pending signals one by
one (`run_catchUp`).
-/

namespace Ratsio

def HandlerPc.toConnect : HandlerPc → Nat
  | .closeSinks => 7
  | .clear => 6
  | .closeControl => 5
  | .resetPings => 4
  | .rebuild => 3
  | .install _ => 2
  | .markConnected => 1
  | .idle | .connect | .resubscribe => 0

namespace NatsClient

variable {w w' : NatsClient}

/-! ### The handler's steps -/

theorem handle_toConnect (h : 0 < w.handler.toConnect) :
    ∃ w', w.step .handle = some w' ∧ w'.handler.toConnect + 1 = w.handler.toConnect ∧
      w'.handler ≠ .idle ∧ w'.handler ≠ .resubscribe ∧ w'.opts = w.opts ∧
      w'.connection = w.connection ∧ w'.signalsTaken = w.signalsTaken := by
  cases hh : w.handler <;> simp only [hh, HandlerPc.toConnect, Nat.lt_irrefl] at h ⊢ <;>
    simp [step, hh, NatsClient.handle, HandlerPc.toConnect, closeSinks, pushControl]

theorem run_toConnect (n : Nat) : ∀ w : NatsClient, w.handler.toConnect = n →
    w.handler ≠ .idle → w.handler ≠ .resubscribe →
    ∃ w', w.run (List.replicate n .handle) = some w' ∧ w'.handler = .connect ∧
      w'.opts = w.opts ∧ w'.connection = w.connection ∧ w'.signalsTaken = w.signalsTaken := by
  induction n with
  | zero =>
    intro w hn hi hr
    refine ⟨w, rfl, ?_, rfl, rfl, rfl⟩
    cases hh : w.handler <;> simp_all [HandlerPc.toConnect]
  | succ n ih =>
    intro w hn _ _
    obtain ⟨w₁, h₁, hn₁, hi₁, hr₁, ho₁, hc₁, hs₁⟩ :=
      handle_toConnect (show 0 < w.handler.toConnect by omega)
    obtain ⟨w₂, h₂, hh₂, ho₂, hc₂, hs₂⟩ := ih w₁ (by omega) hi₁ hr₁
    exact ⟨w₂, by rw [List.replicate_succ, run, h₁, Option.some_bind, h₂], hh₂,
      ho₂.trans ho₁, hc₂.trans hc₁, hs₂.trans hs₁⟩

def handlerRest : HandlerPc → List ClientAction
  | .idle => []
  | .resubscribe => [.handle]
  | pc => List.replicate pc.toConnect .handle ++ [.handleConnect true, .handle]

theorem step_resubscribe (hh : w.handler = .resubscribe) :
    ∃ w', w.step .handle = some w' ∧ w'.handler = .idle ∧ w'.opts = w.opts ∧
      w.connection.Triggered w'.connection ∧ w'.signalsTaken = w.signalsTaken :=
  ⟨_, by rw [step, hh, handle_resubscribe], by rfl, by rfl, by exact (hands_sendAll w _).2, by rfl⟩

theorem run_handlerRest (w : NatsClient) :
    ∃ w', w.run (handlerRest w.handler) = some w' ∧ w'.handler = .idle ∧ w'.opts = w.opts ∧
      w.connection.Triggered w'.connection ∧ w'.signalsTaken = w.signalsTaken := by
  cases hh : w.handler
  case idle => exact ⟨w, rfl, hh, rfl, .refl _, rfl⟩
  case resubscribe =>
    obtain ⟨w₁, h₁, hrest⟩ := step_resubscribe hh
    exact ⟨w₁, by rw [handlerRest, run, h₁]; rfl, hrest⟩
  all_goals
    obtain ⟨w₁, h₁, hh₁, ho₁, hc₁, hs₁⟩ :=
      run_toConnect _ w rfl (by rw [hh]; nofun) (by rw [hh]; nofun)
    have h₂ : w₁.step (.handleConnect true) =
        some { w₁ with clients := w₁.clients + 1, handler := .resubscribe } := by
      simp [step, hh₁, handleConnect]
    obtain ⟨w₃, h₃, hh₃, ho₃, hc₃, hs₃⟩ := step_resubscribe
      (show ({ w₁ with clients := w₁.clients + 1, handler := .resubscribe } : NatsClient).handler =
        .resubscribe from rfl)
    refine ⟨w₃, ?_, hh₃, ho₃.trans ho₁, by rw [← hc₁]; exact hc₃, hs₃.trans hs₁⟩
    rw [handlerRest, ← hh, run_append, h₁, Option.some_bind]
    · simp only [run, h₂, h₃, Option.some_bind]
    all_goals nofun

def catchUp (opts : NatsClientOptions) : Nat → List ClientAction
  | 0 => []
  | k + 1 =>
    .handle :: handlerRest (if opts.subscribeOnReconnect then .closeControl else .closeSinks) ++
      catchUp opts k

theorem run_catchUp (k : Nat) : ∀ w : NatsClient, w.handler = .idle →
    w.signalsTaken + k = w.connection.reconnectHandler →
    ∃ w', w.run (catchUp w.opts k) = some w' ∧ w'.handler = .idle ∧
      w.connection.Triggered w'.connection ∧ w'.signalsTaken = w.connection.reconnectHandler := by
  induction k with
  | zero => intro w hh hk; exact ⟨w, rfl, hh, .refl _, hk⟩
  | succ k ih =>
    intro w hh hk
    have h₁ : w.step .handle = some { w with
        signalsTaken := w.signalsTaken + 1
        state := .reconnecting
        handler := if w.opts.subscribeOnReconnect then .closeControl else .closeSinks } := by
      have hlt : w.signalsTaken < w.connection.reconnectHandler := by omega
      simp only [step, hh, NatsClient.handle, if_pos hlt]
    obtain ⟨w₂, h₂, hh₂, ho₂, hc₂, hs₂⟩ := run_handlerRest { w with
      signalsTaken := w.signalsTaken + 1
      state := .reconnecting
      handler := if w.opts.subscribeOnReconnect then .closeControl else .closeSinks }
    have hrh₂ := hc₂.state_eq.2.1
    obtain ⟨w₃, h₃, hh₃, hc₃, hs₃⟩ := ih w₂ hh₂ (by rw [hs₂, hrh₂]; simp only; omega)
    refine ⟨w₃, ?_, hh₃, hc₂.trans hc₃, by rw [hs₃, hrh₂]⟩
    rw [catchUp, List.cons_append, run, h₁, Option.some_bind, run_append, h₂, Option.some_bind,
      ← ho₂]
    exact h₃

theorem mem_handlerRest {pc : HandlerPc} {x : ClientAction} (hx : x ∈ handlerRest pc) :
    x = .handle ∨ x = .handleConnect true := by
  unfold handlerRest at hx
  split at hx <;> simp at hx
  · exact .inl hx
  · rcases hx with hx | hx | hx
    · exact .inl hx.2
    all_goals simp [hx]

theorem mem_catchUp {opts : NatsClientOptions} {k : Nat} {x : ClientAction}
    (hx : x ∈ catchUp opts k) : x = .handle ∨ x = .handleConnect true := by
  induction k with
  | zero => cases hx
  | succ k ih =>
    simp only [catchUp, List.cons_append, List.mem_cons, List.mem_append] at hx
    rcases hx with hx | hx | hx
    · exact .inl hx
    · exact mem_handlerRest hx
    · exact ih hx

/-! ### Recovery -/

theorem run_connection (bs : List Action) {c : NatsConnection} (h : w.connection.run bs = some c) :
    w.run (bs.map .connection) = some { w with connection := c } := by
  induction bs generalizing w with
  | nil => cases h; rfl
  | cons b bs ih =>
    obtain ⟨c₁, h₁, h₂⟩ := Option.bind_eq_some.mp h
    have hs : w.step (.connection b) = some { w with connection := c₁ } := by
      simp [step, h₁]
    rw [List.map_cons, run, hs, Option.some_bind]
    exact ih (show ({ w with connection := c₁ } : NatsClient).connection.run bs = some c from h₂)

theorem Reachable.signalsTaken_le {w : NatsClient} (hw : w.Reachable) :
    w.signalsTaken ≤ w.connection.reconnectHandler := by
  induction hw with
  | create opts url => exact Nat.zero_le _
  | @step w w' a hw h ih =>
    have hrh : w.connection.reconnectHandler ≤ w'.connection.reconnectHandler := by
      rcases connection_step h with ⟨b, -, hb⟩ | ht
      · exact NatsConnection.reconnectHandler_le_step hw.connection.inv hb
      · exact ht.state_eq.2.1.ge
    cases moves_of_step h with
    | handleTake _ hlt => exact hlt.trans_le hrh
    | _ => exact ih.trans hrh

/-- From every reachable client, a schedule in which every dial of the reconnect machine and every
`NatsClient::connect` of the handler succeeds brings the connection to `Connected`, with every
reconnect signal sent, and the handler back to its wait, having taken all of them. -/
theorem client_recovers (hw : w.Reachable) (url : Url) :
    ∃ as w', w.run as = some w' ∧ (∀ i, ClientAction.connection (.dial i none) ∉ as) ∧
      .handleConnect false ∉ as ∧ w'.connection.state.1 = .connected ∧
      w'.connection.announcing = 0 ∧ w'.handler = .idle ∧
      w'.signalsTaken = w'.connection.reconnectHandler := by
  obtain ⟨bs, c, hbs, hrun, hc, hann, -⟩ := hw.connection.recover url
  have hle : w.signalsTaken ≤ c.reconnectHandler :=
    hw.signalsTaken_le.trans (NatsConnection.reconnectHandler_le_run hw.connection.inv hrun)
  have h₁ := run_connection bs hrun
  obtain ⟨w₂, h₂, hh₂, ho₂, hc₂, hs₂⟩ := run_handlerRest { w with connection := c }
  obtain ⟨hst₂, hrh₂, ha₂⟩ := hc₂.state_eq
  obtain ⟨w₃, h₃, hh₃, hc₃, hs₃⟩ :=
    run_catchUp (c.reconnectHandler - w.signalsTaken) w₂ hh₂ (by rw [hs₂, hrh₂]; simp only; omega)
  obtain ⟨hst₃, hrh₃, ha₃⟩ := hc₃.state_eq
  have hrest : ∀ x ∈ handlerRest w.handler ++ catchUp w.opts (c.reconnectHandler - w.signalsTaken),
      x = .handle ∨ x = .handleConnect true := fun x hx =>
    (List.mem_append.mp hx).elim mem_handlerRest mem_catchUp
  refine ⟨bs.map .connection ++ (handlerRest w.handler ++
      catchUp w.opts (c.reconnectHandler - w.signalsTaken)), w₃, ?_, fun i hm => ?_, fun hm => ?_,
    by rw [hst₃, hst₂]; exact hc, by rw [ha₃, ha₂]; exact hann, hh₃, by rw [hs₃, hrh₃]⟩
  · rw [run_append, h₁, Option.some_bind, run_append]
    rw [show w.handler = { w with connection := c }.handler from rfl, h₂, Option.some_bind, ← ho₂]
    exact h₃
  · rcases List.mem_append.mp hm with hm | hm
    · obtain ⟨b, hb, ⟨⟩⟩ := List.mem_map.mp hm
      exact hbs i hb
    · rcases hrest _ hm with h | h <;> cases h
  · rcases List.mem_append.mp hm with hm | hm
    · obtain ⟨b, -, ⟨⟩⟩ := List.mem_map.mp hm
    · rcases hrest _ hm with h | h <;> cases h

theorem client_recovers_signal_pending :
    let w := (sample.run reconnectRun).getD sample
    w.Reachable ∧ ∃ as w', w.run as = some w' ∧ (∀ i, ClientAction.connection (.dial i none) ∉ as) ∧
      .handleConnect false ∉ as ∧ w'.connection.state.1 = .connected ∧
      w'.connection.announcing = 0 ∧ w'.handler = .idle ∧
      w'.signalsTaken = w'.connection.reconnectHandler :=
  have hw : ((sample.run reconnectRun).getD sample).Reachable :=
    Reachable.run (.create _ _ _)
      (show sample.run reconnectRun = some ((sample.run reconnectRun).getD sample) from rfl)
  ⟨hw, client_recovers hw localhost⟩

end NatsClient

end Ratsio
