import Ratsio.Net.Connection

/-!
The reconnect machine keeps at most one attempt in flight (`reconnect_single_attempt`), its
version counts the successful attempts (`version_counts_reconnections`), and each installed
transport is announced once (`transport_announced_once`). `step_cases` says once what a step can
do; the invariant `Inv` is derived from it.
-/

namespace Ratsio

namespace AttemptPc

/-- An attempt that read the version read `version`. -/
def ReadVersion : AttemptPc → Nat → Prop
  | .dialing, _ => True
  | .dialed connectVersion _, version => connectVersion = version
  | .installed connectVersion, version => connectVersion = version

def hasInstalled : AttemptPc → Bool
  | .installed _ => true
  | _ => false

end AttemptPc

namespace NatsConnection

variable {c c' : NatsConnection} {a : Action} {i : Nat} {pc : AttemptPc}

/-- The attempt list of a reachable state: empty unless the phase is `Reconnecting`, and then
the one attempt in flight, which read the current version if it read one. -/
def AttemptsOk (c : NatsConnection) : Prop :=
  match c.attempts with
  | [] => c.state.1 ≠ .reconnecting
  | [pc] => c.state.1 = .reconnecting ∧ pc.ReadVersion c.state.2
  | _ :: _ :: _ => False

/-- The invariant of the reconnect machine. -/
structure Inv (c : NatsConnection) : Prop where
  attempts : c.AttemptsOk
  version : c.state.2 = c.reconnectHandler + c.announcing

theorem AttemptsOk.eq_singleton (h : c.AttemptsOk) (hi : c.attempts[i]? = some pc) :
    c.attempts = [pc] ∧ i = 0 ∧ c.state.1 = .reconnecting ∧ pc.ReadVersion c.state.2 := by
  unfold AttemptsOk at h
  split at h <;> rename_i heq <;> rw [heq] at hi
  · simp at hi
  · cases i with
    | zero => cases hi; exact ⟨heq, rfl, h⟩
    | succ => simp at hi
  · exact h.elim

theorem AttemptsOk.eq_nil (h : c.AttemptsOk) (hne : c.state.1 ≠ .reconnecting) :
    c.attempts = [] := by
  unfold AttemptsOk at h
  split at h
  · assumption
  · exact absurd h.1 hne
  · exact h.elim

/-- Everything one step from a state satisfying `Inv` can do to the phase, the version, the
attempts and the `reconnect_handler` channel. -/
theorem step_cases (hc : c.Inv) (h : c.step a = some c') :
    -- a step that leaves all of them as they were, or moves the one attempt on
    (c'.state = c.state ∧ c'.reconnectHandler = c.reconnectHandler ∧
      c'.announcing = c.announcing ∧ (c'.attempts = c.attempts ∨
        ∃ pc pc', c.attempts = [pc] ∧ c'.attempts = [pc'] ∧ pc'.ReadVersion c.state.2)) ∨
    -- `trigger_reconnect` decides to reconnect
    (c.state.1 ≠ .reconnecting ∧ c'.state = (.disconnected, c.state.2) ∧
      c'.attempts = c.attempts ∧ c'.reconnectHandler = c.reconnectHandler ∧
      c'.announcing = c.announcing) ∨
    -- `reconnect` spawns an attempt
    (c.state.1 = .disconnected ∧ c'.state = (.reconnecting, c.state.2) ∧ c.attempts = [] ∧
      c'.attempts = [.dialing] ∧ c'.reconnectHandler = c.reconnectHandler ∧
      c'.announcing = c.announcing) ∨
    -- the attempt fails
    (c.state.1 = .reconnecting ∧ c'.state = (.disconnected, c.state.2) ∧ c'.attempts = [] ∧
      c'.reconnectHandler = c.reconnectHandler ∧ c'.announcing = c.announcing) ∨
    -- the attempt succeeds and writes `state`
    ((∃ i, a = .attemptStep i ∧ c.attempts[i]? = some (.installed c.state.2)) ∧
      c.state.1 = .reconnecting ∧ c'.state = (.connected, c.state.2 + 1) ∧ c'.attempts = [] ∧
      c'.reconnectHandler = c.reconnectHandler ∧ c'.announcing = c.announcing + 1) ∨
    -- a successful attempt sends on `reconnect_handler`
    (a = .announce ∧ 0 < c.announcing ∧ c'.state = c.state ∧ c'.attempts = c.attempts ∧
      c'.reconnectHandler = c.reconnectHandler + 1 ∧ c'.announcing = c.announcing - 1) := by
  cases a with
  | trigger =>
    cases h
    exact .inl ⟨rfl, rfl, rfl, .inl rfl⟩
  | triggerStep i =>
    simp only [step, Option.map_eq_some'] at h
    obtain ⟨pc, -, rfl⟩ := h
    cases pc with
    | start => exact .inl ⟨rfl, rfl, rfl, .inl rfl⟩
    | decide v =>
      simp only [triggerReconnect]
      split
      · exact .inl ⟨rfl, rfl, rfl, .inl rfl⟩
      split
      · exact .inl ⟨rfl, rfl, rfl, .inl rfl⟩
      · exact .inr (.inl ⟨‹_›, rfl, rfl, rfl, rfl⟩)
    | reconnect =>
      simp only [triggerReconnect, reconnect]
      split
      · rename_i hd
        have := hc.attempts.eq_nil (by rw [hd]; decide)
        exact .inr (.inr (.inl ⟨hd, rfl, this, by simp [this], rfl, rfl⟩))
      · exact .inl ⟨rfl, rfl, rfl, .inl rfl⟩
  | dial i result =>
    simp only [step] at h
    split at h <;> cases h
    obtain ⟨hs, rfl, -, -⟩ := hc.attempts.eq_singleton ‹_›
    exact .inl ⟨rfl, rfl, rfl, .inr ⟨_, .dialed c.state.2 result, hs, by simp [hs], rfl⟩⟩
  | attemptStep i =>
    simp only [step] at h
    split at h <;> cases h
    rename_i pc _ hi
    obtain ⟨hs, rfl, hr, hv⟩ := hc.attempts.eq_singleton hi
    cases pc with
    | dialing => contradiction
    | dialed v result =>
      cases hv
      cases result with
      | some url =>
        exact .inl ⟨rfl, rfl, rfl, .inr ⟨_, .installed c.state.2, hs, by simp [attempt, hs], rfl⟩⟩
      | none => exact .inr (.inr (.inr (.inl ⟨hr, rfl, by simp [attempt, hs], rfl, rfl⟩)))
    | installed v =>
      cases hv
      exact .inr (.inr (.inr (.inr (.inl ⟨⟨0, rfl, hi⟩, hr, rfl, by simp [attempt, hs], rfl,
        rfl⟩))))
  | announce =>
    simp only [step] at h
    split at h <;> cases h
    exact .inr (.inr (.inr (.inr (.inr ⟨rfl, ‹_›, rfl, rfl, rfl, rfl⟩))))

theorem inv_create (url : Url) : (create url).Inv :=
  ⟨by simp [AttemptsOk, create], rfl⟩

theorem Inv.step (hc : c.Inv) (h : c.step a = some c') : c'.Inv := by
  have hv := hc.version
  rcases step_cases hc h with ⟨hs, hr, hn, ha | ⟨pc, pc', ha, ha', hpc'⟩⟩ |
    ⟨hne, hs, ha, hr, hn⟩ | ⟨-, hs, -, ha', hr, hn⟩ | ⟨-, hs, ha', hr, hn⟩ |
    ⟨-, -, hs, ha', hr, hn⟩ | ⟨-, hpos, hs, ha, hr, hn⟩
  · refine ⟨?_, by rw [hs, hr, hn, hv]⟩
    have := hc.attempts
    unfold AttemptsOk at this ⊢
    rwa [ha, hs]
  · refine ⟨?_, by rw [hs, hr, hn, hv]⟩
    have := hc.attempts
    simp only [AttemptsOk, ha] at this
    simp only [AttemptsOk, ha', hs]
    exact ⟨this.1, hpc'⟩
  · exact ⟨by simp [AttemptsOk, ha, hc.attempts.eq_nil hne, hs], by rw [hs, hr, hn, hv]⟩
  · exact ⟨by simp [AttemptsOk, ha', hs, AttemptPc.ReadVersion], by rw [hs, hr, hn, hv]⟩
  · exact ⟨by simp [AttemptsOk, ha', hs], by rw [hs, hr, hn, hv]⟩
  · exact ⟨by simp [AttemptsOk, ha', hs], by simp only [hs, hr, hn, hv]; omega⟩
  · refine ⟨?_, by rw [hs, hr, hn, hv]; omega⟩
    have := hc.attempts
    unfold AttemptsOk at this ⊢
    rwa [ha, hs]

theorem Reachable.inv (hc : c.Reachable) : c.Inv := by
  induction hc with
  | create url => exact inv_create url
  | step a _ h ih => exact ih.step h

/-- At most one reconnect attempt is in flight, and one is in flight exactly while the phase is
`Reconnecting`. -/
theorem reconnect_single_attempt (hc : c.Reachable) :
    c.attempts.length ≤ 1 ∧ (c.attempts.length = 1 ↔ c.state.1 = .reconnecting) := by
  have := hc.inv.attempts
  unfold AttemptsOk at this
  split at this <;> rename_i heq <;> simp only [heq, List.length_nil, List.length_singleton]
  · simpa using this
  · simpa using this.1
  · exact this.elim

theorem step_installed (hc : c.Inv) {v : Nat} (hi : c.attempts[i]? = some (.installed v))
    (h : c.step (.attemptStep i) = some c') :
    v = c.state.2 ∧ c.state.1 = .reconnecting ∧ c'.state = (.connected, v + 1) ∧
      c'.announcing = c.announcing + 1 := by
  obtain ⟨hs, rfl, hr, rfl⟩ := hc.attempts.eq_singleton hi
  simp only [step, hi, Option.some.injEq] at h
  subst h
  exact ⟨rfl, hr, rfl, rfl⟩

/-- Along every run from `create_connection`'s state the version counts the successful attempts:
those that sent the connection on `reconnect_handler` and those that wrote `state` and have
still to send. It never decreases; no step changes it while an attempt is in flight, which keeps
it at its value from when the attempt entered `Reconnecting`; and a step changes it exactly when
it is the successful completion of that attempt, which writes `(Connected, v + 1)` for the
version `v` it read. -/
theorem version_counts_reconnections (hc : c.Reachable) (h : c.step a = some c') :
    c.state.2 = c.reconnectHandler + c.announcing ∧ c.state.2 ≤ c'.state.2 ∧
    (c.state.1 = .reconnecting → c'.state.1 = .reconnecting → c'.state.2 = c.state.2) ∧
    (c'.state.2 ≠ c.state.2 ↔ ∃ i v, a = .attemptStep i ∧ c.attempts[i]? = some (.installed v)) ∧
    ∀ i v, a = .attemptStep i → c.attempts[i]? = some (.installed v) →
      v = c.state.2 ∧ c.state.1 = .reconnecting ∧ c'.state = (.connected, v + 1) ∧
      c'.announcing = c.announcing + 1 := by
  have hdone : ∀ i v, a = .attemptStep i → c.attempts[i]? = some (.installed v) →
      v = c.state.2 ∧ c.state.1 = .reconnecting ∧ c'.state = (.connected, v + 1) ∧
        c'.announcing = c.announcing + 1 := by
    rintro i v rfl hi
    exact step_installed hc.inv hi h
  refine ⟨hc.inv.version, ?_, ?_, ⟨fun hne => ?_, ?_⟩, hdone⟩
  · rcases step_cases hc.inv h with ⟨hs, -⟩ | ⟨-, hs, -⟩ | ⟨-, hs, -⟩ | ⟨-, hs, -⟩ |
      ⟨-, -, hs, -⟩ | ⟨-, -, hs, -⟩ <;> simp [hs]
  · rcases step_cases hc.inv h with ⟨hs, -⟩ | ⟨-, hs, -⟩ | ⟨-, hs, -⟩ | ⟨-, hs, -⟩ |
      ⟨-, -, hs, -⟩ | ⟨-, -, hs, -⟩ <;> simp [hs]
  · rcases step_cases hc.inv h with ⟨hs, -⟩ | ⟨-, hs, -⟩ | ⟨-, hs, -⟩ | ⟨-, hs, -⟩ |
      ⟨⟨i, ha, hi⟩, -⟩ | ⟨-, -, hs, -⟩
    all_goals first | exact ⟨i, _, ha, hi⟩ | exact absurd (by rw [hs]) hne
  · rintro ⟨i, v, ha, hi⟩
    rw [(hdone i v ha hi).2.2.1, (hdone i v ha hi).1]
    simp

/-- The transports installed after the first, against the messages sent on `reconnect_handler`:
one more for each attempt that wrote `state` and has still to send, and for an attempt between
its install and its write of `state`. -/
def TransportsOk (c : NatsConnection) : Prop :=
  c.inner.2 = c.reconnectHandler + c.announcing + c.attempts.countP AttemptPc.hasInstalled

theorem TransportsOk.step (hc : c.Inv) (ht : c.TransportsOk) (h : c.step a = some c') :
    c'.TransportsOk := by
  unfold TransportsOk at ht ⊢
  cases a with
  | trigger => cases h; exact ht
  | triggerStep i =>
    simp only [step, Option.map_eq_some'] at h
    obtain ⟨pc, -, rfl⟩ := h
    cases pc with
    | start => exact ht
    | decide v =>
      simp only [triggerReconnect]
      split
      · exact ht
      · split <;> exact ht
    | reconnect =>
      simp only [triggerReconnect, reconnect]
      split
      · simpa [AttemptPc.hasInstalled] using ht
      · exact ht
  | dial i result =>
    simp only [step] at h
    split at h <;> cases h
    obtain ⟨hs, rfl, -, -⟩ := hc.attempts.eq_singleton ‹_›
    simpa [hs, AttemptPc.hasInstalled] using ht
  | attemptStep i =>
    simp only [step] at h
    split at h <;> cases h
    rename_i pc _ hi
    obtain ⟨hs, rfl, -, -⟩ := hc.attempts.eq_singleton hi
    simp only [hs] at ht
    cases pc with
    | dialing => contradiction
    | dialed v result =>
      cases result <;> simp [attempt, trigger, hs, AttemptPc.hasInstalled] at ht ⊢ <;> omega
    | installed v => simp [attempt, hs, AttemptPc.hasInstalled] at ht ⊢; omega
  | announce =>
    simp only [step] at h
    split at h <;> cases h
    simp only [announce]
    omega

theorem run_cons (c : NatsConnection) (a : Action) (as : List Action) :
    c.run (a :: as) = (c.step a).bind (·.run as) := rfl

/-- A call of `trigger_reconnect`, a retry included, reads the version when it fires: one that
fires while the phase is `Connected` and decides before another thread writes `state` sets the
phase to `Disconnected` at the version it read, and its `reconnect` spawns a new attempt. -/
theorem trigger_while_connected_reconnects (hc : c.Reachable)
    (hi : c.triggers[i]? = some .start) (hconn : c.state.1 = .connected) :
    (c.run [.triggerStep i, .triggerStep i]).map (·.state) = some (.disconnected, c.state.2) ∧
    (c.run [.triggerStep i, .triggerStep i, .triggerStep i]).map (fun c => (c.state, c.attempts)) =
      some ((.reconnecting, c.state.2), [.dialing]) := by
  have hlt : i < c.triggers.length := (List.getElem?_eq_some_iff.mp hi).1
  have hnil := hc.inv.attempts.eq_nil (by rw [hconn]; decide)
  simp [run_cons, step, hi, hlt, triggerReconnect, reconnect, hconn, hnil, run]

end NatsConnection

def localhost : Url := ⟨"127.0.0.1", "", none⟩

def staleRetryRun : List Action :=
  [.trigger, .triggerStep 0, .triggerStep 0, .triggerStep 0, .dial 0 none, .attemptStep 0,
    .trigger, .triggerStep 1, .triggerStep 1, .triggerStep 1, .dial 0 (some localhost),
    .attemptStep 0, .attemptStep 0]

/-- The stale retry fires after the reconnection it was meant to bring about: it sets the phase
to `Disconnected`, and the attempt it spawns replaces the transport installed at version `1`. -/
theorem stale_retry_tears_down :
    ((NatsConnection.create localhost).run staleRetryRun).map
        (fun c => (c.state, c.inner.2, c.triggers)) = some ((.connected, 1), 1, [.start]) ∧
    ((NatsConnection.create localhost).run (staleRetryRun ++ [.triggerStep 0, .triggerStep 0])).map
        (·.state) = some (.disconnected, 1) ∧
    ((NatsConnection.create localhost).run (staleRetryRun ++
        [.triggerStep 0, .triggerStep 0, .triggerStep 0, .dial 0 (some localhost), .attemptStep 0,
          .attemptStep 0])).map (fun c => (c.state, c.inner.2)) = some ((.connected, 2), 2) := by
  decide

theorem trigger_while_connected_reconnects_create :
    let c : NatsConnection := ⟨(.connected, 0), (localhost, 0), 0, [.start], [], 0⟩
    c.Reachable ∧ c.triggers[0]? = some .start ∧ c.state.1 = .connected ∧
    (c.run [.triggerStep 0, .triggerStep 0]).map (·.state) = some (.disconnected, 0) ∧
    (c.run [.triggerStep 0, .triggerStep 0, .triggerStep 0]).map (fun c => (c.state, c.attempts)) =
      some ((.reconnecting, 0), [.dialing]) :=
  have hc : NatsConnection.Reachable ⟨(.connected, 0), (localhost, 0), 0, [.start], [], 0⟩ :=
    .step .trigger (.create localhost) rfl
  ⟨hc, rfl, rfl, NatsConnection.trigger_while_connected_reconnects hc rfl rfl⟩

def spawnRun : List Action := [.trigger, .triggerStep 0, .triggerStep 0, .triggerStep 0]

def installRun : List Action := spawnRun ++ [.dial 0 (some localhost), .attemptStep 0]

def connAfter (runs : List Action) : NatsConnection :=
  ((NatsConnection.create localhost).run runs).getD (NatsConnection.create localhost)

theorem connAfter_reachable (runs : List Action)
    (h : (NatsConnection.create localhost).run runs = some (connAfter runs)) :
    (connAfter runs).Reachable :=
  NatsConnection.Reachable.run (.create localhost) h

theorem reconnect_single_attempt_dialing :
    (connAfter spawnRun).Reachable ∧ (connAfter spawnRun).attempts = [.dialing] ∧
    ((connAfter spawnRun).attempts.length ≤ 1 ∧
      ((connAfter spawnRun).attempts.length = 1 ↔
        (connAfter spawnRun).state.1 = .reconnecting)) :=
  have hc := connAfter_reachable spawnRun rfl
  ⟨hc, rfl, NatsConnection.reconnect_single_attempt hc⟩

theorem version_counts_reconnections_install :
    let c := connAfter installRun
    let c' := connAfter (installRun ++ [.attemptStep 0])
    c.Reachable ∧ c.step (.attemptStep 0) = some c' ∧ c.attempts = [.installed 0] ∧
    c.state.2 = c.reconnectHandler + c.announcing ∧ c.state.2 ≤ c'.state.2 ∧
    (c.state.1 = .reconnecting → c'.state.1 = .reconnecting → c'.state.2 = c.state.2) ∧
    (c'.state.2 ≠ c.state.2 ↔
      ∃ i v, Action.attemptStep 0 = .attemptStep i ∧ c.attempts[i]? = some (.installed v)) ∧
    ∀ i v, Action.attemptStep 0 = .attemptStep i → c.attempts[i]? = some (.installed v) →
      v = c.state.2 ∧ c.state.1 = .reconnecting ∧ c'.state = (.connected, v + 1) ∧
      c'.announcing = c.announcing + 1 :=
  have hc := connAfter_reachable installRun rfl
  have hs : (connAfter installRun).step (.attemptStep 0) =
      some (connAfter (installRun ++ [.attemptStep 0])) := rfl
  ⟨hc, hs, rfl, NatsConnection.version_counts_reconnections hc hs⟩

namespace NatsConnSinkStream

theorem startSend_drops_iff (state : Option (NatsConnectionState × Nat))
    (inner : Option (Except RatsioError Unit)) :
    ((startSend state inner).result = .ok () ∧ (startSend state inner).passed = false) ↔
      (ready state = false ∨ inner = none) := by
  unfold startSend
  cases ready state <;> simp only [Bool.not_false, Bool.not_true, ite_true, ite_false, true_or,
    and_self, Bool.false_eq_true, false_or]
  split <;> simp

theorem startSend_passed {state : Option (NatsConnectionState × Nat)}
    {inner : Option (Except RatsioError Unit)} (h : (startSend state inner).passed) :
    ready state := by
  unfold startSend at h
  split at h
  · cases h
  · simpa using ‹¬(!ready state) = true›

/-- While a reconnect is in flight, `start_send` answers `Ok(())` for a frame and never hands it
to the inner transport: the connection reaches `Reconnecting` from `create_connection`'s state
after one trigger, and there the frame is dropped even with the inner transport ready. -/
theorem start_send_drops_while_reconnecting :
    ((NatsConnection.create localhost).run [.trigger, .triggerStep 0, .triggerStep 0,
        .triggerStep 0]).map (fun c => (c.state.1, startSend (some c.state) (some (.ok ())))) =
      some (.reconnecting, ⟨.ok (), false, false⟩) := by
  decide

end NatsConnSinkStream

end Ratsio
