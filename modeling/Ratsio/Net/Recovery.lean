import Ratsio.Net.ConnectionLemmas

/-!
No reachable state of the reconnect machine is stuck: some schedule in which every dial succeeds
brings it back to `Connected` (`Reachable.recover`).
-/

namespace Ratsio

namespace NatsConnection

variable {c c' : NatsConnection}

theorem run_append (c : NatsConnection) (as bs : List Action) :
    c.run (as ++ bs) = (c.run as).bind (·.run bs) := by
  induction as generalizing c with
  | nil => rfl
  | cons a as ih =>
    rw [List.cons_append, run_cons, run_cons, Option.bind_assoc]
    simp only [ih]

def recoverRun (n : Nat) (url : Url) : List Action :=
  [.trigger, .triggerStep n, .triggerStep n, .triggerStep n, .dial 0 (some url), .attemptStep 0,
    .attemptStep 0]

theorem run_recover (hc : c.Inv) (hd : c.state.1 = .disconnected) (url : Url) :
    ∃ c', c.run (recoverRun c.triggers.length url) = some c' ∧
      c'.state = (.connected, c.state.2 + 1) ∧ c'.announcing = c.announcing + 1 := by
  have hnil := hc.attempts.eq_nil (by rw [hd]; decide)
  obtain ⟨⟨s, v⟩, inner, rh, triggers, attempts, n⟩ := c
  simp only at hd hnil
  subst hd hnil
  simp [recoverRun, run, step, trigger, triggerReconnect, reconnect, attempt]

theorem Inv.run (hc : c.Inv) {as : List Action} (h : c.run as = some c') : c'.Inv := by
  induction as generalizing c with
  | nil => cases h; exact hc
  | cons a as ih =>
    obtain ⟨c₁, h₁, h₂⟩ := Option.bind_eq_some.mp h
    exact ih (hc.step h₁) h₂

def finishRun (url : Url) : AttemptPc → List Action
  | .dialing => [.dial 0 (some url), .attemptStep 0, .attemptStep 0]
  | .dialed _ (some _) => [.attemptStep 0, .attemptStep 0]
  | .dialed _ none | .installed _ => [.attemptStep 0]

theorem dial_none_not_mem_finishRun (url : Url) (pc : AttemptPc) (i : Nat) :
    Action.dial i none ∉ finishRun url pc := by
  unfold finishRun
  split <;> simp

theorem run_finish (hc : c.Inv) {pc : AttemptPc} (ha : c.attempts = [pc]) (url : Url) :
    ∃ c', c.run (finishRun url pc) = some c' ∧ c'.Inv ∧
      (c'.state = (.connected, c.state.2 + 1) ∨ c'.state = (.disconnected, c.state.2)) := by
  have hv : pc.ReadVersion c.state.2 := (hc.attempts.eq_singleton (i := 0) (by simp [ha])).2.2.2
  suffices h : ∃ c', c.run (finishRun url pc) = some c' ∧
      (c'.state = (.connected, c.state.2 + 1) ∨ c'.state = (.disconnected, c.state.2)) by
    obtain ⟨c', h, hs⟩ := h
    exact ⟨c', h, hc.run h, hs⟩
  obtain ⟨⟨s, v⟩, inner, rh, triggers, attempts, n⟩ := c
  simp only at ha hv
  subst ha
  cases pc with
  | dialing => exact ⟨_, rfl, .inl (by simp [step, attempt])⟩
  | dialed v' result =>
    cases hv
    cases result with
    | some u => exact ⟨_, rfl, .inl (by simp [step, attempt])⟩
    | none => exact ⟨_, rfl, .inr rfl⟩
  | installed v' =>
    cases hv
    exact ⟨_, rfl, .inl (by simp [step, attempt])⟩

theorem run_announce (c : NatsConnection) :
    c.run (List.replicate c.announcing .announce) =
      some { c with reconnectHandler := c.reconnectHandler + c.announcing, announcing := 0 } := by
  obtain ⟨state, inner, rh, triggers, attempts, n⟩ := c
  induction n generalizing rh with
  | zero => rfl
  | succ n ih =>
    rw [List.replicate_succ, run_cons]
    simp only [step, announce, Nat.zero_lt_succ, ↓reduceIte, Option.some_bind,
      Nat.add_sub_cancel]
    rw [ih]
    simp only [Option.some.injEq, mk.injEq, true_and, and_true]
    omega

theorem Inv.connect (hi : c.Inv) (url : Url) :
    ∃ as c', (∀ i, Action.dial i none ∉ as) ∧ c.run as = some c' ∧ c'.Inv ∧
      c'.state.1 = .connected ∧ (c.state.1 ≠ .connected → c.state.2 < c'.state.2) := by
  cases hs : c.state.1 with
  | connected => exact ⟨[], c, by simp, rfl, hi, hs, fun h => absurd rfl h⟩
  | disconnected =>
    obtain ⟨c', hrun, hc', -⟩ := run_recover hi hs url
    exact ⟨_, c', by simp [recoverRun], hrun, hi.run hrun, by rw [hc'],
      fun _ => by rw [hc']; omega⟩
  | reconnecting =>
    have ha := hi.attempts
    unfold AttemptsOk at ha
    split at ha
    · exact absurd hs ha
    · rename_i pc heq
      obtain ⟨c₁, hrun₁, hi₁, hc₁ | hc₁⟩ := run_finish hi heq url
      · exact ⟨_, c₁, dial_none_not_mem_finishRun url pc, hrun₁, hi₁, by rw [hc₁],
          fun _ => by rw [hc₁]; omega⟩
      · obtain ⟨c₂, hrun₂, hc₂, -⟩ := run_recover hi₁ (by rw [hc₁]) url
        have hrun : c.run (finishRun url pc ++ recoverRun c₁.triggers.length url) = some c₂ := by
          rw [run_append, hrun₁, Option.some_bind, hrun₂]
        refine ⟨_, c₂, fun i hm => ?_, hrun, hi.run hrun, by rw [hc₂],
          fun _ => by rw [hc₂, hc₁]; omega⟩
        rcases List.mem_append.mp hm with hm | hm
        · exact dial_none_not_mem_finishRun url pc i hm
        · simp [recoverRun] at hm
    · exact ha.elim

/-- From every reachable state of the reconnect machine, some schedule in which no dial fails
brings the connection to `Connected` with every successful attempt's signal sent; from a state
that is not `Connected`, at a higher version, which is one more reconnect signal to the
handler. -/
theorem Reachable.recover (hc : c.Reachable) (url : Url) :
    ∃ as c', (∀ i, Action.dial i none ∉ as) ∧ c.run as = some c' ∧ c'.state.1 = .connected ∧
      c'.announcing = 0 ∧ (c.state.1 ≠ .connected → c.state.2 < c'.state.2) := by
  obtain ⟨as, c₁, hno, hrun, -, hc₁, hlt⟩ := hc.inv.connect url
  refine ⟨as ++ List.replicate c₁.announcing .announce,
    { c₁ with reconnectHandler := c₁.reconnectHandler + c₁.announcing, announcing := 0 }, fun i hm => ?_,
    by rw [run_append, hrun, Option.some_bind, run_announce], hc₁, rfl, hlt⟩
  rcases List.mem_append.mp hm with hm | hm
  · exact hno i hm
  · simp at hm

theorem reconnectHandler_le_step {a : Action} (hc : c.Inv) (h : c.step a = some c') :
    c.reconnectHandler ≤ c'.reconnectHandler := by
  rcases step_cases hc h with ⟨-, hr, -⟩ | ⟨-, -, -, hr, -⟩ | ⟨-, -, -, -, hr, -⟩ |
    ⟨-, -, -, hr, -⟩ | ⟨-, -, -, -, hr, -⟩ | ⟨-, -, -, -, hr, -⟩ <;> omega

theorem reconnectHandler_le_run {as : List Action} (hc : c.Inv) (h : c.run as = some c') :
    c.reconnectHandler ≤ c'.reconnectHandler := by
  induction as generalizing c with
  | nil => cases h; exact le_rfl
  | cons a as ih =>
    obtain ⟨c₁, h₁, h₂⟩ := Option.bind_eq_some.mp h
    exact (reconnectHandler_le_step hc h₁).trans (ih (hc.step h₁) h₂)

/-- `c'` is `c` with some more calls of `trigger_reconnect` started and nothing else changed:
what the sends of a client can do to its connection. -/
def Triggered (c c' : NatsConnection) : Prop :=
  ∃ n, c' = { c with triggers := c.triggers ++ List.replicate n .start }

theorem Triggered.refl (c : NatsConnection) : c.Triggered c := ⟨0, by simp⟩

theorem Triggered.trigger (c : NatsConnection) : c.Triggered c.trigger := ⟨1, rfl⟩

theorem Triggered.trans {c'' : NatsConnection} (h₁ : c.Triggered c') (h₂ : c'.Triggered c'') :
    c.Triggered c'' := by
  obtain ⟨n, rfl⟩ := h₁
  obtain ⟨m, rfl⟩ := h₂
  exact ⟨n + m, by simp⟩

theorem Triggered.state_eq (h : c.Triggered c') :
    c'.state = c.state ∧ c'.reconnectHandler = c.reconnectHandler ∧ c'.announcing = c.announcing := by
  obtain ⟨n, rfl⟩ := h
  exact ⟨rfl, rfl, rfl⟩

theorem run_replicate_trigger (c : NatsConnection) (n : Nat) :
    c.run (List.replicate n .trigger) =
      some { c with triggers := c.triggers ++ List.replicate n .start } := by
  induction n generalizing c with
  | zero => simp [run]
  | succ n ih =>
    rw [List.replicate_succ, run_cons]
    show (some c.trigger).bind _ = _
    rw [Option.some_bind, ih]
    simp only [trigger, List.append_assoc, List.singleton_append, List.replicate_succ]

theorem Triggered.run (h : c.Triggered c') : ∃ as : List Action, c.run as = some c' := by
  obtain ⟨n, rfl⟩ := h
  exact ⟨_, run_replicate_trigger c n⟩

end NatsConnection

end Ratsio
