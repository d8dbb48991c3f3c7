import Ratsio.Client.Multiplexer

/-!
What the registry's `count` counts, over every history of the registry's writers replayed from
the empty map (`subs_count_since_max`).
-/

namespace Ratsio

open NatsClientMultiplexer NatsClient

/-- One writer of the registry. -/
inductive SubsOp where
  | forSid (cmd : Subscribe) (tx : Nat)
  | unsubscribe (cmd : UnSubscribe)
  | countMsg (sid : String)
  | removeSid (sid : String)
  | clear
  deriving DecidableEq, Repr

namespace SubsOp

/-- The registry after one writer. -/
def apply : SubsOp → SubsMap → SubsMap
  | .forSid cmd tx, subsMap => NatsClientMultiplexer.forSid subsMap cmd tx
  | .unsubscribe cmd, subsMap => unsubscribeSubs subsMap cmd
  | .countMsg sid, subsMap => (NatsClient.countMsg subsMap sid).1
  | .removeSid sid, subsMap => NatsClientMultiplexer.removeSid subsMap sid
  | .clear, _ => ∅

/-- The writer registers `sid` afresh. -/
def registers (sid : String) : SubsOp → Bool
  | .forSid cmd _ => cmd.sid = sid
  | _ => false

/-- The writer records a max count on `sid`. -/
def setsMax (sid : String) : SubsOp → Bool
  | .unsubscribe cmd => cmd.sid = sid ∧ cmd.maxMsgs.isSome
  | _ => false

end SubsOp

/-- The registry after a history of writers, newest first. -/
def replay : List SubsOp → SubsMap
  | [] => ∅
  | op :: ops => op.apply (replay ops)

/-- The writers of a history, newest first, since `sid` was last registered. -/
def sinceRegistered (sid : String) (ops : List SubsOp) : List SubsOp :=
  ops.takeWhile fun op => !op.registers sid

/-- Some writer since the last registration of `sid` recorded a max count on it. -/
def maxRecorded (sid : String) (ops : List SubsOp) : Bool :=
  (sinceRegistered sid ops).any (·.setsMax sid)

/-- The items consumed on `sid` since its last registration with a max count recorded before
them. -/
def countedMsgs (sid : String) : List SubsOp → Nat
  | [] => 0
  | op :: ops =>
    if op.registers sid then 0
    else countedMsgs sid ops + if op = .countMsg sid ∧ maxRecorded sid ops then 1 else 0

/-- The items consumed on `sid` since its last registration. -/
def consumedMsgs (sid : String) (ops : List SubsOp) : Nat :=
  (sinceRegistered sid ops).count (.countMsg sid)

variable {sid : String} {op : SubsOp} {ops : List SubsOp} {s : SubscriptionSink}

theorem maxRecorded_cons (h : op.registers sid = false) :
    maxRecorded sid (op :: ops) = (op.setsMax sid || maxRecorded sid ops) := by
  simp [maxRecorded, sinceRegistered, List.takeWhile_cons, h]

theorem countedMsgs_cons (h : op.registers sid = false) :
    countedMsgs sid (op :: ops) =
      countedMsgs sid ops + if op = .countMsg sid ∧ maxRecorded sid ops then 1 else 0 := by
  simp [countedMsgs, h]

theorem lookup_replay (h : (replay ops).lookup sid = some s) :
    s.count = countedMsgs sid ops ∧ (s.maxCount.isSome ↔ maxRecorded sid ops) := by
  induction ops generalizing s with
  | nil => simp [replay] at h
  | cons op ops ih =>
    cases op with
    | forSid cmd tx =>
      simp only [replay, SubsOp.apply, lookup_forSid] at h
      split at h
      · cases h
        simp [countedMsgs, maxRecorded, sinceRegistered, SubsOp.registers, *]
      · have hr : (SubsOp.forSid cmd tx).registers sid = false := by
          simp [SubsOp.registers]; exact Ne.symm ‹_›
        rw [countedMsgs_cons hr, maxRecorded_cons hr]
        simpa [SubsOp.setsMax] using ih h
    | unsubscribe cmd =>
      simp only [replay, SubsOp.apply, lookup_unsubscribeSubs] at h
      have hr : (SubsOp.unsubscribe cmd).registers sid = false := rfl
      rw [countedMsgs_cons hr, maxRecorded_cons hr]
      split at h
      · obtain ⟨s₀, h₀, rfl⟩ := Option.map_eq_some'.mp h
        have := ih h₀
        cases hm : cmd.maxMsgs <;> simp_all [SubsOp.setsMax]
      · simpa [SubsOp.setsMax, Ne.symm ‹_›] using ih h
    | countMsg sid' =>
      simp only [replay, SubsOp.apply, lookup_countMsg] at h
      have hr : (SubsOp.countMsg sid').registers sid = false := rfl
      rw [countedMsgs_cons hr, maxRecorded_cons hr]
      split at h
      · subst sid'
        obtain ⟨s₀, h₀, h⟩ := Option.bind_eq_some.mp h
        obtain ⟨ih₁, ih₂⟩ := ih h₀
        unfold afterMsg at h
        split at h
        · split at h <;> cases h
          simp_all [SubsOp.setsMax]
        · cases h
          simp_all [SubsOp.setsMax]
      · simpa [SubsOp.setsMax, Ne.symm ‹_›] using ih h
    | removeSid sid' =>
      simp only [replay, SubsOp.apply, lookup_removeSid] at h
      split at h
      · cases h
      · have hr : (SubsOp.removeSid sid').registers sid = false := rfl
        rw [countedMsgs_cons hr, maxRecorded_cons hr]
        simpa [SubsOp.setsMax] using ih h
    | clear => simp [replay, SubsOp.apply] at h

theorem afterMsg_count_lt {s₀ : SubscriptionSink} {m : Nat} (h : afterMsg s₀ = some s)
    (hm : s.maxCount = some m) : s.count < m := by
  unfold afterMsg at h
  split at h
  · split at h <;> cases h
    simp_all
  · cases h; simp_all

/-- The entry of a sid counts the items its stream yielded since a max count was first recorded
on it after its registration, items yielded while it had no max count left out; it has a max
count exactly when one was recorded since its registration; and right after an item of the sid
is counted, a retained entry with `max_count = Some(m)` has `count < m`. -/
theorem subs_count_since_max (h : (replay ops).lookup sid = some s) :
    s.count = countedMsgs sid ops ∧ (s.maxCount.isSome ↔ maxRecorded sid ops) ∧
    ∀ m, ops.head? = some (.countMsg sid) → s.maxCount = some m → s.count < m := by
  refine ⟨(lookup_replay h).1, (lookup_replay h).2, fun m hops hm => ?_⟩
  cases ops with
  | nil => cases hops
  | cons op ops =>
    obtain rfl : op = .countMsg sid := Option.some.inj hops
    rw [replay, SubsOp.apply, lookup_countMsg, if_pos rfl] at h
    obtain ⟨s₀, -, h⟩ := Option.bind_eq_some.mp h
    exact afterMsg_count_lt h hm

theorem afterMsg_cmd_tx {s₀ : SubscriptionSink} (h : afterMsg s₀ = some s) :
    s.cmd = s₀.cmd ∧ s.tx = s₀.tx := by
  unfold afterMsg at h
  split at h
  · split at h <;> cases h
    exact ⟨rfl, rfl⟩
  · cases h; exact ⟨rfl, rfl⟩

theorem SubsOp.lookup_apply {subsMap : SubsMap} {k : String} (op : SubsOp)
    (h : (op.apply subsMap).lookup k = some s) :
    (∃ cmd tx, op = .forSid cmd tx ∧ k = cmd.sid ∧ s = ⟨cmd, tx, none, 0⟩) ∨
    ∃ s₀, subsMap.lookup k = some s₀ ∧ s.cmd = s₀.cmd ∧ s.tx = s₀.tx := by
  cases op with
  | forSid cmd tx =>
    simp only [apply, lookup_forSid] at h
    split at h
    · exact .inl ⟨cmd, tx, rfl, ‹_›, (Option.some.inj h).symm⟩
    · exact .inr ⟨s, h, rfl, rfl⟩
  | unsubscribe cmd =>
    simp only [apply, lookup_unsubscribeSubs] at h
    split at h
    · obtain ⟨s₀, h₀, rfl⟩ := Option.map_eq_some'.mp h
      exact .inr ⟨s₀, h₀, rfl, rfl⟩
    · exact .inr ⟨s, h, rfl, rfl⟩
  | countMsg sid' =>
    simp only [apply, lookup_countMsg] at h
    split at h
    · obtain ⟨s₀, h₀, h⟩ := Option.bind_eq_some.mp h
      exact .inr ⟨s₀, h₀, afterMsg_cmd_tx h⟩
    · exact .inr ⟨s, h, rfl, rfl⟩
  | removeSid sid' =>
    simp only [apply, lookup_removeSid] at h
    split at h
    · cases h
    · exact .inr ⟨s, h, rfl, rfl⟩
  | clear => simp [apply] at h

theorem SubsOp.lookup_apply_none {subsMap : SubsMap} {k : String} {e : SubscriptionSink}
    (op : SubsOp) (he : subsMap.lookup k = some e) (hn : (op.apply subsMap).lookup k = none) :
    op = .countMsg k ∨ op = .removeSid k ∨ op = .clear := by
  cases op with
  | forSid cmd tx =>
    simp only [apply, lookup_forSid] at hn
    split at hn <;> simp_all
  | unsubscribe cmd =>
    simp only [apply, lookup_unsubscribeSubs] at hn
    split at hn <;> simp_all
  | countMsg sid' =>
    simp only [apply, lookup_countMsg] at hn
    split at hn
    · subst k; exact .inl rfl
    · simp_all
  | removeSid sid' =>
    simp only [apply, lookup_removeSid] at hn
    split at hn
    · subst k; exact .inr (.inl rfl)
    · simp_all
  | clear => exact .inr (.inr rfl)

/-- Every entry of the registry is stored under the sid of its command. -/
def KeysOk (subsMap : SubsMap) : Prop :=
  ∀ k s, subsMap.lookup k = some s → s.cmd.sid = k

theorem SubsOp.keysOk_apply {subsMap : SubsMap} (op : SubsOp) (h : KeysOk subsMap) :
    KeysOk (op.apply subsMap) := by
  intro k s hs
  rcases op.lookup_apply hs with ⟨cmd, tx, -, rfl, rfl⟩ | ⟨s₀, h₀, hcmd, -⟩
  · rfl
  · rw [hcmd]; exact h k s₀ h₀

theorem keysOk_replay (ops : List SubsOp) : KeysOk (replay ops) := by
  induction ops with
  | nil => intro k s h; simp [replay] at h
  | cons op ops ih => exact op.keysOk_apply ih

def subscribeS1 : Subscribe := ⟨"x", "s1", none⟩

/-- Items yielded before `unsubscribe` records a max count are not counted: after one item and
then `unsubscribe(s1, max 2)` the entry's count is `0`. And a second `unsubscribe` can lower the
max count below the count: after `unsubscribe(s1, max 3)`, two items and `unsubscribe(s1, max 1)`
the entry is retained with count `2` and max count `1`. -/
theorem subs_count_misses_items :
    (replay [.unsubscribe ⟨"s1", some 2⟩, .countMsg "s1", .forSid subscribeS1 0]).lookup "s1" =
      some ⟨subscribeS1, 0, some 2, 0⟩ ∧
    consumedMsgs "s1" [.unsubscribe ⟨"s1", some 2⟩, .countMsg "s1", .forSid subscribeS1 0] = 1 ∧
    (replay [.unsubscribe ⟨"s1", some 1⟩, .countMsg "s1", .countMsg "s1",
        .unsubscribe ⟨"s1", some 3⟩, .forSid subscribeS1 0]).lookup "s1" =
      some ⟨subscribeS1, 0, some 1, 2⟩ := by
  decide

theorem subs_count_since_max_one :
    (replay [.countMsg "s1", .unsubscribe ⟨"s1", some 3⟩, .forSid subscribeS1 0]).lookup "s1" =
      some ⟨subscribeS1, 0, some 3, 1⟩ ∧
    ((⟨subscribeS1, 0, some 3, 1⟩ : SubscriptionSink).count =
        countedMsgs "s1" [.countMsg "s1", .unsubscribe ⟨"s1", some 3⟩, .forSid subscribeS1 0] ∧
      ((⟨subscribeS1, 0, some 3, 1⟩ : SubscriptionSink).maxCount.isSome ↔
        maxRecorded "s1" [.countMsg "s1", .unsubscribe ⟨"s1", some 3⟩, .forSid subscribeS1 0]) ∧
      ∀ m, [SubsOp.countMsg "s1", .unsubscribe ⟨"s1", some 3⟩, .forSid subscribeS1 0].head? =
          some (.countMsg "s1") →
        (⟨subscribeS1, 0, some 3, 1⟩ : SubscriptionSink).maxCount = some m →
        (⟨subscribeS1, 0, some 3, 1⟩ : SubscriptionSink).count < m) :=
  have h : (replay [.countMsg "s1", .unsubscribe ⟨"s1", some 3⟩, .forSid subscribeS1 0]).lookup
      "s1" = some ⟨subscribeS1, 0, some 3, 1⟩ := by decide
  ⟨h, subs_count_since_max h⟩

end Ratsio
