import Ratsio.Client.ClientLemmas

/-!
The streams that `subscribe` returns, against the registry: the max count, `unsubscribe`
without `max_msgs`, and what removes an entry (`entry_leaves_by_count_reply_or_clear`).
-/

namespace Ratsio

namespace NatsClient

open NatsClientMultiplexer

variable {w w' : NatsClient} {a : ClientAction}

theorem poll_reaches_max {j : Nat} {st : SubStream} {m : Message} {e : SubscriptionSink} {n : Nat}
    (hst : st.ended = false ∧ st.dropped = false)
    (hm : w.channelItem st.rx st.pos = some (.message m))
    (he : w.subsMap.lookup st.sid = some e) (hn : e.maxCount = some n) (hc : n ≤ e.count + 1) :
    w.poll j st = some { w with
      subsMap := w.subsMap.erase st.sid
      streams := w.streams.set j
        { st with pos := st.pos + 1, items := st.items ++ [.error (.subscriptionReachedMaxMsgs n)] } } := by
  simp [poll, hst, hm, countMsg, he, hn, hc, countedItem]

theorem poll_unregistered {j : Nat} {st : SubStream} {m : Message}
    (hst : st.ended = false ∧ st.dropped = false)
    (hm : w.channelItem st.rx st.pos = some (.message m)) (he : w.subsMap.lookup st.sid = none) :
    w.poll j st = some { w with
      streams := w.streams.set j { st with pos := st.pos + 1, items := st.items ++ [.ok m] } } := by
  simp [poll, hst, hm, countMsg, he, countedItem]

def msgS1At (n : UInt8) : Message := ⟨"x", "s1", none, [n]⟩

def maxTwoRun : List ClientAction :=
  [.subscribe subscribeS1, .subscribed 0, .unsubscribe ⟨"s1", some 2⟩]

def threeMsgsRun : List ClientAction :=
  [.read 0 (.msg (msgS1At 1)), .route 0, .read 0 (.msg (msgS1At 2)), .route 0,
    .read 0 (.msg (msgS1At 3)), .route 0]

/-- With max 2 and three messages routed before the consumer polls: the stream yields the first
message, then `SubscriptionReachedMaxMsgs(2)` in place of the second, then the third, and ends;
the entry of `s1` is gone. -/
theorem max_msgs_replaces_last_msg :
    (sample.run (maxTwoRun ++ threeMsgsRun ++ [.poll 0, .poll 0, .poll 0, .poll 0])).map
        (fun w => (w.streams.map fun st => (st.items, st.ended), (w.subsMap.lookup "s1").isSome)) =
      some ([([.ok (msgS1At 1), .error (.subscriptionReachedMaxMsgs 2), .ok (msgS1At 3)], true)],
        false) := by
  decide

def unsubscribeRun : List ClientAction :=
  [.subscribe subscribeS1, .subscribed 0, .unsubscribe ⟨"s1", none⟩]

/-- `unsubscribe` without `max_msgs` never touches the registry, whatever it holds; after
`subscribe(s1)` and `unsubscribe(s1)` the entry of `s1` is still there, its stream waits for
more items instead of ending, and the reconnect handler sends `SUB(s1)` again over the new
transport. -/
theorem unsubscribe_keeps_entry :
    (∀ (w : NatsClient) (sid : String),
      (w.step (.unsubscribe ⟨sid, none⟩)).map (·.subsMap) = some w.subsMap) ∧
    (sample.run unsubscribeRun).map
        (fun w => ((w.subsMap.lookup "s1").map (·.cmd), (w.step (.poll 0)).isSome)) =
      some (some subscribeS1, false) ∧
    (sample.run (unsubscribeRun ++ reconnectRun ++ handlerRun ++ [.handleConnect true, .handle])).map
        (fun w => w.sent.filter (·.1 = 1)) = some [(1, .sub subscribeS1)] := by
  exact ⟨fun _ _ => rfl, by decide, by decide⟩

/-- Routing a frame never touches the registry: a `MSG` for a sid whose stream was dropped leaves
its entry in place. After `subscribe(s1)`, a drop of its stream and a routed `MSG` for `s1`, the
entry is still there, and the reconnect handler sends `SUB(s1)` again over the new transport. -/
theorem dropped_stream_keeps_entry :
    (∀ (w w' : NatsClient) (d : Nat), w.step (.route d) = some w' → w'.subsMap = w.subsMap) ∧
    (sample.run [.subscribe subscribeS1, .subscribed 0, .dropStream 0, .read 0 (.msg msgS1),
        .route 0]).map
        (fun w => ((w.subsMap.lookup "s1").map (·.cmd), w.streams.map (·.dropped))) =
      some (some subscribeS1, [true]) ∧
    (sample.run ([.subscribe subscribeS1, .subscribed 0, .dropStream 0, .read 0 (.msg msgS1),
        .route 0] ++ reconnectRun ++ handlerRun ++ [.handleConnect true, .handle])).map
        (fun w => w.sent.filter (·.1 = 1)) = some [(1, .sub subscribeS1)] := by
  refine ⟨fun w w' d h => ?_, by decide, by decide⟩
  cases moves_of_step h <;> rfl

/-- An entry leaves the registry only by the count of its sid's stream reaching the max count, by
the reply of the request with that inbox sid, or by the reconnect handler's `clear`: neither a
dropped stream nor a failed delivery into its channel removes it. -/
theorem entry_leaves_by_count_reply_or_clear (h : w.step a = some w') {k : String}
    {e : SubscriptionSink} (he : w.subsMap.lookup k = some e) (hgone : w'.subsMap.lookup k = none) :
    (∃ j st, a = .poll j ∧ w.streams[j]? = some st ∧ st.sid = k) ∨
    (∃ j r, a = .requestStep j ∧ w.requests[j]? = some r ∧ r.pc = .takeReply ∧ r.subCmd.sid = k) ∨
    (a = .handle ∧ w.handler = .clear) := by
  have gone : ∀ op : SubsOp, w'.subsMap = op.apply w.subsMap →
      op = .countMsg k ∨ op = .removeSid k ∨ op = .clear := fun op hs =>
    op.lookup_apply_none he (hs ▸ hgone)
  cases moves_of_step h with
  | pollMessage hst =>
    rcases gone (.countMsg _) rfl with h | h | h <;> cases h
    exact .inl ⟨_, _, rfl, hst, rfl⟩
  | requestReply hr hpc =>
    rcases gone (.removeSid _) rfl with h | h | h <;> cases h
    exact .inr (.inl ⟨_, _, rfl, hr, hpc, rfl⟩)
  | handleClear hh => exact .inr (.inr ⟨rfl, hh⟩)
  | subscribed => rcases gone (.forSid _ _) rfl with h | h | h <;> cases h
  | request => rcases gone (.forSid _ _) rfl with h | h | h <;> cases h
  | unsubscribe => rcases gone (.unsubscribe _) rfl with h | h | h <;> cases h
  | _ => exact absurd (he.symm.trans hgone) nofun

def maxTwoSample : NatsClient :=
  (sample.run (maxTwoRun ++ threeMsgsRun ++ [.poll 0])).getD sample

theorem entry_leaves_by_count_reply_or_clear_max :
    ∃ w' e, maxTwoSample.step (.poll 0) = some w' ∧ maxTwoSample.subsMap.lookup "s1" = some e ∧
      w'.subsMap.lookup "s1" = none ∧
      ((∃ j st, ClientAction.poll 0 = .poll j ∧ maxTwoSample.streams[j]? = some st ∧ st.sid = "s1") ∨
        (∃ j r, ClientAction.poll 0 = .requestStep j ∧ maxTwoSample.requests[j]? = some r ∧
          r.pc = .takeReply ∧ r.subCmd.sid = "s1") ∨
        (ClientAction.poll 0 = .handle ∧ maxTwoSample.handler = .clear)) :=
  have h : maxTwoSample.step (.poll 0) = some ((maxTwoSample.step (.poll 0)).getD sample) := rfl
  have he : maxTwoSample.subsMap.lookup "s1" = some ((maxTwoSample.subsMap.lookup "s1").getD
    ⟨subscribeS1, 0, none, 0⟩) := rfl
  ⟨_, _, h, he, rfl, entry_leaves_by_count_reply_or_clear h he rfl⟩

end NatsClient

end Ratsio
