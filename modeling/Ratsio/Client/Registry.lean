import Ratsio.Client.ClientLemmas

/-!
The registry and the subscription channels of a reachable client: the registry is the replay of
a history of writers, and every entry holds a channel of its own (`RegistryOk`), so a routed
`MSG` reaches the sink of its sid and no other (`msg_routed_to_own_sink`).
-/

namespace Ratsio

namespace NatsClient

open NatsClientMultiplexer

variable {w w' : NatsClient} {a : ClientAction}

theorem pushChannel_getElem? (w : NatsClient) (tx : Nat) (m : SinkMessage) (tx' : Nat) :
    (w.pushChannel tx m).channels[tx']? =
      if tx' = tx then (w.channels[tx']?).map (· ++ [m]) else w.channels[tx']? := by
  by_cases h : tx' = tx
  · subst h
    simp [pushChannel]
  · simp [pushChannel, h, Ne.symm h]

theorem pushChannel_length (w : NatsClient) (tx : Nat) (m : SinkMessage) :
    (w.pushChannel tx m).channels.length = w.channels.length := by
  simp [pushChannel]

theorem closeSinks_getElem? (w : NatsClient) (tx : Nat) :
    w.closeSinks.channels[tx]? =
      (w.channels[tx]?).map (· ++ (w.subsMap.entries.filter (·.2.tx = tx)).map fun _ => .close) := by
  simp only [closeSinks]
  generalize w.subsMap.entries = es
  generalize w.channels = channels
  induction es generalizing channels with
  | nil => simp
  | cons e es ih =>
    rw [List.foldl_cons, ih]
    by_cases he : e.2.tx = tx
    · subst he
      cases h : channels[e.2.tx]? <;> simp [h]
    · simp [List.getElem?_modify_ne _ _ he, he]

theorem closeSinks_length (w : NatsClient) :
    w.closeSinks.channels.length = w.channels.length := by
  simp only [closeSinks]
  generalize w.subsMap.entries = es
  generalize w.channels = channels
  induction es generalizing channels with
  | nil => rfl
  | cons e es ih => rw [List.foldl_cons, ih, List.length_modify]

theorem route_msg_channels (w : NatsClient) (controlTx : Nat) {m : Message} {s : SubscriptionSink}
    (hs : w.subsMap.lookup m.sid = some s) :
    (w.route controlTx (.msg m)).channels = (w.pushChannel s.tx (.message m)).channels := by
  simp only [route, hs]

theorem route_msg_channels_none (w : NatsClient) (controlTx : Nat) {m : Message}
    (hs : w.subsMap.lookup m.sid = none) : (w.route controlTx (.msg m)).channels = w.channels := by
  simp only [route, hs]

theorem subs_step (h : w.step a = some w') :
    (w'.subsMap = w.subsMap ∨ ∃ op : SubsOp, w'.subsMap = op.apply w.subsMap ∧
      ∀ cmd tx, op = .forSid cmd tx → tx = w.channels.length ∧ w'.channels = w.channels ++ [[]]) ∧
    ((∃ d controlTx m s, a = .route d ∧ w.multiplexers[d]? = some ⟨controlTx, some (.msg m)⟩ ∧
        w.subsMap.lookup m.sid = some s ∧ w'.channels = (w.pushChannel s.tx (.message m)).channels) ∨
      (a = .handle ∧ w.handler = .closeSinks ∧ w'.channels = w.closeSinks.channels) ∨
      w'.channels = w.channels ∨ w'.channels = w.channels ++ [[]]) := by
  have fresh : ∀ cmd, ∀ cmd' tx, SubsOp.forSid cmd w.channels.length = .forSid cmd' tx →
      tx = w.channels.length ∧ w.channels ++ [[]] = w.channels ++ [[]] := fun _ _ _ h => by
    cases h; exact ⟨rfl, rfl⟩
  cases moves_of_step h with
  | routeMsg hd hs => exact ⟨.inl rfl, .inl ⟨_, _, _, _, rfl, hd, hs, rfl⟩⟩
  | handleCloseSinks hh => exact ⟨.inl rfl, .inr (.inl ⟨rfl, hh, rfl⟩)⟩
  | handleClear => exact ⟨.inr ⟨.clear, rfl, fun _ _ h => nomatch h⟩, .inr (.inr (.inl rfl))⟩
  | @subscribed _ cmd => exact ⟨.inr ⟨.forSid cmd _, rfl, fresh cmd⟩, .inr (.inr (.inr rfl))⟩
  | unsubscribe =>
    exact ⟨.inr ⟨.unsubscribe _, rfl, fun _ _ h => nomatch h⟩, .inr (.inr (.inl rfl))⟩
  | pollMessage =>
    exact ⟨.inr ⟨.countMsg _, rfl, fun _ _ h => nomatch h⟩, .inr (.inr (.inl rfl))⟩
  | @request _ _ inbox sid _ =>
    exact ⟨.inr ⟨.forSid ⟨inbox, sid, none⟩ _, rfl, fresh _⟩, .inr (.inr (.inr rfl))⟩
  | requestReply =>
    exact ⟨.inr ⟨.removeSid _, rfl, fun _ _ h => nomatch h⟩, .inr (.inr (.inl rfl))⟩
  | _ => exact ⟨.inl rfl, .inr (.inr (.inl rfl))⟩

theorem channels_length_le (h : w.step a = some w') : w.channels.length ≤ w'.channels.length := by
  rcases (subs_step h).2 with ⟨_, _, _, _, _, _, _, hc⟩ | ⟨_, _, hc⟩ | hc | hc <;>
    simp [hc, pushChannel_length, closeSinks_length]

/-- The registry of a reachable client: every entry is stored under the sid of its command and
holds a channel of the client, and no two entries hold the same channel. -/
structure RegistryOk (w : NatsClient) : Prop where
  keys : KeysOk w.subsMap
  tx_lt : ∀ k s, w.subsMap.lookup k = some s → s.tx < w.channels.length
  tx_inj : ∀ k k' s s', w.subsMap.lookup k = some s → w.subsMap.lookup k' = some s' →
    s.tx = s'.tx → k = k'

theorem registryOk_create (opts : NatsClientOptions) (url : Url) (sinkAnswers : Nat → SinkAnswer) :
    (create opts url sinkAnswers).RegistryOk :=
  ⟨fun _ _ h => by simp [create] at h, fun _ _ h => by simp [create] at h,
    fun _ _ _ _ h => by simp [create] at h⟩

theorem RegistryOk.apply (hw : w.RegistryOk) (op : SubsOp) (hs : w'.subsMap = op.apply w.subsMap)
    (hlen : w.channels.length ≤ w'.channels.length)
    (hfresh : ∀ cmd tx, op = .forSid cmd tx → tx = w.channels.length ∧
      w'.channels = w.channels ++ [[]]) : w'.RegistryOk := by
  have lookup_w' : ∀ {k s}, w'.subsMap.lookup k = some s →
      (∃ cmd tx, op = .forSid cmd tx ∧ k = cmd.sid ∧ s = ⟨cmd, tx, none, 0⟩ ∧
        tx = w.channels.length ∧ w.channels.length < w'.channels.length) ∨
      ∃ s₀, w.subsMap.lookup k = some s₀ ∧ s.tx = s₀.tx ∧ s₀.tx < w.channels.length := by
    intro k s h
    rw [hs] at h
    rcases op.lookup_apply h with ⟨cmd, tx, rfl, hk, rfl⟩ | ⟨s₀, h₀, -, htx⟩
    · obtain ⟨htx, hch⟩ := hfresh cmd tx rfl
      exact .inl ⟨cmd, tx, rfl, hk, rfl, htx, by simp [hch]⟩
    · exact .inr ⟨s₀, h₀, htx, hw.tx_lt _ _ h₀⟩
  refine ⟨hs ▸ op.keysOk_apply hw.keys, fun k s h => ?_, fun k k' s s' h h' e => ?_⟩
  · rcases lookup_w' h with ⟨-, tx, -, -, rfl, rfl, hlt⟩ | ⟨s₀, -, htx, hlt⟩
    · exact hlt
    · omega
  · rcases lookup_w' h with ⟨cmd, tx, rfl, rfl, rfl, rfl, -⟩ | ⟨s₀, h₀, htx, hlt⟩ <;>
      rcases lookup_w' h' with ⟨cmd', tx', hop, rfl, rfl, htx'', -⟩ | ⟨s₀', h₀', htx', hlt'⟩
    · cases hop; rfl
    · simp only at e; omega
    · simp only at e; omega
    · exact hw.tx_inj k k' s₀ s₀' h₀ h₀' (by omega)

theorem RegistryOk.step (hw : w.RegistryOk) (h : w.step a = some w') : w'.RegistryOk := by
  have hlen := channels_length_le h
  rcases (subs_step h).1 with hs | ⟨op, hs, hfresh⟩
  · refine ⟨hs ▸ hw.keys, fun k s h => ?_, fun k k' s s' h h' => ?_⟩
    · exact (hw.tx_lt k s (hs ▸ h)).trans_le hlen
    · exact hw.tx_inj k k' s s' (hs ▸ h) (hs ▸ h')
  · exact hw.apply op hs hlen hfresh

theorem Reachable.registryOk (hw : w.Reachable) : w.RegistryOk := by
  induction hw with
  | create opts url sinkAnswers => exact registryOk_create opts url sinkAnswers
  | step a _ h ih => exact ih.step h

theorem Reachable.subsMap_replay (hw : w.Reachable) : ∃ ops, w.subsMap = replay ops := by
  induction hw with
  | create => exact ⟨[], rfl⟩
  | step a _ h ih =>
    obtain ⟨ops, hops⟩ := ih
    rcases (subs_step h).1 with hs | ⟨op, hs, -⟩
    · exact ⟨ops, hs.trans hops⟩
    · exact ⟨op :: ops, by rw [hs, hops]; rfl⟩

theorem route_msg_controlLoops (w : NatsClient) (controlTx : Nat) (m : Message) :
    (w.route controlTx (.msg m)).controlLoops = w.controlLoops := by
  simp only [route]
  split <;> rfl

/-- Every entry of the registry, whatever the history of its writers, is stored under the sid of
its command. In a reachable client, a routed `MSG` goes into the channel of every entry whose
command has the message's sid, which is at most the entry of that sid, and into no other channel,
and never to a control loop. -/
theorem msg_routed_to_own_sink :
    (∀ (ops : List SubsOp) k s, (replay ops).lookup k = some s → s.cmd.sid = k) ∧
    ∀ w : NatsClient, w.Reachable → ∀ (controlTx : Nat) (m : Message),
      (w.route controlTx (.msg m)).controlLoops = w.controlLoops ∧
      (∀ k s, w.subsMap.lookup k = some s →
        (w.route controlTx (.msg m)).channels[s.tx]? =
          if s.cmd.sid = m.sid then (w.channels[s.tx]?).map (· ++ [.message m])
          else w.channels[s.tx]?) ∧
      ∀ tx, (∀ k s, w.subsMap.lookup k = some s → s.tx ≠ tx) →
        (w.route controlTx (.msg m)).channels[tx]? = w.channels[tx]? := by
  refine ⟨keysOk_replay, fun w hw controlTx m => ⟨route_msg_controlLoops w controlTx m, ?_, ?_⟩⟩
  · intro k s hs
    have hr := hw.registryOk
    cases hl : w.subsMap.lookup m.sid with
    | none =>
      rw [route_msg_channels_none w controlTx hl, if_neg]
      rintro hsid
      rw [← hsid, hr.keys k s hs] at hl
      simp [hs] at hl
    | some s' =>
      rw [route_msg_channels w controlTx hl, pushChannel_getElem?]
      have same_tx : s.tx = s'.tx ↔ s.cmd.sid = m.sid :=
        ⟨fun e => by rw [hr.keys k s hs, hr.tx_inj k m.sid s s' hs hl e],
          fun hsid => by rw [← hsid, hr.keys k s hs, hs, Option.some.injEq] at hl; rw [hl]⟩
      by_cases hsid : s.cmd.sid = m.sid
      · rw [if_pos (same_tx.mpr hsid), if_pos hsid]
      · rw [if_neg (mt same_tx.mp hsid), if_neg hsid]
  · intro tx htx
    cases hl : w.subsMap.lookup m.sid with
    | none => rw [route_msg_channels_none w controlTx hl]
    | some s' =>
      rw [route_msg_channels w controlTx hl, pushChannel_getElem?,
        if_neg (Ne.symm (htx m.sid s' hl))]

end NatsClient

end Ratsio
