import Ratsio.Client.Registry

/-!
`NatsClient::request` and its future. The inbox channel's messages are the `MSG`s routed to the
inbox sid since the registration (`InboxOk`), so a request resolves with the first of them
(`request_registers_then_resolves`).
-/

namespace Ratsio

def SinkMessage.message? : SinkMessage → Option Message
  | .message m => some m
  | .close => none

namespace NatsClient

open NatsClientMultiplexer

variable {w w' : NatsClient} {a : ClientAction} {j : Nat}

/-- The messages among the items pushed into channel `tx`. -/
def channelMsgs (w : NatsClient) (tx : Nat) : List Message :=
  ((w.channels[tx]?).getD []).filterMap SinkMessage.message?

def routedMsg (sid : String) (w : NatsClient) : ClientAction → List Message
  | .route d =>
    match w.multiplexers[d]? with
    | some ⟨_, some (.msg m)⟩ => if m.sid = sid then [m] else []
    | _ => []
  | _ => []

/-- The `MSG`s for `sid` that a run routes, in order. -/
def routedTo (sid : String) (w : NatsClient) : List ClientAction → List Message
  | [] => []
  | a :: as =>
    match w.step a with
    | some w' => routedMsg sid w a ++ routedTo sid w' as
    | none => []

theorem step_requestStep {r : Request} (hr : w.requests[j]? = some r) :
    w.step (.requestStep j) = w.requestStep j r :=
  show w.requests[j]?.bind (w.requestStep j) = _ by rw [hr]; rfl

theorem requests_step (h : w.step a = some w') (hj : j < w.requests.length) :
    w'.requests[j]? = w.requests[j]? ∨
      ∃ r, a = .requestStep j ∧ w.requests[j]? = some r ∧ w.requestStep j r = some w' := by
  by_cases ha : a = .requestStep j
  · subst ha
    obtain ⟨r, hr, hs⟩ := Option.bind_eq_some.mp h
    exact .inr ⟨r, rfl, hr, hs⟩
  left
  cases moves_of_step h with
  | requestOverflow | request => exact List.getElem?_append_left hj
  | requestSub | requestUnsub | requestPub | requestReply | requestBroken =>
    exact List.getElem?_set_ne fun he => ha (congrArg ClientAction.requestStep he)
  | _ => rfl

theorem lookup_step_old (h : w.step a = some w') {k : String} {e : SubscriptionSink}
    (he : w'.subsMap.lookup k = some e) (hlt : e.tx < w.channels.length) :
    ∃ e₀, w.subsMap.lookup k = some e₀ ∧ e₀.tx = e.tx := by
  rcases (subs_step h).1 with hs | ⟨op, hs, hfresh⟩
  · exact ⟨e, hs ▸ he, rfl⟩
  · rw [hs] at he
    rcases op.lookup_apply he with ⟨cmd, tx, rfl, -, rfl⟩ | ⟨e₀, h₀, -, htx⟩
    · exact absurd (hfresh cmd tx rfl).1 (Nat.ne_of_lt hlt)
    · exact ⟨e₀, h₀, htx.symm⟩

theorem channelMsgs_route_msg {d c : Nat} {m : Message} (h : w.step (.route d) = some w')
    (hd : w.multiplexers[d]? = some ⟨c, some (.msg m)⟩) {tx : Nat} (htx : tx < w.channels.length) :
    w'.channelMsgs tx = w.channelMsgs tx ++
      if (w.subsMap.lookup m.sid).map (·.tx) = some tx then [m] else [] := by
  simp only [step, hd, Option.some.injEq] at h
  subst h
  simp only [route]
  split
  · rename_i s hs
    by_cases htx' : tx = s.tx
    · subst htx'
      simp [channelMsgs, pushChannel_getElem?, hs, List.getElem?_eq_getElem htx,
        SinkMessage.message?]
    · simp [channelMsgs, pushChannel_getElem?, hs, htx', Ne.symm htx']
  · rename_i hs
    simp [hs, channelMsgs]

theorem routedMsg_of_not_msg {sid : String}
    (hmsg : ¬∃ d c m, a = .route d ∧ w.multiplexers[d]? = some ⟨c, some (.msg m)⟩) :
    routedMsg sid w a = [] := by
  cases a
  case route d =>
    simp only [routedMsg]
    split
    · exact absurd ⟨d, _, _, rfl, ‹_›⟩ hmsg
    · rfl
  all_goals rfl

theorem channelMsgs_of_not_msg (h : w.step a = some w') {rx : Nat} (hrx : rx < w.channels.length)
    (hmsg : ¬∃ d c m, a = .route d ∧ w.multiplexers[d]? = some ⟨c, some (.msg m)⟩) :
    w'.channelMsgs rx = w.channelMsgs rx := by
  rcases (subs_step h).2 with ⟨d, c, m, s, rfl, hd, -, -⟩ | ⟨-, -, hc⟩ | hc | hc
  · exact absurd ⟨d, c, m, rfl, hd⟩ hmsg
  · simp only [channelMsgs, hc, closeSinks_getElem?]
    cases w.channels[rx]? <;> simp [List.filterMap_append, SinkMessage.message?]
  · simp only [channelMsgs, hc]
  · simp only [channelMsgs, hc, List.getElem?_append_left hrx]

theorem channelMsgs_step (h : w.step a = some w') {sid : String} {rx : Nat}
    (hrx : rx < w.channels.length)
    (honly : ∀ k e, w.subsMap.lookup k = some e → e.tx = rx → k = sid) :
    w'.channelMsgs rx = w.channelMsgs rx ++
      if (w.subsMap.lookup sid).map (·.tx) = some rx then routedMsg sid w a else [] := by
  by_cases hmsg : ∃ d c m, a = .route d ∧ w.multiplexers[d]? = some ⟨c, some (.msg m)⟩
  · obtain ⟨d, c, m, rfl, hd⟩ := hmsg
    rw [channelMsgs_route_msg h hd hrx]
    simp only [routedMsg, hd]
    by_cases hs : m.sid = sid
    · subst hs
      simp
    · have hne : (w.subsMap.lookup m.sid).map (·.tx) ≠ some rx := fun he => by
        obtain ⟨e, he, htx⟩ := Option.map_eq_some'.mp he
        exact hs (honly _ e he htx)
      simp [hne, hs]
  · rw [routedMsg_of_not_msg hmsg, ite_self, List.append_nil]
    exact channelMsgs_of_not_msg h hrx hmsg

theorem channel_grows (h : w.step a = some w') {tx : Nat} {q : List SinkMessage}
    (hq : w.channels[tx]? = some q) : ∃ ext, w'.channels[tx]? = some (q ++ ext) := by
  have htx : tx < w.channels.length := (List.getElem?_eq_some_iff.mp hq).1
  rcases (subs_step h).2 with ⟨-, -, m, s, -, -, -, hc⟩ | ⟨-, -, hc⟩ | hc | hc
  · rw [hc, pushChannel_getElem?, hq]
    split_ifs
    · exact ⟨[.message m], rfl⟩
    · exact ⟨[], by rw [List.append_nil]⟩
  · rw [hc, closeSinks_getElem?, hq]
    exact ⟨_, rfl⟩
  · exact ⟨[], by rw [hc, hq, List.append_nil]⟩
  · exact ⟨[], by rw [hc, List.getElem?_append_left htx, hq, List.append_nil]⟩

theorem channelItem_step (h : w.step a = some w') {rx pos : Nat} {x : SinkMessage}
    (hx : w.channelItem rx pos = some x) : w'.channelItem rx pos = some x := by
  obtain ⟨q, hq, hqx⟩ := Option.bind_eq_some.mp hx
  obtain ⟨ext, he⟩ := channel_grows h hq
  exact Option.bind_eq_some.mpr
    ⟨_, he, by rw [List.getElem?_append_left (List.getElem?_eq_some_iff.mp hqx).1, hqx]⟩

/-- The future of `request` as the call's description has it, one move at a time, `pc` being
where the move leaves it: it hands `SUB`, `UNSUB` with max 1 and `PUB` to the sender, each once
the previous send is done, and then resolves, either with the first item of its inbox channel,
a message, leaving no entry under its inbox sid and every other entry as it was, or, at a
`CLOSE` or a closed empty channel, with an error, touching no entry. -/
inductive FutureMove (r : Request) (w w' : NatsClient) : RequestPc → Prop
  | sub : r.pc = .sendSub → Hands w [.sub r.subCmd] w' → w'.subsMap = w.subsMap →
      FutureMove r w w' .sendUnsub
  | unsub : r.pc = .sendUnsub → Hands w [.unsub ⟨r.subCmd.sid, some 1⟩] w' →
      w'.subsMap = w.subsMap → FutureMove r w w' .sendPub
  | pub : r.pc = .sendPub → Hands w [.pub r.pubCmd] w' → w'.subsMap = w.subsMap →
      FutureMove r w w' .takeReply
  | reply (m : Message) : r.pc = .takeReply → Hands w [] w' →
      w.channelItem r.rx 0 = some (.message m) → w'.subsMap.lookup r.subCmd.sid = none →
      (∀ k, k ≠ r.subCmd.sid → w'.subsMap.lookup k = w.subsMap.lookup k) →
      FutureMove r w w' (.resolved (.ok m))
  | broken : r.pc = .takeReply → Hands w [] w' → w'.subsMap = w.subsMap →
      (w.channelItem r.rx 0 = some .close ∨
        w.channelItem r.rx 0 = none ∧ w.hasSender r.rx = false) →
      FutureMove r w w' (.resolved (.error .innerBrokenChain))

theorem requestStep_move {r : Request} (h : w.requestStep j r = some w')
    (hj : j < w.requests.length) :
    ∃ pc, w'.requests[j]? = some { r with pc := pc } ∧ FutureMove r w w' pc := by
  unfold requestStep at h
  split at h <;> (try split at h) <;> (try split at h) <;> cases h
  all_goals refine ⟨_, List.getElem?_set_self hj, ?_⟩
  · exact .sub ‹_› (hands_send _ _) rfl
  · exact .unsub ‹_› (hands_send _ _) rfl
  · exact .pub ‹_› (hands_send _ _) rfl
  · exact .reply _ ‹_› (.nil rfl rfl) ‹_› (by simp) fun k hk => by simp [hk]
  · exact .broken ‹_› (.nil rfl rfl) rfl (.inl ‹_›)
  · exact .broken ‹_› (.nil rfl rfl) rfl (.inr ⟨‹_›, Bool.eq_false_iff.mpr ‹_›⟩)

theorem step_request_sends {r : Request} (hr : w.requests[j]? = some r) :
    (r.pc = .sendSub → ∃ w', w.step (.requestStep j) = some w' ∧
      (w'.requests[j]?).map (·.pc) = some .sendUnsub ∧ Hands w [.sub r.subCmd] w') ∧
    (r.pc = .sendUnsub → ∃ w', w.step (.requestStep j) = some w' ∧
      (w'.requests[j]?).map (·.pc) = some .sendPub ∧ Hands w [.unsub ⟨r.subCmd.sid, some 1⟩] w') ∧
    (r.pc = .sendPub → ∃ w', w.step (.requestStep j) = some w' ∧
      (w'.requests[j]?).map (·.pc) = some .takeReply ∧ Hands w [.pub r.pubCmd] w') := by
  have hj : j < w.requests.length := (List.getElem?_eq_some_iff.mp hr).1
  rw [step_requestStep hr]
  refine ⟨fun hpc => ?_, fun hpc => ?_, fun hpc => ?_⟩ <;>
    exact ⟨_, by simp only [requestStep, hpc]; rfl, by simp [List.getElem?_set_self hj],
      by exact hands_send _ _⟩

theorem step_request_reply {r : Request} {m : Message} (hr : w.requests[j]? = some r)
    (hpc : r.pc = .takeReply) (hm : w.channelItem r.rx 0 = some (.message m)) :
    ∃ w', w.step (.requestStep j) = some w' ∧
      (w'.requests[j]?).map (·.pc) = some (.resolved (.ok m)) ∧
      w'.subsMap.lookup r.subCmd.sid = none ∧
      ∀ k, k ≠ r.subCmd.sid → w'.subsMap.lookup k = w.subsMap.lookup k := by
  have hj : j < w.requests.length := (List.getElem?_eq_some_iff.mp hr).1
  rw [step_requestStep hr]
  exact ⟨_, by simp only [requestStep, hpc, hm]; rfl, by simp [List.getElem?_set_self hj], by simp,
    fun k hk => by simp [hk]⟩

theorem record_step (h : w.step a = some w') {r : Request} (hr : w.requests[j]? = some r) :
    ∃ pc, w'.requests[j]? = some { r with pc := pc } ∧
      (pc = r.pc ∨ a = .requestStep j ∧ FutureMove r w w' pc) := by
  have hj : j < w.requests.length := (List.getElem?_eq_some_iff.mp hr).1
  rcases requests_step h hj with he | ⟨r', rfl, hr', hs⟩
  · exact ⟨r.pc, he.trans hr, .inl rfl⟩
  · obtain rfl := Option.some.inj (hr'.symm.trans hr)
    obtain ⟨pc, hpc, hmove⟩ := requestStep_move hs hj
    exact ⟨pc, hpc, .inr ⟨rfl, hmove⟩⟩

theorem record_run {as : List ClientAction} (h : w.run as = some w') {r : Request}
    (hr : w.requests[j]? = some r) : ∃ pc, w'.requests[j]? = some { r with pc := pc } := by
  induction as generalizing w r with
  | nil => cases h; exact ⟨r.pc, hr⟩
  | cons a as ih =>
    obtain ⟨w₁, h₁, h₂⟩ := Option.bind_eq_some.mp h
    obtain ⟨pc, hpc, -⟩ := record_step h₁ hr
    obtain ⟨pc', hpc'⟩ := ih h₂ hpc
    exact ⟨pc', hpc'⟩

/-- The sink of `sid` on channel `rx`, after the `MSG`s `routed` to `sid` since its registration.
No entry but `sid`'s holds the channel; while `sid`'s entry holds it, the channel's messages are
all the routed ones, and they are always a prefix of them. -/
structure SinkOk (sid : String) (rx : Nat) (routed : List Message) (w : NatsClient) : Prop where
  rx_lt : rx < w.channels.length
  only_sid : ∀ k e, w.subsMap.lookup k = some e → e.tx = rx → k = sid
  all_routed : (w.subsMap.lookup sid).map (·.tx) = some rx → w.channelMsgs rx = routed
  prefix_routed : w.channelMsgs rx <+: routed

variable {sid : String} {rx : Nat} {routed : List Message}

theorem SinkOk.step (hs : SinkOk sid rx routed w) (h : w.step a = some w') :
    SinkOk sid rx (routed ++ routedMsg sid w a) w' := by
  have hmsgs := channelMsgs_step h hs.rx_lt hs.only_sid
  have hold : ∀ {k e}, w'.subsMap.lookup k = some e → e.tx = rx →
      ∃ e₀, w.subsMap.lookup k = some e₀ ∧ e₀.tx = rx := fun he htx => by
    obtain ⟨e₀, h₀, h₀tx⟩ := lookup_step_old h he (htx ▸ hs.rx_lt)
    exact ⟨e₀, h₀, h₀tx.trans htx⟩
  refine ⟨hs.rx_lt.trans_le (channels_length_le h), fun k e he htx => ?_, fun hp => ?_, ?_⟩
  · obtain ⟨e₀, h₀, h₀tx⟩ := hold he htx
    exact hs.only_sid k e₀ h₀ h₀tx
  · obtain ⟨e, he, htx⟩ := Option.map_eq_some'.mp hp
    obtain ⟨e₀, h₀, h₀tx⟩ := hold he htx
    have hp₀ : (w.subsMap.lookup sid).map (·.tx) = some rx := by rw [h₀, Option.map_some', h₀tx]
    rw [hmsgs, if_pos hp₀, hs.all_routed hp₀]
  · rw [hmsgs]
    split_ifs with hp₀
    · simp only [hs.all_routed hp₀, List.prefix_refl]
    · rw [List.append_nil]
      exact hs.prefix_routed.trans (List.prefix_append _ _)

/-- The inbox of the request at index `j`, with sid `sid` on channel `rx`, after the `MSG`s
`routed` to `sid` since its registration. No entry but `sid`'s holds the channel; while `sid`'s
entry holds it, the channel's messages are all the routed ones, and they are always a prefix of
them; the record keeps its sid and its channel, and a message it has resolved with is the
channel's first item. -/
structure InboxOk (sid : String) (rx j : Nat) (routed : List Message) (w : NatsClient) :
    Prop where
  rx_lt : rx < w.channels.length
  only_sid : ∀ k e, w.subsMap.lookup k = some e → e.tx = rx → k = sid
  all_routed : (w.subsMap.lookup sid).map (·.tx) = some rx → w.channelMsgs rx = routed
  prefix_routed : w.channelMsgs rx <+: routed
  record : ∃ r, w.requests[j]? = some r ∧ r.subCmd.sid = sid ∧ r.rx = rx
  reply : ∀ r m, w.requests[j]? = some r → r.pc = .resolved (.ok m) →
    w.channelItem rx 0 = some (.message m)

theorem InboxOk.sinkOk (hi : InboxOk sid rx j routed w) : SinkOk sid rx routed w :=
  ⟨hi.rx_lt, hi.only_sid, hi.all_routed, hi.prefix_routed⟩

theorem InboxOk.step (hi : InboxOk sid rx j routed w) (h : w.step a = some w') :
    InboxOk sid rx j (routed ++ routedMsg sid w a) w' := by
  have hs := hi.sinkOk.step h
  obtain ⟨r, hr, hsid, hrx⟩ := hi.record
  obtain ⟨pc, hpc, hmove⟩ := record_step h hr
  refine ⟨hs.rx_lt, hs.only_sid, hs.all_routed, hs.prefix_routed, ⟨_, hpc, hsid, hrx⟩,
    fun r' m hr' hm => ?_⟩
  rw [hpc, Option.some.injEq] at hr'
  subst hr'
  refine channelItem_step h ?_
  rcases hmove with hpc' | ⟨-, hmove⟩
  · exact hi.reply r m hr (hpc' ▸ hm)
  · cases hmove with
    | sub => cases hm
    | unsub => cases hm
    | pub => cases hm
    | reply m' _ _ hitem => cases hm; exact hrx ▸ hitem
    | broken => cases hm

theorem InboxOk.run (hi : InboxOk sid rx j routed w) {as : List ClientAction}
    (h : w.run as = some w') : InboxOk sid rx j (routed ++ routedTo sid w as) w' := by
  induction as generalizing w routed with
  | nil => cases h; simpa [routedTo] using hi
  | cons a as ih =>
    obtain ⟨w₁, h₁, h₂⟩ := Option.bind_eq_some.mp h
    simpa only [routedTo, h₁, List.append_assoc] using ih (hi.step h₁) h₂

theorem InboxOk.head_of_item (hi : InboxOk sid rx j routed w) {m : Message}
    (hm : w.channelItem rx 0 = some (.message m)) : routed.head? = some m := by
  obtain ⟨q, hq, hq0⟩ := Option.bind_eq_some.mp hm
  have hhead : (w.channelMsgs rx).head? = some m := by
    cases q with
    | nil => cases hq0
    | cons x q =>
      rw [List.getElem?_cons_zero, Option.some.injEq] at hq0
      subst hq0
      simp [channelMsgs, hq, SinkMessage.message?]
  obtain ⟨t, ht⟩ := hi.prefix_routed
  rw [← ht, List.head?_append, hhead]
  rfl

theorem InboxOk.takeReply (hi : InboxOk sid rx j routed w) {r : Request}
    (hr : w.requests[j]? = some r) (hpc : r.pc = .takeReply)
    (hp : (w.subsMap.lookup sid).map (·.tx) = some rx) (hne : routed ≠ []) :
    ∃ m w', routed.head? = some m ∧ w.step (.requestStep j) = some w' ∧
      ((w'.requests[j]?).map (·.pc) = some (.resolved (.ok m)) ∨
        w.channelItem rx 0 = some .close ∧
          (w'.requests[j]?).map (·.pc) = some (.resolved (.error .innerBrokenChain))) := by
  obtain ⟨r', hr', -, hrx⟩ := hi.record
  obtain rfl : r = r' := Option.some.inj (hr.symm.trans hr')
  have hj : j < w.requests.length := (List.getElem?_eq_some_iff.mp hr).1
  obtain ⟨q, hq⟩ : ∃ q, w.channels[rx]? = some q := ⟨_, List.getElem?_eq_getElem hi.rx_lt⟩
  cases q with
  | nil => exact absurd (by simpa [channelMsgs, hq] using (hi.all_routed hp).symm) hne
  | cons x q =>
    have hitem : w.channelItem rx 0 = some x := by simp [channelItem, hq]
    cases x with
    | message m =>
      obtain ⟨w', hs, hok, -⟩ := step_request_reply hr hpc (hrx ▸ hitem)
      exact ⟨m, w', hi.head_of_item hitem, hs, .inl hok⟩
    | close =>
      obtain ⟨m, L, rfl⟩ := List.exists_cons_of_ne_nil hne
      exact ⟨m, _, rfl, (step_requestStep hr).trans (by simp only [requestStep, hpc, hrx ▸ hitem]; rfl),
        .inr ⟨hitem, by simp [List.getElem?_set_self hj]⟩⟩

theorem request_of_le {subject : String} {payload : List UInt8} {inbox sid : String}
    (hlim : ∀ info, w.serverInfo = some info → payload.length ≤ info.maxPayload) :
    w.request subject payload inbox sid =
      w.registerRequest ⟨inbox, sid, none⟩ ⟨subject, payload, some inbox⟩ := by
  unfold request
  split
  · rw [if_neg (Nat.not_lt.mpr (hlim _ ‹_›))]
  · rfl

theorem RegistryOk.inboxOk_register (hw : w.RegistryOk) (subCmd : Subscribe) (pubCmd : Publish) :
    InboxOk subCmd.sid w.channels.length w.requests.length []
      (w.registerRequest subCmd pubCmd) where
  rx_lt := by simp [registerRequest]
  only_sid k e he htx := by
    simp only [registerRequest, lookup_forSid] at he
    split at he
    · assumption
    · exact absurd (hw.tx_lt k e he) (by omega)
  all_routed _ := by simp [registerRequest, channelMsgs]
  prefix_routed := by simp [registerRequest, channelMsgs]
  record := ⟨⟨subCmd, pubCmd, w.channels.length, .sendSub⟩, by simp [registerRequest], rfl, rfl⟩
  reply r m hr hm := by
    simp only [registerRequest, List.getElem?_concat_length, Option.some.injEq] at hr
    subst hr
    cases hm

/-- `request` of `payload` on `subject`, with inbox subject `inbox` and sid `sid`, from a reachable
client; its record is the one at index `j`. The call itself hands nothing to the sender. Over the
server's `max_payload` it fails with `MaxPayloadOverflow` and keeps the registry; otherwise it
registers `sid` on a fresh channel `rx`, touching no other entry. Over every run from the call
the future can always make its next move: it hands `SUB`, `UNSUB` with max 1 and `PUB` to the
sender in that order, and, when the first item of its channel is a message, resolves with it,
which is the first `MSG` routed to `sid` since the call, removing the entry of `sid` and no other.
A message the request resolved with is that `MSG`; and once a `MSG` has been routed while the
inbox entry is registered, the future, at its reply, takes an item at once, the `MSG` unless the
handler's `CLOSE` went first. No other step moves the record, which keeps its commands. -/
theorem request_registers_then_resolves (hw : w.Reachable) (subject : String)
    (payload : List UInt8) (inbox sid : String) :
    let w₁ := w.request subject payload inbox sid
    let j := w.requests.length
    let rx := w.channels.length
    w₁.handed = w.handed ∧ w₁.sent = w.sent ∧
    (∀ info, w.serverInfo = some info → info.maxPayload < payload.length →
      w₁.subsMap = w.subsMap ∧
      (w₁.requests[j]?).map (·.pc) =
        some (.resolved (.error (.maxPayloadOverflow info.maxPayload)))) ∧
    ((∀ info, w.serverInfo = some info → payload.length ≤ info.maxPayload) →
      w₁.subsMap.lookup sid = some ⟨⟨inbox, sid, none⟩, rx, none, 0⟩ ∧
      (∀ k, k ≠ sid → w₁.subsMap.lookup k = w.subsMap.lookup k) ∧
      (w₁.requests[j]?).map (·.pc) = some .sendSub ∧
      ∀ as w₂ r, w₁.run as = some w₂ → w₂.requests[j]? = some r →
        (r.pc = .sendSub → ∃ w₃, w₂.step (.requestStep j) = some w₃ ∧
          (w₃.requests[j]?).map (·.pc) = some .sendUnsub ∧ Hands w₂ [.sub ⟨inbox, sid, none⟩] w₃) ∧
        (r.pc = .sendUnsub → ∃ w₃, w₂.step (.requestStep j) = some w₃ ∧
          (w₃.requests[j]?).map (·.pc) = some .sendPub ∧ Hands w₂ [.unsub ⟨sid, some 1⟩] w₃) ∧
        (r.pc = .sendPub → ∃ w₃, w₂.step (.requestStep j) = some w₃ ∧
          (w₃.requests[j]?).map (·.pc) = some .takeReply ∧
          Hands w₂ [.pub ⟨subject, payload, some inbox⟩] w₃) ∧
        (∀ m, r.pc = .takeReply → w₂.channelItem rx 0 = some (.message m) →
          (routedTo sid w₁ as).head? = some m ∧ ∃ w₃, w₂.step (.requestStep j) = some w₃ ∧
            (w₃.requests[j]?).map (·.pc) = some (.resolved (.ok m)) ∧
            w₃.subsMap.lookup sid = none ∧
            ∀ k, k ≠ sid → w₃.subsMap.lookup k = w₂.subsMap.lookup k) ∧
        (∀ m, r.pc = .resolved (.ok m) → (routedTo sid w₁ as).head? = some m) ∧
        (r.pc = .takeReply → (w₂.subsMap.lookup sid).map (·.tx) = some rx →
          routedTo sid w₁ as ≠ [] →
          ∃ m w₃, (routedTo sid w₁ as).head? = some m ∧ w₂.step (.requestStep j) = some w₃ ∧
            ((w₃.requests[j]?).map (·.pc) = some (.resolved (.ok m)) ∨
              w₂.channelItem rx 0 = some .close ∧
                (w₃.requests[j]?).map (·.pc) = some (.resolved (.error .innerBrokenChain))))) ∧
    ∀ as w₂ a w₃ r, w₁.run as = some w₂ → w₂.step a = some w₃ → w₂.requests[j]? = some r →
      r.subCmd = ⟨inbox, sid, none⟩ ∧ r.pubCmd = ⟨subject, payload, some inbox⟩ ∧
      ∃ pc, w₃.requests[j]? = some { r with pc := pc } ∧
        (pc = r.pc ∨ a = .requestStep j ∧ FutureMove r w₂ w₃ pc) := by
  intro w₁ j rx
  have hrec : ∀ {as w₂ r}, w₁.run as = some w₂ → w₂.requests[j]? = some r →
      ∃ pc, r = ⟨⟨inbox, sid, none⟩, ⟨subject, payload, some inbox⟩, rx, pc⟩ := fun h hr => by
    obtain ⟨pc₀, hpc₀⟩ : ∃ pc, w₁.requests[j]? =
        some ⟨⟨inbox, sid, none⟩, ⟨subject, payload, some inbox⟩, rx, pc⟩ := by
      simp only [w₁, j, request, registerRequest]
      split
      · split_ifs <;> exact ⟨_, List.getElem?_concat_length ..⟩
      · exact ⟨_, List.getElem?_concat_length ..⟩
    obtain ⟨pc, hpc⟩ := record_run h hpc₀
    exact ⟨pc, Option.some.inj (hr.symm.trans hpc)⟩
  refine ⟨?_, ?_, fun info hinfo hover => ?_, fun hlim => ?_,
    fun as w₂ a w₃ r hrun hstep hr => ?_⟩
  iterate 2
    · simp only [w₁, request]
      split <;> (try split_ifs) <;> rfl
  · simp [w₁, j, request, hinfo, hover]
  · have hreq : w.request subject payload inbox sid =
        w.registerRequest ⟨inbox, sid, none⟩ ⟨subject, payload, some inbox⟩ := request_of_le hlim
    have hi := hw.registryOk.inboxOk_register ⟨inbox, sid, none⟩ ⟨subject, payload, some inbox⟩
    rw [← hreq] at hi
    refine ⟨by simp [w₁, hreq, registerRequest], fun k hk => by simp [w₁, hreq, registerRequest, hk],
      by simp [w₁, j, hreq, registerRequest], fun as w₂ r h hr => ?_⟩
    have hi₂ : InboxOk sid rx j (routedTo sid w₁ as) w₂ := by simpa using hi.run h
    obtain ⟨pc, rfl⟩ := hrec h hr
    obtain ⟨hsub, hunsub, hpub⟩ := step_request_sends hr
    exact ⟨hsub, hunsub, hpub, fun m hpc hm => ⟨hi₂.head_of_item hm, step_request_reply hr hpc hm⟩,
      fun m hm => hi₂.head_of_item (hi₂.reply _ m hr hm), fun hpc hp hne => hi₂.takeReply hr hpc hp hne⟩
  · obtain ⟨pc, rfl⟩ := hrec hrun hr
    exact ⟨rfl, rfl, record_step hstep hr⟩

/-- A request after the handshake: its future sends its three frames, the reply is read and
routed to the inbox sid, and the future resolves with it, leaving no entry under the sid. -/
example :
    (sample.run (handshakeRun ++ [.request "x" [1] "_INBOX.1" "r1", .requestStep 0,
        .requestStep 0, .requestStep 0, .read 0 (.msg ⟨"_INBOX.1", "r1", none, [7]⟩), .route 0,
        .requestStep 0])).map
      (fun w => ((w.sent.map (·.2)).drop 1, w.requests.map (·.pc),
        (w.subsMap.lookup "r1").isSome)) =
      some ([.sub ⟨"_INBOX.1", "r1", none⟩, .unsub ⟨"r1", some 1⟩,
          .pub ⟨"x", [1], some "_INBOX.1"⟩],
        [.resolved (.ok ⟨"_INBOX.1", "r1", none, [7]⟩)], false) := by
  decide

theorem request_registers_then_resolves_sample :
    sample.Reachable ∧
    let w₁ := sample.request "x" [1] "_INBOX.1" "r1"
    let j := sample.requests.length
    let rx := sample.channels.length
    w₁.handed = sample.handed ∧ w₁.sent = sample.sent ∧
    (∀ info, sample.serverInfo = some info → info.maxPayload < [1].length →
      w₁.subsMap = sample.subsMap ∧
      (w₁.requests[j]?).map (·.pc) =
        some (.resolved (.error (.maxPayloadOverflow info.maxPayload)))) ∧
    ((∀ info, sample.serverInfo = some info → [1].length ≤ info.maxPayload) →
      w₁.subsMap.lookup "r1" = some ⟨⟨"_INBOX.1", "r1", none⟩, rx, none, 0⟩ ∧
      (∀ k, k ≠ "r1" → w₁.subsMap.lookup k = sample.subsMap.lookup k) ∧
      (w₁.requests[j]?).map (·.pc) = some .sendSub ∧
      ∀ as w₂ r, w₁.run as = some w₂ → w₂.requests[j]? = some r →
        (r.pc = .sendSub → ∃ w₃, w₂.step (.requestStep j) = some w₃ ∧
          (w₃.requests[j]?).map (·.pc) = some .sendUnsub ∧
          Hands w₂ [.sub ⟨"_INBOX.1", "r1", none⟩] w₃) ∧
        (r.pc = .sendUnsub → ∃ w₃, w₂.step (.requestStep j) = some w₃ ∧
          (w₃.requests[j]?).map (·.pc) = some .sendPub ∧ Hands w₂ [.unsub ⟨"r1", some 1⟩] w₃) ∧
        (r.pc = .sendPub → ∃ w₃, w₂.step (.requestStep j) = some w₃ ∧
          (w₃.requests[j]?).map (·.pc) = some .takeReply ∧
          Hands w₂ [.pub ⟨"x", [1], some "_INBOX.1"⟩] w₃) ∧
        (∀ m, r.pc = .takeReply → w₂.channelItem rx 0 = some (.message m) →
          (routedTo "r1" w₁ as).head? = some m ∧ ∃ w₃, w₂.step (.requestStep j) = some w₃ ∧
            (w₃.requests[j]?).map (·.pc) = some (.resolved (.ok m)) ∧
            w₃.subsMap.lookup "r1" = none ∧
            ∀ k, k ≠ "r1" → w₃.subsMap.lookup k = w₂.subsMap.lookup k) ∧
        (∀ m, r.pc = .resolved (.ok m) → (routedTo "r1" w₁ as).head? = some m) ∧
        (r.pc = .takeReply → (w₂.subsMap.lookup "r1").map (·.tx) = some rx →
          routedTo "r1" w₁ as ≠ [] →
          ∃ m w₃, (routedTo "r1" w₁ as).head? = some m ∧ w₂.step (.requestStep j) = some w₃ ∧
            ((w₃.requests[j]?).map (·.pc) = some (.resolved (.ok m)) ∨
              w₂.channelItem rx 0 = some .close ∧
                (w₃.requests[j]?).map (·.pc) = some (.resolved (.error .innerBrokenChain))))) ∧
    ∀ as w₂ a w₃ r, w₁.run as = some w₂ → w₂.step a = some w₃ → w₂.requests[j]? = some r →
      r.subCmd = ⟨"_INBOX.1", "r1", none⟩ ∧ r.pubCmd = ⟨"x", [1], some "_INBOX.1"⟩ ∧
      ∃ pc, w₃.requests[j]? = some { r with pc := pc } ∧
        (pc = r.pc ∨ a = .requestStep j ∧ FutureMove r w₂ w₃ pc) :=
  ⟨.create _ _ _, request_registers_then_resolves (.create _ _ _) "x" [1] "_INBOX.1" "r1"⟩

end NatsClient

end Ratsio
