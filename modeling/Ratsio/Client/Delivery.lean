import Ratsio.Client.Request
import Ratsio.Client.Tasks

/-!
What the stream that `subscribe` returns yields: the `k`-th item stands for the `k`-th `MSG`
routed to its sid since the subscription (`stream_yields_routed_msgs`), and a stream whose
sender is gone ends once polled (`ended_stream_drained`, `polls_end_stream`).
-/

namespace Ratsio

namespace NatsClient

open NatsClientMultiplexer

variable {w w' : NatsClient} {a : ClientAction} {sid : String} {rx : Nat}

/-! ### What a step does to a stream -/

/-- The item a stream yields for message `m` it read: the message, or the error that the closure
of `subscribe` answers in its place once the max count is reached. -/
def YieldedFor (m : Message) : Except RatsioError Message → Prop
  | .ok m' => m' = m
  | .error e => ∃ n, e = .subscriptionReachedMaxMsgs n

theorem countMsg_error (subsMap : SubsMap) (sid : String) :
    (countMsg subsMap sid).2 = none ∨
      ∃ n, (countMsg subsMap sid).2 = some (.subscriptionReachedMaxMsgs n) := by
  unfold countMsg
  split
  · split
    · split
      · exact .inr ⟨_, rfl⟩
      · exact .inl rfl
    · exact .inl rfl
  · exact .inl rfl

theorem yieldedFor_countMsg (subsMap : SubsMap) (sid : String) (m : Message) :
    YieldedFor m (match (countMsg subsMap sid).2 with | some e => .error e | none => .ok m) := by
  rcases countMsg_error subsMap sid with h | ⟨n, h⟩ <;> rw [h]
  · rfl
  · exact ⟨n, rfl⟩

/-- What a poll makes of the stream `st` of `w`, in `w'`: it ends the stream at a `CLOSE` at its
position or on a drained channel that no entry holds, or it reads the message at its position
and yields one item for it. -/
inductive Polled (w w' : NatsClient) (st : SubStream) : SubStream → Prop
  | close : w.channelItem st.rx st.pos = some .close → Polled w w' st { st with ended := true }
  | drained : w.channelItem st.rx st.pos = none → w'.hasSender st.rx = false →
      Polled w w' st { st with ended := true }
  | message (m : Message) (item : Except RatsioError Message) : st.ended = false →
      w.channelItem st.rx st.pos = some (.message m) → YieldedFor m item →
      Polled w w' st { st with pos := st.pos + 1, items := st.items ++ [item] }

theorem poll_cases {j : Nat} {st : SubStream} (h : w.poll j st = some w') :
    ∃ st', w'.streams = w.streams.set j st' ∧ w'.channels = w.channels ∧ Polled w w' st st' := by
  unfold poll at h
  split at h
  · cases h
  · rename_i hst
    split at h
    · rename_i hc
      cases h
      exact ⟨_, rfl, rfl, .close hc⟩
    · rename_i m hm
      cases h
      simp only [Bool.or_eq_true, not_or, Bool.not_eq_true] at hst
      exact ⟨_, rfl, rfl, .message m _ hst.1 hm (yieldedFor_countMsg w.subsMap st.sid m)⟩
    · split at h
      · cases h
      · rename_i hm hs
        cases h
        exact ⟨_, rfl, rfl, .drained hm (Bool.eq_false_iff.mpr hs)⟩

theorem streams_step (h : w.step a = some w') :
    w'.streams = w.streams ∨
      (∃ j st, w.streams[j]? = some st ∧
        (a = .poll j ∧ w.poll j st = some w' ∨ a = .dropStream j ∧ w.dropStream j st = some w')) ∨
      ∃ i st, a = .subscribed i ∧ w'.streams = w.streams ++ [st] := by
  cases moves_of_step h with
  | pollClose hj | pollMessage hj | pollDrained hj =>
    exact .inr (.inl ⟨_, _, hj, .inl ⟨rfl, by rwa [step, hj, Option.some_bind] at h⟩⟩)
  | dropStream hj =>
    exact .inr (.inl ⟨_, _, hj, .inr ⟨rfl, by rwa [step, hj, Option.some_bind] at h⟩⟩)
  | subscribed => exact .inr (.inr ⟨_, _, rfl, rfl⟩)
  | _ => exact .inl rfl

theorem stream_step {J : Nat} {st : SubStream} (h : w.step a = some w')
    (hst : w.streams[J]? = some st) :
    w'.streams[J]? = some st ∨ w'.streams[J]? = some { st with dropped := true } ∨
      ∃ st', w'.streams[J]? = some st' ∧ w'.channels = w.channels ∧ Polled w w' st st' := by
  have hJ : J < w.streams.length := (List.getElem?_eq_some_iff.mp hst).1
  rcases streams_step h with hs | ⟨j, st₀, hj, ⟨-, hp⟩ | ⟨-, hd⟩⟩ | ⟨i, st', -, hs⟩
  · exact .inl (hs ▸ hst)
  · obtain ⟨st', hs, hc, hpolled⟩ := poll_cases hp
    by_cases hjJ : j = J
    · subst hjJ
      obtain rfl : st₀ = st := Option.some.inj (hj.symm.trans hst)
      exact .inr (.inr ⟨st', by rw [hs, List.getElem?_set_self hJ], hc, hpolled⟩)
    · exact .inl (by rw [hs, List.getElem?_set_ne hjJ, hst])
  · simp only [dropStream] at hd
    split at hd <;> cases hd
    by_cases hjJ : j = J
    · subst hjJ
      obtain rfl : st₀ = st := Option.some.inj (hj.symm.trans hst)
      exact .inr (.inl (List.getElem?_set_self hJ))
    · exact .inl (by rw [List.getElem?_set_ne hjJ, hst])
  · exact .inl (by rw [hs, List.getElem?_append_left hJ, hst])

theorem stream_step_new {j : Nat} {st : SubStream} (h : w.step a = some w')
    (hj : w.streams.length ≤ j) (hst : w'.streams[j]? = some st) :
    w'.channels[st.rx]? = some [] ∧ st.pos = 0 ∧ st.ended = false := by
  rcases streams_step h with hs | ⟨j', st₀, -, ⟨-, hp⟩ | ⟨-, hd⟩⟩ | ⟨i, st', ha, -⟩
  · rw [hs, List.getElem?_eq_none hj] at hst
    cases hst
  · obtain ⟨st', hs, -⟩ := poll_cases hp
    rw [hs, List.getElem?_eq_none (by simpa using hj)] at hst
    cases hst
  · simp only [dropStream] at hd
    split at hd <;> cases hd
    rw [List.getElem?_eq_none (by simpa using hj)] at hst
    cases hst
  · subst ha
    obtain ⟨cmd, -, rfl⟩ := Option.map_eq_some'.mp h
    have hj' : j < w.streams.length + 1 := by
      simpa using (List.getElem?_eq_some_iff.mp hst).1
    obtain rfl : j = w.streams.length := by omega
    rw [List.getElem?_concat_length, Option.some.injEq] at hst
    subst hst
    exact ⟨by simp, rfl, rfl⟩

/-! ### What a stream yields -/

/-- The stream at index `J` reads channel `rx` for `sid`, and every item it yielded stands for
the message at the same position of the channel. -/
def StreamOk (sid : String) (rx J : Nat) (w : NatsClient) : Prop :=
  ∃ st, w.streams[J]? = some st ∧ st.sid = sid ∧ st.rx = rx ∧ st.items.length = st.pos ∧
    ∀ k item, st.items[k]? = some item →
      ∃ m, w.channelItem rx k = some (.message m) ∧ YieldedFor m item

theorem StreamOk.step {J : Nat} (hs : StreamOk sid rx J w) (h : w.step a = some w') :
    StreamOk sid rx J w' := by
  obtain ⟨st, hst, hsid, hrx, hlen, hitems⟩ := hs
  have hkeep : ∀ k item, st.items[k]? = some item →
      ∃ m, w'.channelItem rx k = some (.message m) ∧ YieldedFor m item := fun k item hk => by
    obtain ⟨m, hm, hy⟩ := hitems k item hk
    exact ⟨m, channelItem_step h hm, hy⟩
  rcases stream_step h hst with hst' | hst' | ⟨st', hst', -, hp⟩
  · exact ⟨st, hst', hsid, hrx, hlen, hkeep⟩
  · exact ⟨_, hst', hsid, hrx, hlen, hkeep⟩
  · cases hp with
    | close _ | drained _ _ => exact ⟨_, hst', hsid, hrx, hlen, hkeep⟩
    | message m item _ hm hy =>
      refine ⟨_, hst', hsid, hrx, by simp [hlen], fun k it hk => ?_⟩
      have hk' : k < st.items.length + 1 := by simpa using (List.getElem?_eq_some_iff.mp hk).1
      rcases Nat.lt_succ_iff_lt_or_eq.mp hk' with hk' | rfl
      · exact hkeep k it (by rwa [List.getElem?_append_left hk'] at hk)
      · rw [List.getElem?_concat_length, Option.some.injEq] at hk
        subst hk
        exact ⟨m, channelItem_step h (by rw [← hrx, hlen]; exact hm), hy⟩

theorem StreamOk.run {J : Nat} (hs : StreamOk sid rx J w) {as : List ClientAction}
    (h : w.run as = some w') : StreamOk sid rx J w' := by
  induction as generalizing w with
  | nil => cases h; exact hs
  | cons a as ih =>
    obtain ⟨w₁, h₁, h₂⟩ := Option.bind_eq_some.mp h
    exact ih (hs.step h₁) h₂

theorem SinkOk.run {routed : List Message} (hs : SinkOk sid rx routed w) {as : List ClientAction}
    (h : w.run as = some w') : SinkOk sid rx (routed ++ routedTo sid w as) w' := by
  induction as generalizing w routed with
  | nil => cases h; simpa [routedTo] using hs
  | cons a as ih =>
    obtain ⟨w₁, h₁, h₂⟩ := Option.bind_eq_some.mp h
    simpa only [routedTo, h₁, List.append_assoc] using ih (hs.step h₁) h₂

theorem subscribed_ok (hw : w.RegistryOk) {i : Nat} {cmd : Subscribe}
    (hcmd : w.subscribes[i]? = some cmd) (h : w.step (.subscribed i) = some w') :
    SinkOk cmd.sid w.channels.length [] w' ∧
      StreamOk cmd.sid w.channels.length w.streams.length w' := by
  simp only [step, hcmd, Option.map_some', Option.some.injEq] at h
  subst h
  refine ⟨⟨by simp, fun k e he htx => ?_, fun _ => by simp [channelMsgs], by simp [channelMsgs]⟩,
    ⟨⟨cmd.sid, w.channels.length, 0, false, false, []⟩, by simp, rfl, rfl, rfl,
      fun k item hk => by simp at hk⟩⟩
  simp only [lookup_forSid] at he
  split at he
  · assumption
  · exact absurd (hw.tx_lt k e he) (by omega)

theorem filterMap_message?_getElem? {q : List SinkMessage} {k : Nat} {m : Message}
    (hpre : ∀ k' < k, ∃ m', q[k']? = some (.message m')) (hk : q[k]? = some (.message m)) :
    (q.filterMap SinkMessage.message?)[k]? = some m := by
  induction q generalizing k with
  | nil => cases hk
  | cons x q ih =>
    cases k with
    | zero =>
      simp only [List.getElem?_cons_zero, Option.some.injEq] at hk
      simp [hk, SinkMessage.message?]
    | succ k =>
      obtain ⟨m₀, h₀⟩ := hpre 0 (Nat.succ_pos k)
      simp only [List.getElem?_cons_zero, Option.some.injEq] at h₀
      subst h₀
      simp only [List.filterMap_cons, SinkMessage.message?, List.getElem?_cons_succ] at hk ⊢
      exact ih (fun k' hk' => by simpa using hpre (k' + 1) (by omega)) hk

theorem StreamOk.channelMsgs_getElem? {J : Nat} (hs : StreamOk sid rx J w) {st : SubStream}
    (hst : w.streams[J]? = some st) {k : Nat} {item : Except RatsioError Message}
    (hk : st.items[k]? = some item) :
    ∃ m, (w.channelMsgs rx)[k]? = some m ∧ YieldedFor m item := by
  obtain ⟨st', hst', -, -, -, hitems⟩ := hs
  obtain rfl : st' = st := Option.some.inj (hst'.symm.trans hst)
  obtain ⟨m, hm, hy⟩ := hitems k item hk
  obtain ⟨q, hq, hqk⟩ := Option.bind_eq_some.mp hm
  have hpre : ∀ k' < k, ∃ m', q[k']? = some (.message m') := fun k' hk' => by
    obtain ⟨it, hit⟩ : ∃ it, st'.items[k']? = some it :=
      ⟨_, List.getElem?_eq_getElem ((List.getElem?_eq_some_iff.mp hk).1.trans' hk')⟩
    obtain ⟨m', hm', -⟩ := hitems k' it hit
    obtain ⟨q', hq', hq'k⟩ := Option.bind_eq_some.mp hm'
    exact ⟨m', by rwa [Option.some.inj (hq.symm.trans hq')]⟩
  exact ⟨m, by rw [channelMsgs, hq, Option.getD_some, filterMap_message?_getElem? hpre hqk], hy⟩

/-- The stream that `subscribe` returns, after any run that starts with its continuation from a
reachable client: the `k`-th item it yields stands for the `k`-th `MSG` routed to its sid since
the subscription, as that message or as `SubscriptionReachedMaxMsgs` in its place; and while the
entry of the sid still holds the stream's channel, the channel holds every `MSG` routed to the
sid, so none of them is lost before the stream reads it. -/
theorem stream_yields_routed_msgs (hw : w.Reachable) {i : Nat} {cmd : Subscribe}
    (hcmd : w.subscribes[i]? = some cmd) {as : List ClientAction}
    (h : w.run (.subscribed i :: as) = some w') :
    ∃ st, w'.streams[w.streams.length]? = some st ∧ st.sid = cmd.sid ∧
      (∀ (k : Nat) item, st.items[k]? = some item →
        ∃ m, (routedTo cmd.sid w (.subscribed i :: as))[k]? = some m ∧ YieldedFor m item) ∧
      ((w'.subsMap.lookup cmd.sid).map (·.tx) = some st.rx →
        w'.channelMsgs st.rx = routedTo cmd.sid w (.subscribed i :: as)) := by
  obtain ⟨w₁, h₁, h₂⟩ := Option.bind_eq_some.mp h
  obtain ⟨hsink, hstream⟩ := subscribed_ok hw.registryOk hcmd h₁
  have hrouted : routedTo cmd.sid w (.subscribed i :: as) = routedTo cmd.sid w₁ as := by
    simp [routedTo, h₁, routedMsg]
  have hsink' := hsink.run h₂
  have hstream' := hstream.run h₂
  rw [List.nil_append] at hsink'
  rw [hrouted]
  obtain ⟨st, hst, hsid, hrx, -⟩ := id hstream'
  refine ⟨st, hst, hsid, fun k item hk => ?_, fun hp => hrx ▸ hsink'.all_routed (hrx ▸ hp)⟩
  obtain ⟨m, hm, hy⟩ := hstream'.channelMsgs_getElem? hst hk
  obtain ⟨t, ht⟩ := hsink'.prefix_routed
  refine ⟨m, ?_, hy⟩
  rw [← ht, List.getElem?_append_left (List.getElem?_eq_some_iff.mp hm).1, hm]

def subscribingSample : NatsClient :=
  { sample.send (.sub subscribeS1) with subscribes := [subscribeS1] }

def deliverRun : List ClientAction := [.read 0 (.msg msgS1), .route 0, .poll 0]

theorem stream_yields_routed_msgs_sample :
    subscribingSample.Reachable ∧ subscribingSample.subscribes[0]? = some subscribeS1 ∧
      ∃ w', subscribingSample.run (.subscribed 0 :: deliverRun) = some w' ∧
        ∃ st, w'.streams[subscribingSample.streams.length]? = some st ∧ st.sid = subscribeS1.sid ∧
          (∀ (k : Nat) item, st.items[k]? = some item →
            ∃ m, (routedTo subscribeS1.sid subscribingSample (.subscribed 0 :: deliverRun))[k]? =
              some m ∧ YieldedFor m item) ∧
          ((w'.subsMap.lookup subscribeS1.sid).map (·.tx) = some st.rx →
            w'.channelMsgs st.rx =
              routedTo subscribeS1.sid subscribingSample (.subscribed 0 :: deliverRun)) :=
  have hw : subscribingSample.Reachable :=
    .step (.subscribe subscribeS1) (.create _ _ _) rfl
  ⟨hw, rfl, _, rfl, stream_yields_routed_msgs hw rfl rfl⟩

/-! ### How a stream ends -/

theorem hasSender_iff {tx : Nat} :
    w.hasSender tx = true ↔ ∃ k e, w.subsMap.lookup k = some e ∧ e.tx = tx := by
  simp only [hasSender, List.any_eq_true, beq_iff_eq]
  constructor
  · rintro ⟨⟨k, e⟩, hm, htx⟩
    exact ⟨k, e, AList.mem_lookup_iff.mpr hm, htx⟩
  · rintro ⟨k, e, he, htx⟩
    exact ⟨⟨k, e⟩, AList.mem_lookup_iff.mp he, htx⟩

theorem no_sender_step (h : w.step a = some w') (hrx : rx < w.channels.length)
    (hs : w.hasSender rx = false) :
    w'.hasSender rx = false ∧ w'.channels[rx]? = w.channels[rx]? := by
  have hno : ∀ k e, w.subsMap.lookup k = some e → e.tx ≠ rx := fun k e he htx => by
    rw [hasSender_iff.mpr ⟨k, e, he, htx⟩] at hs
    cases hs
  refine ⟨Bool.eq_false_iff.mpr fun h' => ?_, ?_⟩
  · obtain ⟨k, e, he, htx⟩ := hasSender_iff.mp h'
    obtain ⟨e₀, h₀, h₀tx⟩ := lookup_step_old h he (htx ▸ hrx)
    exact hno k e₀ h₀ (h₀tx.trans htx)
  · rcases (subs_step h).2 with ⟨-, -, m, e, -, -, he, hc⟩ | ⟨-, -, hc⟩ | hc | hc
    · rw [hc, pushChannel_getElem?, if_neg (Ne.symm (hno _ e he))]
    · have hnil : w.subsMap.entries.filter (fun x => decide (x.2.tx = rx)) = [] :=
        List.filter_eq_nil_iff.mpr fun x hx => by
          simpa using hno x.1 x.2 (AList.mem_lookup_iff.mpr hx)
      rw [hc, closeSinks_getElem?, hnil]
      cases w.channels[rx]? <;> simp
    · rw [hc]
    · rw [hc, List.getElem?_append_left hrx]

theorem no_sender_run (hrx : rx < w.channels.length) (hs : w.hasSender rx = false)
    {as : List ClientAction} (h : w.run as = some w') : w'.channels[rx]? = w.channels[rx]? := by
  induction as generalizing w with
  | nil => cases h; rfl
  | cons a as ih =>
    obtain ⟨w₁, h₁, h₂⟩ := Option.bind_eq_some.mp h
    obtain ⟨hs₁, hc₁⟩ := no_sender_step h₁ hrx hs
    rw [ih (hrx.trans_le (channels_length_le h₁)) hs₁ h₂, hc₁]

/-- Stream `st` reads channel `rx`, which holds `q`, within what it holds; if it has ended, it
stopped at a `CLOSE` at its position, or read all of `q` once no entry held the channel. -/
def EndOk (w : NatsClient) (st : SubStream) (q : List SinkMessage) : Prop :=
  w.channels[st.rx]? = some q ∧ st.pos ≤ q.length ∧
    (st.ended = true → q[st.pos]? = some .close ∨ (w.hasSender st.rx = false ∧ q.length = st.pos))

/-- Every stream of the client reads its channel as `EndOk` says. -/
def StreamsEndOk (w : NatsClient) : Prop :=
  ∀ (j : Nat) st, w.streams[j]? = some st → ∃ q, w.EndOk st q

theorem EndOk.step {st : SubStream} {q : List SinkMessage} (hq : w.EndOk st q)
    (h : w.step a = some w') : ∃ q', w'.EndOk st q' := by
  obtain ⟨hq, hpos, hend⟩ := hq
  have hrx : st.rx < w.channels.length := (List.getElem?_eq_some_iff.mp hq).1
  obtain ⟨ext, hext⟩ := channel_grows h hq
  by_cases hs : st.ended = true ∧ w.hasSender st.rx = false ∧ q.length = st.pos
  · obtain ⟨hs', hc⟩ := no_sender_step h hrx hs.2.1
    exact ⟨q, by rw [hc, hq], hpos, fun _ => .inr ⟨hs', hs.2.2⟩⟩
  refine ⟨q ++ ext, hext, by simp; omega, fun he => .inl ?_⟩
  rcases hend he with hc | hc
  · rw [List.getElem?_append_left (List.getElem?_eq_some_iff.mp hc).1, hc]
  · exact absurd ⟨he, hc⟩ hs

theorem Polled.endOk {st st' : SubStream} {q : List SinkMessage} (hp : Polled w w' st st')
    (hc : w'.channels = w.channels) (hq : w.EndOk st q) : w'.EndOk st' q := by
  obtain ⟨hq, hpos, -⟩ := hq
  have hq' : w'.channels[st.rx]? = some q := by rw [hc, hq]
  have hitem : w.channelItem st.rx st.pos = q[st.pos]? := by simp [channelItem, hq]
  cases hp with
  | close hcl => exact ⟨hq', hpos, fun _ => .inl (hitem ▸ hcl)⟩
  | drained hm hs =>
    refine ⟨hq', hpos, fun _ => .inr ⟨hs, ?_⟩⟩
    have := List.getElem?_eq_none_iff.mp (hitem ▸ hm)
    show q.length = st.pos
    omega
  | message m item hend hm _ =>
    exact ⟨hq', (List.getElem?_eq_some_iff.mp (hitem ▸ hm)).1, fun he => absurd he (by simp [hend])⟩

theorem StreamsEndOk.step (hw : w.StreamsEndOk) (h : w.step a = some w') : w'.StreamsEndOk := by
  intro j st' hst'
  rcases Nat.lt_or_ge j w.streams.length with hj | hj
  · obtain ⟨st, hst⟩ : ∃ st, w.streams[j]? = some st := ⟨_, List.getElem?_eq_getElem hj⟩
    obtain ⟨q, hq⟩ := hw j st hst
    rcases stream_step h hst with hs | hs | ⟨st₁, hs, hc, hp⟩ <;>
      rw [hs, Option.some.injEq] at hst' <;> subst hst'
    · exact hq.step h
    · exact hq.step h
    · exact ⟨q, hp.endOk hc hq⟩
  · obtain ⟨hc, hpos, hend⟩ := stream_step_new h hj hst'
    exact ⟨[], hc, by rw [hpos]; rfl, fun he => by rw [hend] at he; cases he⟩

theorem Reachable.streamsEndOk (hw : w.Reachable) : w.StreamsEndOk := by
  induction hw with
  | create opts url => intro j st h; simp [NatsClient.create] at h
  | step a _ h ih => exact ih.step h

/-- A stream of a reachable client that has ended stopped at a `CLOSE` its channel holds at the
stream's position, or else it read every item of its channel after no registry entry held the
channel any more, and then the channel gets no item on any later run. -/
theorem ended_stream_drained (hw : w.Reachable) {j : Nat} {st : SubStream}
    (hst : w.streams[j]? = some st) (hend : st.ended = true) :
    w.channelItem st.rx st.pos = some .close ∨
      (w.hasSender st.rx = false ∧ (w.channels[st.rx]?).map List.length = some st.pos ∧
        ∀ as w', w.run as = some w' → w'.channels[st.rx]? = w.channels[st.rx]?) := by
  obtain ⟨q, hq, -, hend'⟩ := hw.streamsEndOk j st hst
  rcases hend' hend with hc | ⟨hs, hlen⟩
  · exact .inl (by simp [channelItem, hq, hc])
  · refine .inr ⟨hs, by rw [hq, Option.map_some', hlen], fun as w' h => ?_⟩
    exact no_sender_run (List.getElem?_eq_some_iff.mp hq).1 hs h

def maxOneRun : List ClientAction :=
  [.subscribe subscribeS1, .subscribed 0, .unsubscribe ⟨"s1", some 1⟩, .read 0 (.msg msgS1),
    .route 0, .poll 0, .poll 0]

theorem ended_stream_drained_max_one :
    let w := (sample.run maxOneRun).getD sample
    let st := (w.streams[0]?).getD ⟨"", 0, 0, false, false, []⟩
    w.Reachable ∧ w.streams[0]? = some st ∧ st.ended = true ∧
      (w.channelItem st.rx st.pos = some .close ∨
        (w.hasSender st.rx = false ∧ (w.channels[st.rx]?).map List.length = some st.pos ∧
          ∀ as w', w.run as = some w' → w'.channels[st.rx]? = w.channels[st.rx]?)) :=
  have hw : ((sample.run maxOneRun).getD sample).Reachable :=
    Reachable.run (.create _ _ _)
      (show sample.run maxOneRun = some ((sample.run maxOneRun).getD sample) from rfl)
  ⟨hw, rfl, rfl, @ended_stream_drained _ hw 0 _ rfl rfl⟩

/-! ### A stream whose sender is gone ends -/

theorem poll_enabled {j : Nat} {st : SubStream} (hst : w.streams[j]? = some st)
    (hopen : st.ended = false) (hd : st.dropped = false) (hs : w.hasSender st.rx = false) :
    ∃ w', w.step (.poll j) = some w' := by
  simp only [step, hst, Option.some_bind, poll, hopen, hd, Bool.or_self, Bool.false_eq_true,
    ite_false, hs]
  split <;> simp

/-- A consumer that keeps polling an open stream whose channel no entry holds, with `q` in its
channel, ends the stream within one poll more than the items left past its position: it reads
every message up to the first `CLOSE` and stops there, or at the end of `q`. -/
theorem polls_end_stream {j : Nat} {st : SubStream} {q : List SinkMessage}
    (hst : w.streams[j]? = some st) (hopen : st.ended = false) (hd : st.dropped = false)
    (hs : w.hasSender st.rx = false) (hq : w.channels[st.rx]? = some q) :
    ∃ n w' st', n ≤ q.length - st.pos + 1 ∧ w.run (List.replicate n (.poll j)) = some w' ∧
      w'.streams[j]? = some st' ∧ st'.ended = true ∧
      (∀ k, st.pos ≤ k → k < st'.pos → ∃ m, q[k]? = some (.message m)) ∧
      (q[st'.pos]? = some .close ∨ q.length ≤ st'.pos) := by
  obtain ⟨d, hlen⟩ : ∃ d, q.length - st.pos = d := ⟨_, rfl⟩
  induction d using Nat.strong_induction_on generalizing w st with
  | _ d ih =>
  have hJ : j < w.streams.length := (List.getElem?_eq_some_iff.mp hst).1
  have hitem : w.channelItem st.rx st.pos = q[st.pos]? := by simp [channelItem, hq]
  obtain ⟨w₁, h₁⟩ := poll_enabled hst hopen hd hs
  obtain ⟨st₁, hs₁, hc₁, hp⟩ := poll_cases (by simpa only [step, hst, Option.some_bind] using h₁)
  have hst₁ : w₁.streams[j]? = some st₁ := by rw [hs₁, List.getElem?_set_self hJ]
  have hrun : w.run [.poll j] = some w₁ := by simp [run, h₁]
  cases hp with
  | close hcl =>
    exact ⟨1, w₁, _, by omega, hrun, hst₁, rfl, fun k h₁ h₂ => absurd h₂ (Nat.not_lt.mpr h₁),
      .inl (hitem ▸ hcl)⟩
  | drained hm _ =>
    exact ⟨1, w₁, _, by omega, hrun, hst₁, rfl, fun k h₁ h₂ => absurd h₂ (Nat.not_lt.mpr h₁),
      .inr (List.getElem?_eq_none_iff.mp (hitem ▸ hm))⟩
  | message m item _ hm _ =>
    have hlt : st.pos < q.length := (List.getElem?_eq_some_iff.mp (hitem ▸ hm)).1
    have hs₁' := (no_sender_step h₁ (List.getElem?_eq_some_iff.mp hq).1 hs).1
    obtain ⟨n, w', st', hn, hrun', hst', hend, hmsgs, hstop⟩ :=
      ih _ (by dsimp only; omega) hst₁ hopen hd hs₁' (by rw [hc₁]; exact hq) rfl
    refine ⟨n + 1, w', st', by dsimp only at hn; omega, by simp [run, h₁, hrun'], hst', hend,
      fun k hk₁ hk₂ => ?_, hstop⟩
    rcases Nat.eq_or_lt_of_le hk₁ with rfl | hk₁
    · exact ⟨m, hitem ▸ hm⟩
    · exact hmsgs k hk₁ hk₂

theorem polls_end_stream_max_one :
    let w := (sample.run (maxOneRun.take 6)).getD sample
    let st := (w.streams[0]?).getD ⟨"", 0, 0, false, false, []⟩
    let q := (w.channels[st.rx]?).getD []
    w.streams[0]? = some st ∧ st.ended = false ∧ st.dropped = false ∧ w.hasSender st.rx = false ∧
      w.channels[st.rx]? = some q ∧
      ∃ n w' st', n ≤ q.length - st.pos + 1 ∧ w.run (List.replicate n (.poll 0)) = some w' ∧
        w'.streams[0]? = some st' ∧ st'.ended = true ∧
        (∀ k, st.pos ≤ k → k < st'.pos → ∃ m, q[k]? = some (.message m)) ∧
        (q[st'.pos]? = some .close ∨ q.length ≤ st'.pos) :=
  ⟨rfl, rfl, rfl, rfl, rfl, polls_end_stream rfl rfl rfl rfl rfl⟩

end NatsClient

end Ratsio
