import Ratsio.Ops

/-!
The subscription registry of a client (`nats_client/client.rs`) and the code that writes it,
each writer under one write lock. The `HashMap` is an association list keyed by sid; its order
stands for the map's unspecified iteration order.
-/

namespace Ratsio

/-- Modelled from the spec: `SinkMessage` (declared in `nats_client/mod.rs`, not in `src/`), what
a subscription's channel carries. -/
inductive SinkMessage where
  | message (m : Message)
  | close
  deriving DecidableEq, Repr

/-- Modelled from the spec: `SubscriptionSink` (declared in `nats_client/mod.rs`, not in `src/`).
`tx` is the sending half of the channel `for_sid` made; channels are numbered in the order they
were made. -/
structure SubscriptionSink where
  cmd : Subscribe
  tx : Nat
  maxCount : Option Nat
  count : Nat
  deriving DecidableEq, Repr

/-- `subs_map: HashMap<String, SubscriptionSink>`. -/
abbrev SubsMap := AList (fun _ : String => SubscriptionSink)

namespace NatsClientMultiplexer

/-- `for_sid`: registers a fresh sink for `cmd` on the channel `tx`, replacing any entry under
the same sid. -/
def forSid (subsMap : SubsMap) (cmd : Subscribe) (tx : Nat) : SubsMap :=
  subsMap.insert cmd.sid ⟨cmd, tx, none, 0⟩

/-- `remove_sid`. -/
def removeSid (subsMap : SubsMap) (sid : String) : SubsMap :=
  subsMap.erase sid

variable {subsMap : SubsMap} {sid : String}

@[simp]
theorem lookup_forSid (subsMap : SubsMap) (cmd : Subscribe) (tx : Nat) (sid : String) :
    (forSid subsMap cmd tx).lookup sid =
      if sid = cmd.sid then some ⟨cmd, tx, none, 0⟩ else subsMap.lookup sid := by
  unfold forSid
  split
  · subst sid; exact AList.lookup_insert _
  · exact AList.lookup_insert_ne ‹_›

@[simp]
theorem lookup_removeSid (subsMap : SubsMap) (sid sid' : String) :
    (removeSid subsMap sid').lookup sid = if sid = sid' then none else subsMap.lookup sid := by
  unfold removeSid
  split
  · subst sid; exact AList.lookup_erase _ _
  · exact AList.lookup_erase_ne ‹_›

end NatsClientMultiplexer

namespace NatsClient

/-- The registry half of `unsubscribe`: with `max_msgs` set, records it on the entry of the sid,
when there is one. -/
def unsubscribeSubs (subsMap : SubsMap) (cmd : UnSubscribe) : SubsMap :=
  match cmd.maxMsgs, subsMap.lookup cmd.sid with
  | some max, some s => subsMap.insert cmd.sid { s with maxCount := some max }
  | _, _ => subsMap

/-- The closure `subscribe` runs on each item its stream yields, for the sid `sid`: when the
entry has a max count, count the item, and once the count reaches the max remove the entry and
answer `SubscriptionReachedMaxMsgs(max_count)` in place of the item. -/
def countMsg (subsMap : SubsMap) (sid : String) : SubsMap × Option RatsioError :=
  match subsMap.lookup sid with
  | some s =>
    match s.maxCount with
    | some maxCount =>
      if s.count + 1 ≥ maxCount then
        (subsMap.erase sid, some (.subscriptionReachedMaxMsgs maxCount))
      else
        (subsMap.insert sid { s with count := s.count + 1 }, none)
    | none => (subsMap, none)
  | none => (subsMap, none)

/-- What `countMsg` leaves of one entry: `none` when it removes it. -/
def afterMsg (s : SubscriptionSink) : Option SubscriptionSink :=
  match s.maxCount with
  | some maxCount => if s.count + 1 ≥ maxCount then none else some { s with count := s.count + 1 }
  | none => some s

@[simp]
theorem lookup_unsubscribeSubs (subsMap : SubsMap) (cmd : UnSubscribe) (sid : String) :
    (unsubscribeSubs subsMap cmd).lookup sid =
      if sid = cmd.sid then
        (subsMap.lookup sid).map fun s => { s with maxCount := cmd.maxMsgs.or s.maxCount }
      else subsMap.lookup sid := by
  unfold unsubscribeSubs
  split
  · rename_i max s hmax hs
    split
    · subst sid; simp [AList.lookup_insert, hs, hmax]
    · exact AList.lookup_insert_ne ‹_›
  · split
    · subst sid
      cases h : subsMap.lookup cmd.sid <;> cases hm : cmd.maxMsgs <;> simp_all
    · rfl

@[simp]
theorem lookup_countMsg (subsMap : SubsMap) (sid sid' : String) :
    (countMsg subsMap sid').1.lookup sid =
      if sid = sid' then (subsMap.lookup sid).bind afterMsg else subsMap.lookup sid := by
  unfold countMsg
  split
  · rename_i s hs
    split
    · rename_i maxCount hmax
      split
      · split
        · subst sid; simp [AList.lookup_erase, hs, afterMsg, hmax, *]
        · exact AList.lookup_erase_ne ‹_›
      · split
        · subst sid; simp [AList.lookup_insert, hs, afterMsg, hmax, *]
        · exact AList.lookup_insert_ne ‹_›
    · split
      · subst sid; simp [hs, afterMsg, *]
      · rfl
  · split
    · subst sid; simp [*]
    · rfl

end NatsClient

end Ratsio
