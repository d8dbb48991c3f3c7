import Ratsio.Client.Client
import Ratsio.Client.MultiplexerLemmas
import Ratsio.Net.Recovery

/-!
What one step of a client does: `Moves` has one transition for each branch of each task, with
its guard, and `moves_of_step` proves once that every step is one of them. The invariants of the
client are case analyses on `Moves`.
-/

namespace Ratsio

def Op.resetsOnly : Op → Bool
  | .close | .ping | .info _ | .err _ => false
  | _ => true

namespace NatsClient

open NatsClientMultiplexer

variable {w w' : NatsClient} {a : ClientAction} {op : Op}

/-! ### The transitions of a client -/

/-- The transitions of a client: one for each branch of each task's code, with its guard. -/
inductive Moves (w : NatsClient) : ClientAction → NatsClient → Prop
  | connection {b : Action} {c : NatsConnection} : w.connection.step b = some c →
      Moves w (.connection b) { w with connection := c }
  | read {d c : Nat} {f : Op} : w.multiplexers[d]? = some ⟨c, none⟩ → f.fromServer →
      w.connection.state.1 = .connected →
      Moves w (.read d f) { w with
        multiplexers := w.multiplexers.set d ⟨c, some f⟩
        received := w.received ++ [(w.connection.inner.2, f)] }
  | readDisconnected {d c : Nat} : w.multiplexers[d]? = some ⟨c, none⟩ →
      w.connection.state.1 = .connected →
      Moves w (.readDisconnected d) { w with connection := w.connection.trigger }
  | routeMsg {d c : Nat} {m : Message} {s : SubscriptionSink} :
      w.multiplexers[d]? = some ⟨c, some (.msg m)⟩ → w.subsMap.lookup m.sid = some s →
      Moves w (.route d)
        ({ w with multiplexers := w.multiplexers.set d ⟨c, none⟩ }.pushChannel s.tx (.message m))
  | routeDrop {d c : Nat} {m : Message} : w.multiplexers[d]? = some ⟨c, some (.msg m)⟩ →
      w.subsMap.lookup m.sid = none →
      Moves w (.route d) { w with multiplexers := w.multiplexers.set d ⟨c, none⟩ }
  | routeControl {d c : Nat} {f : Op} : w.multiplexers[d]? = some ⟨c, some f⟩ →
      (∀ m, f ≠ .msg m) →
      Moves w (.route d) ({ w with multiplexers := w.multiplexers.set d ⟨c, none⟩ }.pushControl c f)
  | controlConnected {l : Nat} {loop : ControlLoop} : w.controlLoops[l]? = some loop →
      loop.running → loop.connectSent →
      Moves w (.control l) { w with
        controlLoops := w.controlLoops.set l { loop with connectSent := false }
        state := .connected }
  | controlClose {l : Nat} {loop : ControlLoop} {rest : List Op} :
      w.controlLoops[l]? = some loop → loop.running → loop.connectSent = false →
      loop.mailbox = .close :: rest →
      Moves w (.control l) (w.takeFrame l ⟨rest, false, false⟩ .close)
  | controlPing {l : Nat} {loop : ControlLoop} {rest : List Op} :
      w.controlLoops[l]? = some loop → loop.running → loop.connectSent = false →
      loop.mailbox = .ping :: rest →
      Moves w (.control l)
        ({ w.takeFrame l { loop with mailbox := rest } .ping with pingAttempts := 0 }.send .pong)
  | controlInfo {l : Nat} {loop : ControlLoop} {serverInfo : ServerInfo} {rest : List Op} :
      w.controlLoops[l]? = some loop → loop.running → loop.connectSent = false →
      loop.mailbox = .info serverInfo :: rest →
      Moves w (.control l)
        ({ w.takeFrame l ⟨rest, true, true⟩ (.info serverInfo) with
          pingAttempts := 0, serverInfo := some serverInfo }.send
          (.connect (generateConnect w.opts serverInfo w.connection.inner.1)))
  | controlErr {l : Nat} {loop : ControlLoop} {e : String} {rest : List Op} :
      w.controlLoops[l]? = some loop → loop.running → loop.connectSent = false →
      loop.mailbox = .err e :: rest →
      Moves w (.control l) (w.takeFrame l { loop with mailbox := rest } (.err e))
  | controlReset {l : Nat} {loop : ControlLoop} {op : Op} {rest : List Op} :
      w.controlLoops[l]? = some loop → loop.running → loop.connectSent = false →
      loop.mailbox = op :: rest → op.resetsOnly →
      Moves w (.control l) { w.takeFrame l { loop with mailbox := rest } op with pingAttempts := 0 }
  | pingIdle : w.state ≠ .connected → Moves w .ping w
  | pingTick : w.state = .connected → w.pingAttempts ≤ w.opts.pingMaxOut →
      Moves w .ping { w.send .ping with pingAttempts := w.pingAttempts + 1 }
  | pingFire : w.state = .connected → w.opts.pingMaxOut < w.pingAttempts →
      Moves w .ping { w.send .ping with
        pingAttempts := w.pingAttempts + 1
        state := .disconnected
        connection := (w.send .ping).connection.trigger }
  | handleTake : w.handler = .idle → w.signalsTaken < w.connection.reconnectHandler →
      Moves w .handle { w with
        signalsTaken := w.signalsTaken + 1
        state := .reconnecting
        handler := if w.opts.subscribeOnReconnect then .closeControl else .closeSinks }
  | handleCloseSinks : w.handler = .closeSinks →
      Moves w .handle { w.closeSinks with handler := .clear }
  | handleClear : w.handler = .clear →
      Moves w .handle { w with subsMap := ∅, handler := .closeControl }
  | handleCloseControl : w.handler = .closeControl →
      Moves w .handle { w.pushControl w.controlTx .close with handler := .resetPings }
  | handleResetPings : w.handler = .resetPings →
      Moves w .handle { w with pingAttempts := 0, handler := .rebuild }
  | handleRebuild : w.handler = .rebuild →
      Moves w .handle { w with
        multiplexers := w.multiplexers ++ [⟨w.controlLoops.length, none⟩]
        controlLoops := w.controlLoops ++ [⟨[], true, false⟩]
        handler := .install w.controlLoops.length }
  | handleInstall {c : Nat} : w.handler = .install c →
      Moves w .handle { w with controlTx := c, handler := .markConnected }
  | handleMarkConnected : w.handler = .markConnected →
      Moves w .handle { w with state := .connected, handler := .connect }
  | handleResubscribe : w.handler = .resubscribe →
      Moves w .handle { w with
        handed := (w.sendAll w.replayOps).handed
        sent := (w.sendAll w.replayOps).sent
        connection := (w.sendAll w.replayOps).connection
        handler := .idle }
  | connectOk : w.handler = .connect →
      Moves w (.handleConnect true) { w with clients := w.clients + 1, handler := .resubscribe }
  | connectRetry : w.handler = .connect → w.opts.ensureConnect = true →
      Moves w (.handleConnect false) w
  | connectFail : w.handler = .connect → w.opts.ensureConnect = false →
      Moves w (.handleConnect false) { w with handler := .resubscribe }
  | publishOverflow {cmd : Publish} {serverInfo : ServerInfo} : w.serverInfo = some serverInfo →
      serverInfo.maxPayload < cmd.payload.length → Moves w (.publish cmd) w
  | publish {cmd : Publish} :
      (∀ serverInfo, w.serverInfo = some serverInfo → cmd.payload.length ≤ serverInfo.maxPayload) →
      Moves w (.publish cmd) (w.send (.pub cmd))
  | subscribe {cmd : Subscribe} :
      Moves w (.subscribe cmd) { w.send (.sub cmd) with subscribes := w.subscribes ++ [cmd] }
  | subscribed {i : Nat} {cmd : Subscribe} : w.subscribes[i]? = some cmd →
      Moves w (.subscribed i) { w with
        subsMap := forSid w.subsMap cmd w.channels.length
        channels := w.channels ++ [[]]
        subscribes := w.subscribes.eraseIdx i
        streams := w.streams ++ [⟨cmd.sid, w.channels.length, 0, false, false, []⟩] }
  | unsubscribe {cmd : UnSubscribe} :
      Moves w (.unsubscribe cmd) ({ w with subsMap := unsubscribeSubs w.subsMap cmd }.send (.unsub cmd))
  | pollClose {j : Nat} {st : SubStream} : w.streams[j]? = some st → st.ended = false →
      st.dropped = false → w.channelItem st.rx st.pos = some .close →
      Moves w (.poll j) { w with streams := w.streams.set j { st with ended := true } }
  | pollMessage {j : Nat} {st : SubStream} {m : Message} : w.streams[j]? = some st →
      st.ended = false → st.dropped = false → w.channelItem st.rx st.pos = some (.message m) →
      Moves w (.poll j) { w with
        subsMap := (countMsg w.subsMap st.sid).1
        streams := w.streams.set j { st with
          pos := st.pos + 1
          items := st.items ++ [countedItem (countMsg w.subsMap st.sid).2 m] } }
  | pollDrained {j : Nat} {st : SubStream} : w.streams[j]? = some st → st.ended = false →
      st.dropped = false → w.channelItem st.rx st.pos = none → w.hasSender st.rx = false →
      Moves w (.poll j) { w with streams := w.streams.set j { st with ended := true } }
  | dropStream {j : Nat} {st : SubStream} : w.streams[j]? = some st → st.dropped = false →
      Moves w (.dropStream j) { w with streams := w.streams.set j { st with dropped := true } }
  | requestOverflow {subject : String} {payload : List UInt8} {inbox sid : String}
      {serverInfo : ServerInfo} : w.serverInfo = some serverInfo →
      serverInfo.maxPayload < payload.length →
      Moves w (.request subject payload inbox sid) { w with
        requests := w.requests ++ [⟨⟨inbox, sid, none⟩, ⟨subject, payload, some inbox⟩,
          w.channels.length, .resolved (.error (.maxPayloadOverflow serverInfo.maxPayload))⟩] }
  | request {subject : String} {payload : List UInt8} {inbox sid : String} :
      (∀ serverInfo, w.serverInfo = some serverInfo → payload.length ≤ serverInfo.maxPayload) →
      Moves w (.request subject payload inbox sid)
        (w.registerRequest ⟨inbox, sid, none⟩ ⟨subject, payload, some inbox⟩)
  | requestSub {j : Nat} {r : Request} : w.requests[j]? = some r → r.pc = .sendSub →
      Moves w (.requestStep j)
        { w.send (.sub r.subCmd) with requests := w.requests.set j { r with pc := .sendUnsub } }
  | requestUnsub {j : Nat} {r : Request} : w.requests[j]? = some r → r.pc = .sendUnsub →
      Moves w (.requestStep j)
        { w.send (.unsub ⟨r.subCmd.sid, some 1⟩) with
          requests := w.requests.set j { r with pc := .sendPub } }
  | requestPub {j : Nat} {r : Request} : w.requests[j]? = some r → r.pc = .sendPub →
      Moves w (.requestStep j)
        { w.send (.pub r.pubCmd) with requests := w.requests.set j { r with pc := .takeReply } }
  | requestReply {j : Nat} {r : Request} {m : Message} : w.requests[j]? = some r →
      r.pc = .takeReply → w.channelItem r.rx 0 = some (.message m) →
      Moves w (.requestStep j) { w with
        subsMap := removeSid w.subsMap r.subCmd.sid
        requests := w.requests.set j { r with pc := .resolved (.ok m) } }
  | requestBroken {j : Nat} {r : Request} : w.requests[j]? = some r → r.pc = .takeReply →
      (w.channelItem r.rx 0 = some .close ∨
        w.channelItem r.rx 0 = none ∧ w.hasSender r.rx = false) →
      Moves w (.requestStep j) { w with
        requests := w.requests.set j { r with pc := .resolved (.error .innerBrokenChain) } }

theorem sendAll_eq (w : NatsClient) (ops : List Op) :
    w.sendAll ops = { w with
      handed := (w.sendAll ops).handed
      sent := (w.sendAll ops).sent
      connection := (w.sendAll ops).connection } := by
  induction ops generalizing w with
  | nil => rfl
  | cons op ops ih =>
    show (w.send op).sendAll ops = _
    rw [ih (w.send op)]
    rfl

theorem handle_resubscribe (w : NatsClient) :
    w.handle .resubscribe = some { w with
      handed := (w.sendAll w.replayOps).handed
      sent := (w.sendAll w.replayOps).sent
      connection := (w.sendAll w.replayOps).connection
      handler := .idle } := by
  have hr : (if w.opts.subscribeOnReconnect then w.resubscribe else w) = w.sendAll w.replayOps := by
    unfold replayOps resubscribe
    split <;> rfl
  simp only [handle]
  rw [hr, sendAll_eq]

theorem moves_route {d c : Nat} {f : Op} (hd : w.multiplexers[d]? = some ⟨c, some f⟩) :
    Moves w (.route d) ({ w with multiplexers := w.multiplexers.set d ⟨c, none⟩ }.route c f) := by
  cases f
  case msg m =>
    cases hs : w.subsMap.lookup m.sid
    · simp only [route, hs]
      exact .routeDrop hd hs
    · simp only [route, hs]
      exact .routeMsg hd hs
  all_goals exact .routeControl hd fun _ h => nomatch h

theorem moves_control {l : Nat} {loop : ControlLoop} (hl : w.controlLoops[l]? = some loop)
    (h : w.control l loop = some w') : Moves w (.control l) w' := by
  unfold control at h
  split at h
  · cases h
  rename_i hr
  simp only [Bool.not_eq_true', Bool.not_eq_false] at hr
  split at h
  · cases h
    exact .controlConnected hl hr ‹_›
  rename_i hs
  simp only [Bool.not_eq_true] at hs
  split at h
  · cases h
  rename_i op rest hm
  cases h
  cases op with
  | close => exact .controlClose hl hr hs hm
  | ping => exact .controlPing hl hr hs hm
  | info serverInfo => exact .controlInfo hl hr hs hm
  | err e => exact .controlErr hl hr hs hm
  | _ => exact .controlReset hl hr hs hm rfl

theorem moves_ping (w : NatsClient) : Moves w .ping w.ping := by
  unfold NatsClient.ping
  split
  · rename_i hs
    dsimp only
    split
    · exact .pingFire hs ‹_›
    · exact .pingTick hs (Nat.le_of_not_lt ‹_›)
  · exact .pingIdle ‹_›

theorem moves_handle (h : w.handle w.handler = some w') : Moves w .handle w' := by
  cases hh : w.handler <;> rw [hh] at h
  case resubscribe =>
    rw [handle_resubscribe] at h
    cases h
    exact .handleResubscribe hh
  all_goals simp only [handle] at h
  case idle =>
    split at h <;> cases h
    exact .handleTake hh ‹_›
  case closeSinks => cases h; exact .handleCloseSinks hh
  case clear => cases h; exact .handleClear hh
  case closeControl => cases h; exact .handleCloseControl hh
  case resetPings => cases h; exact .handleResetPings hh
  case rebuild => cases h; exact .handleRebuild hh
  case install => cases h; exact .handleInstall hh
  case markConnected => cases h; exact .handleMarkConnected hh
  case connect => cases h

theorem moves_handleConnect (hh : w.handler = .connect) (ok : Bool) :
    Moves w (.handleConnect ok) (w.handleConnect ok) := by
  cases ok with
  | true => exact .connectOk hh
  | false =>
    cases he : w.opts.ensureConnect
    · simpa [handleConnect, he] using Moves.connectFail hh he
    · simpa [handleConnect, he] using Moves.connectRetry hh he

theorem moves_publish (w : NatsClient) (cmd : Publish) : Moves w (.publish cmd) (w.publish cmd) := by
  unfold NatsClient.publish
  split
  · rename_i serverInfo hs
    split
    · exact .publishOverflow hs ‹_›
    · exact .publish fun _ h => by cases hs.symm.trans h; exact Nat.le_of_not_lt ‹_›
  · exact .publish fun _ h => by simp_all

theorem moves_poll {j : Nat} {st : SubStream} (hst : w.streams[j]? = some st)
    (h : w.poll j st = some w') : Moves w (.poll j) w' := by
  unfold poll at h
  split at h
  · cases h
  rename_i ho
  simp only [Bool.or_eq_true, not_or, Bool.not_eq_true] at ho
  split at h
  · cases h; exact .pollClose hst ho.1 ho.2 ‹_›
  · cases h; exact .pollMessage hst ho.1 ho.2 ‹_›
  · split at h
    · cases h
    · cases h; exact .pollDrained hst ho.1 ho.2 ‹_› (Bool.eq_false_iff.mpr ‹_›)

theorem moves_request (w : NatsClient) (subject : String) (payload : List UInt8)
    (inbox sid : String) :
    Moves w (.request subject payload inbox sid) (w.request subject payload inbox sid) := by
  unfold request
  split
  · rename_i serverInfo hs
    split
    · exact .requestOverflow hs ‹_›
    · exact .request fun _ h => by cases hs.symm.trans h; exact Nat.le_of_not_lt ‹_›
  · exact .request fun _ h => by simp_all

theorem moves_requestStep {j : Nat} {r : Request} (hr : w.requests[j]? = some r)
    (h : w.requestStep j r = some w') : Moves w (.requestStep j) w' := by
  unfold requestStep at h
  split at h
  · cases h; exact .requestSub hr ‹_›
  · cases h; exact .requestUnsub hr ‹_›
  · cases h; exact .requestPub hr ‹_›
  · split at h
    · cases h; exact .requestReply hr ‹_› ‹_›
    · cases h; exact .requestBroken hr ‹_› (.inl ‹_›)
    · split at h
      · cases h
      · cases h; exact .requestBroken hr ‹_› (.inr ⟨‹_›, Bool.eq_false_iff.mpr ‹_›⟩)
  · cases h

/-- Every step of a client is one of its transitions. -/
theorem moves_of_step (h : w.step a = some w') : Moves w a w' := by
  cases a with
  | connection b =>
    obtain ⟨c, hc, rfl⟩ := Option.map_eq_some'.mp h
    exact .connection hc
  | read d f =>
    simp only [step] at h
    split at h
    · split_ifs at h with hf
      cases h
      exact .read ‹_› hf.1 (by simpa [NatsConnSinkStream.ready] using hf.2)
    · cases h
  | readDisconnected d =>
    simp only [step] at h
    split at h
    · split_ifs at h with hf
      cases h
      exact .readDisconnected ‹_› (by simpa [NatsConnSinkStream.ready] using hf)
    · cases h
  | route d =>
    simp only [step] at h
    split at h
    · cases h; exact moves_route ‹_›
    · cases h
  | control l =>
    obtain ⟨loop, hl, hc⟩ := Option.bind_eq_some.mp h
    exact moves_control hl hc
  | ping => cases h; exact moves_ping w
  | handle => exact moves_handle h
  | handleConnect ok =>
    simp only [step] at h
    split at h
    · cases h; exact moves_handleConnect ‹_› ok
    · cases h
  | publish cmd => cases h; exact moves_publish w cmd
  | subscribe cmd => cases h; exact .subscribe
  | subscribed i =>
    obtain ⟨cmd, hi, rfl⟩ := Option.map_eq_some'.mp h
    exact .subscribed hi
  | unsubscribe cmd => cases h; exact .unsubscribe
  | poll j =>
    obtain ⟨st, hst, hp⟩ := Option.bind_eq_some.mp h
    exact moves_poll hst hp
  | dropStream j =>
    obtain ⟨st, hst, hd⟩ := Option.bind_eq_some.mp h
    simp only [dropStream] at hd
    split at hd
    · cases hd
    · cases hd; exact .dropStream hst (Bool.eq_false_iff.mpr ‹_›)
  | request subject payload inbox sid => cases h; exact moves_request w subject payload inbox sid
  | requestStep j =>
    obtain ⟨r, hr, hs⟩ := Option.bind_eq_some.mp h
    exact moves_requestStep hr hs

theorem run_append (w : NatsClient) (as bs : List ClientAction) :
    w.run (as ++ bs) = (w.run as).bind (·.run bs) := by
  induction as generalizing w with
  | nil => rfl
  | cons a as ih =>
    simp only [List.cons_append, run]
    cases w.step a <;> simp [ih]

/-! ### Sends -/

theorem sinkResult_passed (h : w.sinkResult.passed) : w.connection.state.1 = .connected := by
  have hr := NatsConnSinkStream.startSend_passed h
  split at hr
  · simpa [NatsConnSinkStream.ready] using hr
  · cases hr

theorem sinkResult_eq (w : NatsClient) :
    w.sinkResult.passed = (decide (w.connection.state.1 = .connected) &&
      (w.sinkAnswers w.handed.length).stateFree && (w.sinkAnswers w.handed.length).inner.isSome) ∧
    w.sinkResult.triggered = (decide (w.connection.state.1 = .connected) &&
      (w.sinkAnswers w.handed.length).stateFree &&
      decide ((w.sinkAnswers w.handed.length).inner = some (.error .serverDisconnected))) := by
  unfold sinkResult NatsConnSinkStream.startSend
  generalize w.sinkAnswers w.handed.length = answer
  obtain ⟨_ | _, inner⟩ := answer
  · simp [NatsConnSinkStream.ready]
  · by_cases hs : w.connection.state.1 = .connected
    · simp only [NatsConnSinkStream.ready, hs, if_true, decide_True, Bool.not_true,
        Bool.false_eq_true, if_false, Bool.true_and]
      split <;> simp_all
    · simp [NatsConnSinkStream.ready, hs]

@[simp] theorem send_handed (w : NatsClient) (op : Op) : (w.send op).handed = w.handed ++ [op] :=
  rfl

theorem triggered_send (w : NatsClient) (op : Op) :
    w.connection.Triggered (w.send op).connection := by
  by_cases ht : w.sinkResult.triggered
  · simpa [send, ht] using NatsConnection.Triggered.trigger w.connection
  · simpa [send, ht] using NatsConnection.Triggered.refl w.connection

theorem triggered_send_of {w₀ : NatsClient} (hc : w₀.connection = w.connection) (op : Op) :
    w.connection.Triggered (w₀.send op).connection :=
  hc ▸ triggered_send w₀ op

/-- `w'` handed `ops` to the sender after what `w` had handed; `start_send` passed a sublist of
them on, to the transport installed in `w`, only while its phase was `Connected`. -/
def Hands (w : NatsClient) (ops : List Op) (w' : NatsClient) : Prop :=
  w'.handed = w.handed ++ ops ∧ ∃ passed : List Op, passed.Sublist ops ∧
    w'.sent = w.sent ++ passed.map (w.connection.inner.2, ·) ∧
    (passed ≠ [] → w.connection.state.1 = .connected)

theorem Hands.nil (hh : w'.handed = w.handed) (hs : w'.sent = w.sent) : Hands w [] w' :=
  ⟨by simp [hh], [], .slnil, by simp [hs], fun h => absurd rfl h⟩

theorem hands_send (w : NatsClient) (op : Op) : Hands w [op] (w.send op) := by
  by_cases hp : w.sinkResult.passed
  · exact ⟨rfl, [op], .refl _, by simp [send, hp], fun _ => sinkResult_passed hp⟩
  · exact ⟨rfl, [], List.nil_sublist _, by simp [send, hp], fun h => absurd rfl h⟩

theorem Hands.append {w₁ w₂ : NatsClient} {ops₁ ops₂ : List Op} (h₁ : Hands w ops₁ w₁)
    (h₂ : Hands w₁ ops₂ w₂) (hc : w₁.connection.state = w.connection.state)
    (hi : w₁.connection.inner = w.connection.inner) : Hands w (ops₁ ++ ops₂) w₂ := by
  obtain ⟨hh₁, p₁, hp₁, hs₁, hc₁⟩ := h₁
  obtain ⟨hh₂, p₂, hp₂, hs₂, hc₂⟩ := h₂
  refine ⟨by rw [hh₂, hh₁, List.append_assoc], p₁ ++ p₂, hp₁.append hp₂,
    by rw [hs₂, hs₁, hi, List.map_append, List.append_assoc], fun hne => ?_⟩
  by_cases hp : p₁ = []
  · rw [← hc]
    exact hc₂ (by simpa [hp] using hne)
  · exact hc₁ hp

theorem hands_sendAll (w : NatsClient) (ops : List Op) :
    Hands w ops (w.sendAll ops) ∧ w.connection.Triggered (w.sendAll ops).connection := by
  induction ops generalizing w with
  | nil => exact ⟨.nil rfl rfl, .refl _⟩
  | cons op ops ih =>
    obtain ⟨hh, ht⟩ := ih (w.send op)
    obtain ⟨n, hn⟩ := triggered_send w op
    exact ⟨(hands_send w op).append hh (by rw [hn]) (by rw [hn]), (triggered_send w op).trans ht⟩

/-- The step `a` is control loop `l`'s answer to the `INFO` at the head of its channel. -/
def InfoStep (w : NatsClient) (a : ClientAction) : Prop :=
  ∃ l loop serverInfo rest, a = .control l ∧ w.controlLoops[l]? = some loop ∧ loop.running ∧
    loop.connectSent = false ∧ loop.mailbox = .info serverInfo :: rest

/-- What a step hands to the sender, with a `CONNECT` among it only when the step is a control
loop's answer to an `INFO`. -/
def SentStep (w : NatsClient) (a : ClientAction) (w' : NatsClient) : Prop :=
  ∃ ops, Hands w ops w' ∧ ∀ c, .connect c ∈ ops → InfoStep w a

theorem sent_step (h : w.step a = some w') : SentStep w a w' := by
  cases moves_of_step h with
  | controlPing => exact ⟨_, hands_send _ .pong, by simp⟩
  | controlInfo hl hr hs hm => exact ⟨_, hands_send _ _, fun _ _ => ⟨_, _, _, _, rfl, hl, hr, hs, hm⟩⟩
  | pingTick | pingFire => exact ⟨_, hands_send w .ping, by simp⟩
  | handleResubscribe =>
    refine ⟨_, (hands_sendAll w w.replayOps).1, fun c hc => ?_⟩
    unfold replayOps resubscribeOps at hc
    split at hc <;> simp at hc
  | publish => exact ⟨_, hands_send _ _, by simp⟩
  | subscribe => exact ⟨_, hands_send _ _, by simp⟩
  | unsubscribe => exact ⟨_, hands_send _ _, by simp⟩
  | requestSub | requestUnsub | requestPub => exact ⟨_, hands_send _ _, by simp⟩
  | _ => exact ⟨[], .nil rfl rfl, by simp⟩

theorem handed_prefix (h : w.step a = some w') : w.handed <+: w'.handed := by
  obtain ⟨ops, ⟨hh, -⟩, -⟩ := sent_step h
  exact ⟨ops, hh.symm⟩

def sampleOpts : NatsClientOptions where
  verbose := false
  pedantic := false
  tlsRequired := false
  authToken := ""
  username := ""
  password := ""
  name := ""
  echo := true
  userJwt := none
  pingMaxOut := 2
  ensureConnect := false
  subscribeOnReconnect := true

def sampleInfo : ServerInfo := ⟨1048576, [], ""⟩

def sample : NatsClient := create sampleOpts localhost fun _ => .free

/-- Every step hands frames to the sender, a `CONNECT` only as a control loop's answer to an
`INFO`, and `start_send` passes them on only to the transport installed and while the phase
reads `Connected`. A `publish` within `max_payload` passes its `PUB` to the installed transport
whenever the phase is `Connected` and both locks are free, whatever the client state and whether
that transport got its `CONNECT`; a `ServerDisconnected` answer calls `trigger_reconnect`. -/
theorem frames_pass_while_connected (h : w.step a = some w') :
    SentStep w a w' ∧
    ∀ cmd : Publish,
      (∀ serverInfo, w.serverInfo = some serverInfo → cmd.payload.length ≤ serverInfo.maxPayload) →
      (w.publish cmd).handed = w.handed ++ [.pub cmd] ∧
      (w.publish cmd).sent = w.sent ++
        (if w.connection.state.1 = .connected ∧ (w.sinkAnswers w.handed.length).stateFree ∧
          (w.sinkAnswers w.handed.length).inner.isSome then [(w.connection.inner.2, .pub cmd)]
        else []) ∧
      (w.publish cmd).connection =
        if w.connection.state.1 = .connected ∧ (w.sinkAnswers w.handed.length).stateFree ∧
          (w.sinkAnswers w.handed.length).inner = some (.error .serverDisconnected)
        then w.connection.trigger else w.connection := by
  refine ⟨sent_step h, fun cmd hp => ?_⟩
  have hpub : w.publish cmd = w.send (.pub cmd) := by
    unfold NatsClient.publish
    split
    · rw [if_neg (Nat.not_lt.mpr (hp _ ‹_›))]
    · rfl
  obtain ⟨hpass, htrig⟩ := sinkResult_eq w
  refine ⟨by rw [hpub]; rfl, ?_, ?_⟩ <;> rw [hpub] <;> simp only [send, hpass, htrig] <;>
    split_ifs <;> simp_all

theorem frames_pass_while_connected_publish :
    sample.step (.publish ⟨"a", [1, 2], none⟩) = some (sample.publish ⟨"a", [1, 2], none⟩) ∧
    SentStep sample (.publish ⟨"a", [1, 2], none⟩) (sample.publish ⟨"a", [1, 2], none⟩) ∧
    ∀ cmd : Publish,
      (∀ serverInfo, sample.serverInfo = some serverInfo →
        cmd.payload.length ≤ serverInfo.maxPayload) →
      (sample.publish cmd).handed = sample.handed ++ [.pub cmd] ∧
      (sample.publish cmd).sent = sample.sent ++
        (if sample.connection.state.1 = .connected ∧
          (sample.sinkAnswers sample.handed.length).stateFree ∧
          (sample.sinkAnswers sample.handed.length).inner.isSome
        then [(sample.connection.inner.2, .pub cmd)] else []) ∧
      (sample.publish cmd).connection =
        if sample.connection.state.1 = .connected ∧
          (sample.sinkAnswers sample.handed.length).stateFree ∧
          (sample.sinkAnswers sample.handed.length).inner = some (.error .serverDisconnected)
        then sample.connection.trigger else sample.connection :=
  ⟨rfl, frames_pass_while_connected rfl⟩

/-! ### The client state -/

/-- Every control loop that has sent `CONNECT` and has the write of `Connected` left last took
an `INFO` from its channel, and the `CONNECT` built from that `INFO` is among the frames handed
to the sender. -/
def ConnectOk (w : NatsClient) : Prop :=
  ∀ l loop, w.controlLoops[l]? = some loop → loop.connectSent →
    ∃ serverInfo url, (w.taken.filter (·.1 = l)).getLast? = some (l, .info serverInfo) ∧
      .connect (generateConnect w.opts serverInfo url) ∈ w.handed

theorem ConnectOk.of_frame (hw : w.ConnectOk) (hl : w'.controlLoops = w.controlLoops)
    (ht : w'.taken = w.taken) (hh : w.handed <+: w'.handed) (ho : w'.opts = w.opts) :
    w'.ConnectOk := fun l loop hloop hs => by
  obtain ⟨serverInfo, url, hlast, hc⟩ := hw l loop (hl ▸ hloop) hs
  exact ⟨serverInfo, url, ht ▸ hlast, ho ▸ hh.subset hc⟩

theorem ConnectOk.set (hw : w.ConnectOk) {l : Nat} {loop' : ControlLoop}
    (hc : w'.controlLoops = w.controlLoops.set l loop')
    (ht : ∀ l', l ≠ l' → w'.taken.filter (·.1 = l') = w.taken.filter (·.1 = l'))
    (hh : w.handed <+: w'.handed) (ho : w'.opts = w.opts)
    (hl : loop'.connectSent → ∃ serverInfo url,
      (w'.taken.filter (·.1 = l)).getLast? = some (l, .info serverInfo) ∧
      .connect (generateConnect w'.opts serverInfo url) ∈ w'.handed) : w'.ConnectOk := by
  intro l' loop₁ hloop hs₁
  rw [hc] at hloop
  by_cases hll : l = l'
  · subst hll
    have hlt : l < w.controlLoops.length := by simpa using (List.getElem?_eq_some_iff.mp hloop).1
    rw [List.getElem?_set_self hlt] at hloop
    cases hloop
    exact hl hs₁
  · rw [List.getElem?_set_ne hll] at hloop
    obtain ⟨serverInfo, url, hlast, hcon⟩ := hw l' loop₁ hloop hs₁
    exact ⟨serverInfo, url, by rw [ht l' hll, hlast], ho ▸ hh.subset hcon⟩

theorem filter_taken_append {taken : List (Nat × Op)} {l l' : Nat} (x : Op) (h : l ≠ l') :
    (taken ++ [(l, x)]).filter (·.1 = l') = taken.filter (·.1 = l') := by
  simp [List.filter_append, h]

@[simp] theorem ControlLoop.push_connectSent (x : Op) (loop : ControlLoop) :
    (loop.push x).connectSent = loop.connectSent := by
  unfold ControlLoop.push
  split <;> rfl

theorem ConnectOk.push (hw : w.ConnectOk) (k : Nat) (x : Op) : (w.pushControl k x).ConnectOk := by
  intro l loop hloop hs
  simp only [pushControl, List.getElem?_modify, Option.map_eq_map] at hloop
  obtain ⟨loop₀, h₀, rfl⟩ := Option.map_eq_some'.mp hloop
  exact hw l loop₀ h₀ (by split_ifs at hs <;> simpa using hs)

theorem ConnectOk.step (hw : w.ConnectOk) (h : w.step a = some w') : w'.ConnectOk := by
  have hh := handed_prefix h
  cases moves_of_step h with
  | controlConnected => exact hw.set rfl (fun _ _ => rfl) hh rfl nofun
  | controlClose => exact hw.set rfl (fun _ h => filter_taken_append _ h) hh rfl nofun
  | controlPing _ _ hs | controlErr _ _ hs | controlReset _ _ hs =>
    exact hw.set rfl (fun _ h => filter_taken_append _ h) hh rfl fun h => by simp [hs] at h
  | @controlInfo l loop serverInfo rest =>
    refine hw.set rfl (fun _ h => filter_taken_append _ h) hh rfl fun _ =>
      ⟨serverInfo, w.connection.inner.1, ?_, ?_⟩ <;>
      simp [takeFrame, send, List.filter_append]
  | routeControl => exact hw.push _ _
  | handleCloseControl => exact hw.push _ _
  | handleRebuild =>
    intro l loop hloop hs
    rcases Nat.lt_or_ge l w.controlLoops.length with hlt | hge
    · exact hw l loop (by rwa [List.getElem?_append_left hlt] at hloop) hs
    · rw [List.getElem?_append_right hge] at hloop
      obtain ⟨_, hl⟩ := List.getElem?_eq_some_iff.mp hloop
      simp only [List.getElem_singleton] at hl
      subst hl
      cases hs
  | _ => exact hw.of_frame rfl rfl hh rfl

theorem connectOk_create (opts : NatsClientOptions) (url : Url) (sinkAnswers : Nat → SinkAnswer) :
    (create opts url sinkAnswers).ConnectOk := by
  intro l loop hloop hs
  have hmem : loop ∈ [(⟨[], true, false⟩ : ControlLoop)] := List.getElem?_mem hloop
  rw [List.mem_singleton] at hmem
  subst hmem
  cases hs

theorem Reachable.connectOk (hw : w.Reachable) : w.ConnectOk := by
  induction hw with
  | create opts url sinkAnswers => exact connectOk_create opts url sinkAnswers
  | step a _ h ih => exact ih.step h

def reconnectRun : List ClientAction :=
  [.connection .trigger, .connection (.triggerStep 0), .connection (.triggerStep 0),
    .connection (.triggerStep 0), .connection (.dial 0 (some localhost)),
    .connection (.attemptStep 0), .connection (.attemptStep 0), .connection .announce]

def handshakeRun : List ClientAction :=
  [.read 0 (.info sampleInfo), .route 0, .control 0, .control 0]

def handlerRun : List ClientAction :=
  [.handle, .handle, .handle, .handle, .handle, .handle]

/-- A `PUB` is the first frame the first transport takes, before any `INFO` is read; and after a
reconnection the pinger's `PING` is the first frame the new transport takes. -/
theorem first_frame_not_connect :
    (sample.run [.publish ⟨"a", [1, 2], none⟩]).map (·.sent) =
      some [(0, .pub ⟨"a", [1, 2], none⟩)] ∧
    (sample.run (handshakeRun ++ reconnectRun ++ handlerRun ++ [.ping])).map
        (fun w => (w.sent.filter (·.1 = 1)).map (·.2)) = some [.ping] := by
  decide

def msgS1 : Message := ⟨"x", "s1", none, []⟩

/-- `subscribe(s1)` sends `SUB` at once and registers the sid only when its future runs: a `MSG`
for `s1` that the multiplexer reads and routes in between finds no entry and is dropped, and the
channel of the stream `subscribe` returns stays empty. -/
theorem subscribe_drops_early_msg :
    (sample.run [.subscribe subscribeS1, .read 0 (.msg msgS1), .route 0, .subscribed 0]).map
        (fun w => (w.sent, w.received, (w.subsMap.lookup "s1").map (·.tx), w.channels)) =
      some ([(0, .sub subscribeS1)], [(0, .msg msgS1)], some 0, [[]]) := by
  decide

/-- After a reconnection the multiplexer `0` of the first transport still runs, forwarding to
the control loop `0`, which the handler closed: when it wins the read of the new transport's
`INFO`, the frame goes to that closed channel and is lost, and the running control loop `1` never
gets it. -/
theorem old_multiplexer_steals_info :
    (sample.run (reconnectRun ++ [.handle, .handle, .handle, .handle, .handle, .control 0,
        .read 0 (.info sampleInfo), .route 0])).map
        (fun w => (w.received, w.controlTx, w.multiplexers, w.controlLoops)) =
      some ([(1, .info sampleInfo)], 1, [⟨0, none⟩, ⟨1, none⟩],
        [⟨[], false, false⟩, ⟨[], true, false⟩]) := by
  decide

/-- One run of the reconnect handler builds a second `NatsClient`, with its own
`NatsConnection`, when the dial of its `NatsClient::connect` succeeds. -/
theorem reconnect_builds_second_client :
    (sample.run (reconnectRun ++ handlerRun ++ [.handleConnect true])).map (·.clients) = some 2 := by
  decide

end NatsClient

end Ratsio
