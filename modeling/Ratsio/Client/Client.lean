import Ratsio.Net.Connection
import Ratsio.Client.Multiplexer
import Ratsio.Client.Connect

/-!
A client and the tasks `create_client` spawns for it (`nats_client/client.rs`), interleaved with
the user's calls and the reconnect machine of its `NatsConnection`: each task runs from one lock
or channel operation to the next in one step of `NatsClient.step`. A frame handed to the sink is
logged in `handed`; what `start_send` then meets is the environment's choice, `sinkAnswers`, and
the frames it passes on are logged in `sent` with the transport installed.
-/

namespace Ratsio

/-- Modelled from the spec: `NatsClientState` (declared in `nats_client/mod.rs`, not in
`src/`). -/
inductive NatsClientState where
  | connecting
  | connected
  | reconnecting
  | disconnected
  deriving DecidableEq, Repr

/-- A multiplexer task spawned by `NatsClientMultiplexer::new`: the control channel it forwards
to, and the frame its `for_each` read and has not routed yet. -/
structure Multiplexer where
  controlTx : Nat
  frame : Option Op
  deriving DecidableEq, Repr

/-- A control loop spawned by `control_receiver`: its channel's queue, whether it still runs
(its `take_while` ends at `CLOSE`, which drops the receiver), and whether it has sent `CONNECT`
for an `INFO` and has still to write `Connected`. -/
structure ControlLoop where
  mailbox : List Op
  running : Bool
  connectSent : Bool
  deriving DecidableEq, Repr

/-- `unbounded_send` of `op` to a control loop: the frame is queued while the loop runs, and lost
once the loop has dropped its receiver. -/
def ControlLoop.push (op : Op) (loop : ControlLoop) : ControlLoop :=
  if loop.running then { loop with mailbox := loop.mailbox ++ [op] } else loop

/-- Where the reconnect-signal handler that `create_client` spawns stands. -/
inductive HandlerPc where
  /-- Waiting for a message on `reconnect_handler_rx`. -/
  | idle
  /-- Next it pushes `CLOSE` into every sink. -/
  | closeSinks
  /-- Next it clears `subs_map`. -/
  | clear
  /-- Next it sends `CLOSE` on `control_tx`. -/
  | closeControl
  /-- Next it resets the ping counter. -/
  | resetPings
  /-- Next it builds the new view, multiplexer, sender and control loop. -/
  | rebuild
  /-- Next it installs them, with the control channel `controlTx`. -/
  | install (controlTx : Nat)
  /-- Next it writes `Connected`. -/
  | markConnected
  /-- In `NatsClient::connect(recon_opts).wait()`. -/
  | connect
  /-- Next it sends `SUB` again for every entry. -/
  | resubscribe
  deriving DecidableEq, Repr

/-- The stream that `subscribe` returns: `for_sid`'s stream on the channel `rx`, then the
closure that counts an item for `sid`. It has read `pos` items of its channel; it has ended at a
`CLOSE` or on a drained channel that no sender holds any more; its consumer may have dropped
it, and with it the channel's receiver; `items` is what it yielded. -/
structure SubStream where
  sid : String
  rx : Nat
  pos : Nat
  ended : Bool
  dropped : Bool
  items : List (Except RatsioError Message)
  deriving DecidableEq, Repr

/-- Where the future of a `request` call stands. -/
inductive RequestPc where
  /-- Next it sends `SUB` for the inbox. -/
  | sendSub
  /-- Next it sends `UNSUB` with max 1. -/
  | sendUnsub
  /-- Next it sends `PUB`. -/
  | sendPub
  /-- It waits for the first item of its inbox stream. -/
  | takeReply
  /-- It resolved. -/
  | resolved (result : Except RatsioError Message)
  deriving DecidableEq, Repr

/-- A `request` call: the `SUB` of its inbox and the `PUB` it sends, the channel of its inbox
stream, and where its future stands. -/
structure Request where
  subCmd : Subscribe
  pubCmd : Publish
  rx : Nat
  pc : RequestPc
  deriving DecidableEq, Repr

/-- What `start_send` meets for one frame, which the environment decides: whether `try_read` on
the connection's state lock succeeds, and what `try_write` on the inner lock and the inner
transport's `start_send` give (`none` while another task holds the inner lock). -/
structure SinkAnswer where
  stateFree : Bool
  inner : Option (Except RatsioError Unit)
  deriving DecidableEq, Repr

/-- Both locks free, and the transport takes the frame. -/
def SinkAnswer.free : SinkAnswer := ⟨true, some (.ok ())⟩

/-- A client with the tasks running for it. `signalsTaken` counts the messages the handler took
from `reconnect_handler_rx`; `subscribes` holds the `subscribe` calls that sent `SUB` and have not
yet run their continuation; `clients` counts the `NatsClient` values that `NatsClient::connect`
built, this one first. `handed` is every frame handed to a sender, `sinkAnswers n` what
`start_send` meets for the `n`-th of them, `sent` the frames it passed to a transport, `received`
the frames a transport gave to a multiplexer, and `taken` the frames each control loop took from
its channel. -/
structure NatsClient where
  opts : NatsClientOptions
  connection : NatsConnection
  serverInfo : Option ServerInfo
  state : NatsClientState
  controlTx : Nat
  pingAttempts : Nat
  subsMap : SubsMap
  channels : List (List SinkMessage)
  multiplexers : List Multiplexer
  controlLoops : List ControlLoop
  handler : HandlerPc
  signalsTaken : Nat
  subscribes : List Subscribe
  streams : List SubStream
  requests : List Request
  handed : List Op
  sinkAnswers : Nat → SinkAnswer
  sent : List (Nat × Op)
  received : List (Nat × Op)
  taken : List (Nat × Op)
  clients : Nat

/-- The frames a server sends: the codec reads no other verb from the wire. -/
def Op.fromServer : Op → Bool
  | .info _ | .msg _ | .ping | .pong | .err _ => true
  | _ => false

/-- One task of the client takes a step. -/
inductive ClientAction where
  /-- A thread of the connection's reconnect machine. -/
  | connection (a : Action)
  /-- Multiplexer `d` polls its view and the installed transport gives it the frame `f`. -/
  | read (d : Nat) (f : Op)
  /-- Multiplexer `d` polls its view and the installed transport reports `ServerDisconnected`. -/
  | readDisconnected (d : Nat)
  /-- Multiplexer `d` routes the frame it read. -/
  | route (d : Nat)
  /-- Control loop `l` takes its next step. -/
  | control (l : Nat)
  /-- The pinger's interval ticks. -/
  | ping
  /-- The reconnect-signal handler takes its next step. -/
  | handle
  /-- The handler's `NatsClient::connect` ends its dial, successfully or not. -/
  | handleConnect (ok : Bool)
  | publish (cmd : Publish)
  /-- A `subscribe` call: it sends `SUB` and returns its future. -/
  | subscribe (cmd : Subscribe)
  /-- The future of the pending `subscribe` call `i` runs its continuation. -/
  | subscribed (i : Nat)
  | unsubscribe (cmd : UnSubscribe)
  /-- The consumer of stream `j` polls it. -/
  | poll (j : Nat)
  /-- The consumer of stream `j` drops it. -/
  | dropStream (j : Nat)
  /-- A `request` call, with the inbox subject and the sid that `generate_reply_to` and
  `generate_sid` draw. -/
  | request (subject : String) (payload : List UInt8) (inbox sid : String)
  /-- The future of request `j` takes its next step. -/
  | requestStep (j : Nat)

namespace NatsClient

/-- The client `create_client` builds on a connection dialed at `url`, with its multiplexer `0`
and its control loop `0`, in an environment whose sink answers `sinkAnswers`. -/
def create (opts : NatsClientOptions) (url : Url) (sinkAnswers : Nat → SinkAnswer) :
    NatsClient where
  opts := opts
  connection := NatsConnection.create url
  serverInfo := none
  state := .connecting
  controlTx := 0
  pingAttempts := 0
  subsMap := ∅
  channels := []
  multiplexers := [⟨0, none⟩]
  controlLoops := [⟨[], true, false⟩]
  handler := .idle
  signalsTaken := 0
  subscribes := []
  streams := []
  requests := []
  handed := []
  sinkAnswers := sinkAnswers
  sent := []
  received := []
  taken := []
  clients := 1

/-- What `NatsConnSinkStream::start_send` does with the next frame handed to a sender. -/
def sinkResult (w : NatsClient) : StartSend :=
  let answer := w.sinkAnswers w.handed.length
  NatsConnSinkStream.startSend (if answer.stateFree then some w.connection.state else none)
    answer.inner

/-- Modelled from the spec: `NatsClientSender::send` (`sender.rs` is not in `src/`) writes one
frame onto its sink: `start_send` passes it to the installed transport or drops it, and calls
`reconnect_trigger` when the transport answers `ServerDisconnected`. -/
def send (w : NatsClient) (op : Op) : NatsClient :=
  { w with
    handed := w.handed ++ [op]
    sent := w.sent ++ if w.sinkResult.passed then [(w.connection.inner.2, op)] else []
    connection := if w.sinkResult.triggered then w.connection.trigger else w.connection }

/-- Sends `ops` one after the other. -/
def sendAll (w : NatsClient) (ops : List Op) : NatsClient :=
  ops.foldl send w

/-- `unbounded_send` on the control channel `k`. -/
def pushControl (w : NatsClient) (k : Nat) (op : Op) : NatsClient :=
  { w with controlLoops := w.controlLoops.modify (ControlLoop.push op) k }

/-- `unbounded_send` on the subscription channel `tx`. -/
def pushChannel (w : NatsClient) (tx : Nat) (m : SinkMessage) : NatsClient :=
  { w with channels := w.channels.modify (· ++ [m]) tx }

/-- The body of the multiplexer's `for_each`, forwarding to the control channel `controlTx`:
a `MSG` goes to the sink registered for its sid, or nowhere; every other frame goes to the
control channel. -/
def route (w : NatsClient) (controlTx : Nat) : Op → NatsClient
  | .msg m =>
    match w.subsMap.lookup m.sid with
    | some s => w.pushChannel s.tx (.message m)
    | none => w
  | op => w.pushControl controlTx op

/-- Control loop `l` takes `op` from its channel and goes on in state `loop`. -/
def takeFrame (w : NatsClient) (l : Nat) (loop : ControlLoop) (op : Op) : NatsClient :=
  { w with controlLoops := w.controlLoops.set l loop, taken := w.taken ++ [(l, op)] }

/-- `control_receiver`'s loop `l`, in state `loop`, takes its next step: the write of `Connected`
after the `CONNECT` it sent, or the frame at the head of its channel. `take_while` stops the loop
at `CLOSE`; at an `INFO` it sends `CONNECT` and has the write of `Connected` left. -/
def control (w : NatsClient) (l : Nat) (loop : ControlLoop) : Option NatsClient :=
  if !loop.running then none
  else if loop.connectSent then
    some { w with
      controlLoops := w.controlLoops.set l { loop with connectSent := false }
      state := .connected }
  else
    match loop.mailbox with
    | [] => none
    | op :: rest =>
      some <| match op with
        | .close => w.takeFrame l ⟨rest, false, false⟩ .close
        | .ping => { w.takeFrame l { loop with mailbox := rest } .ping with pingAttempts := 0 }.send .pong
        | .pong => { w.takeFrame l { loop with mailbox := rest } .pong with pingAttempts := 0 }
        | .info serverInfo =>
          { w.takeFrame l ⟨rest, true, true⟩ (.info serverInfo) with
            pingAttempts := 0, serverInfo := some serverInfo }.send
            (.connect (generateConnect w.opts serverInfo w.connection.inner.1))
        | .err e => w.takeFrame l { loop with mailbox := rest } (.err e)
        | op => { w.takeFrame l { loop with mailbox := rest } op with pingAttempts := 0 }

/-- One tick of the pinger: while the client is `Connected` it sends `PING` and increments the
counter, whose `inc` answers the value before the increment; past `ping_max_out` it writes
`Disconnected` and calls `trigger_reconnect`. -/
def ping (w : NatsClient) : NatsClient :=
  if w.state = .connected then
    let attempts := w.pingAttempts
    let w := { w.send .ping with pingAttempts := attempts + 1 }
    if attempts > w.opts.pingMaxOut then
      { w with state := .disconnected, connection := w.connection.trigger }
    else w
  else w

/-- The handler's loop over `subs_map` that pushes `CLOSE` into every sink. -/
def closeSinks (w : NatsClient) : NatsClient :=
  { w with
    channels := w.subsMap.entries.foldl (fun channels e => channels.modify (· ++ [.close]) e.2.tx)
      w.channels }

/-- The `SUB` of every entry of the registry. -/
def resubscribeOps (w : NatsClient) : List Op :=
  w.subsMap.entries.map fun e => .sub e.2.cmd

/-- The handler's loop over `subs_map` that sends `SUB` again for every entry. -/
def resubscribe (w : NatsClient) : NatsClient :=
  w.sendAll w.resubscribeOps

/-- The `SUB`s the handler sends once its `NatsClient::connect` has returned: one for every entry
with `subscribe_on_reconnect`, none without. -/
def replayOps (w : NatsClient) : List Op :=
  if w.opts.subscribeOnReconnect then w.resubscribeOps else []

/-- The reconnect-signal handler, from `pc` to its next step. -/
def handle (w : NatsClient) : HandlerPc → Option NatsClient
  | .idle =>
    if w.signalsTaken < w.connection.reconnectHandler then
      some { w with
        signalsTaken := w.signalsTaken + 1
        state := .reconnecting
        handler := if w.opts.subscribeOnReconnect then .closeControl else .closeSinks }
    else none
  | .closeSinks => some { w.closeSinks with handler := .clear }
  | .clear => some { w with subsMap := ∅, handler := .closeControl }
  | .closeControl => some { w.pushControl w.controlTx .close with handler := .resetPings }
  | .resetPings => some { w with pingAttempts := 0, handler := .rebuild }
  | .rebuild =>
    some { w with
      multiplexers := w.multiplexers ++ [⟨w.controlLoops.length, none⟩]
      controlLoops := w.controlLoops ++ [⟨[], true, false⟩]
      handler := .install w.controlLoops.length }
  | .install controlTx => some { w with controlTx := controlTx, handler := .markConnected }
  | .markConnected => some { w with state := .connected, handler := .connect }
  | .connect => none
  | .resubscribe =>
    let w := if w.opts.subscribeOnReconnect then w.resubscribe else w
    some { w with handler := .idle }

/-- The end of the dial of the handler's `NatsClient::connect(recon_opts)`: a success builds one
more `NatsClient` with its own `NatsConnection`; a failure is retried when `ensure_connect` is set
and logged otherwise. -/
def handleConnect (w : NatsClient) (ok : Bool) : NatsClient :=
  if ok then { w with clients := w.clients + 1, handler := .resubscribe }
  else if w.opts.ensureConnect then w
  else { w with handler := .resubscribe }

/-- Some registry entry holds the sending half of channel `tx`: `for_sid` moves it into the
entry, so the channel is closed once no entry has it. -/
def hasSender (w : NatsClient) (tx : Nat) : Bool :=
  w.subsMap.entries.any fun e => e.2.tx == tx

/-- The item at position `pos` of channel `rx`, once it has been pushed. -/
def channelItem (w : NatsClient) (rx pos : Nat) : Option SinkMessage :=
  (w.channels[rx]?).bind (·[pos]?)

/-- What the closure of `subscribe` answers for the message `m` it counted: the message, or the
error of a count that reached the max count. -/
def countedItem (delete : Option RatsioError) (m : Message) : Except RatsioError Message :=
  match delete with
  | some e => .error e
  | none => .ok m

/-- The consumer of stream `j`, in state `st`, polls it: `take_while` ends the stream at `CLOSE`;
a message goes through the closure of `subscribe`, which counts it and answers either the
message or `SubscriptionReachedMaxMsgs`; a drained channel that no sender holds ends the stream,
and an open one makes the poll wait. -/
def poll (w : NatsClient) (j : Nat) (st : SubStream) : Option NatsClient :=
  if st.ended || st.dropped then none
  else
    match w.channelItem st.rx st.pos with
    | some .close => some { w with streams := w.streams.set j { st with ended := true } }
    | some (.message m) =>
      let (subsMap, delete) := countMsg w.subsMap st.sid
      some { w with
        subsMap := subsMap
        streams := w.streams.set j
          { st with pos := st.pos + 1, items := st.items ++ [countedItem delete m] } }
    | none =>
      if w.hasSender st.rx then none
      else some { w with streams := w.streams.set j { st with ended := true } }

/-- The consumer drops stream `j`, in state `st`. -/
def dropStream (w : NatsClient) (j : Nat) (st : SubStream) : Option NatsClient :=
  if st.dropped then none else some { w with streams := w.streams.set j { st with dropped := true } }

/-- `request` once the payload passed the check: `for_sid` registers the inbox sid on a fresh
channel before the future sends anything. -/
def registerRequest (w : NatsClient) (subCmd : Subscribe) (pubCmd : Publish) : NatsClient :=
  { w with
    subsMap := NatsClientMultiplexer.forSid w.subsMap subCmd w.channels.length
    channels := w.channels ++ [[]]
    requests := w.requests ++ [⟨subCmd, pubCmd, w.channels.length, .sendSub⟩] }

/-- `request` of `payload` on `subject`, with the inbox subject and sid that `generate_reply_to`
and `generate_sid` drew: over the server's `max_payload` it fails at once with
`MaxPayloadOverflow` (its record then names no channel of its own). -/
def request (w : NatsClient) (subject : String) (payload : List UInt8) (inbox sid : String) :
    NatsClient :=
  let subCmd : Subscribe := ⟨inbox, sid, none⟩
  let pubCmd : Publish := ⟨subject, payload, some inbox⟩
  match w.serverInfo with
  | some serverInfo =>
    if payload.length > serverInfo.maxPayload then
      { w with
        requests := w.requests ++ [⟨subCmd, pubCmd, w.channels.length,
          .resolved (.error (.maxPayloadOverflow serverInfo.maxPayload))⟩] }
    else w.registerRequest subCmd pubCmd
  | none => w.registerRequest subCmd pubCmd

/-- The future of request `j`, in state `r`: it sends `SUB`, `UNSUB` with max 1 and `PUB`, each
once the previous send is done, and then takes the first item of its inbox stream (`take(1)`):
on a message it removes the inbox sid and resolves with the message; at `CLOSE`, or on a channel
that is empty and closed, it fails with `InnerBrokenChain`. -/
def requestStep (w : NatsClient) (j : Nat) (r : Request) : Option NatsClient :=
  match r.pc with
  | .sendSub =>
    some { w.send (.sub r.subCmd) with requests := w.requests.set j { r with pc := .sendUnsub } }
  | .sendUnsub =>
    some { w.send (.unsub ⟨r.subCmd.sid, some 1⟩) with
      requests := w.requests.set j { r with pc := .sendPub } }
  | .sendPub =>
    some { w.send (.pub r.pubCmd) with requests := w.requests.set j { r with pc := .takeReply } }
  | .takeReply =>
    match w.channelItem r.rx 0 with
    | some (.message m) =>
      some { w with
        subsMap := NatsClientMultiplexer.removeSid w.subsMap r.subCmd.sid
        requests := w.requests.set j { r with pc := .resolved (.ok m) } }
    | some .close =>
      some { w with requests := w.requests.set j { r with pc := .resolved (.error .innerBrokenChain) } }
    | none =>
      if w.hasSender r.rx then none
      else
        some { w with
          requests := w.requests.set j { r with pc := .resolved (.error .innerBrokenChain) } }
  | .resolved _ => none

/-- `publish`: over the server's `max_payload` nothing is sent. -/
def publish (w : NatsClient) (cmd : Publish) : NatsClient :=
  match w.serverInfo with
  | some serverInfo => if cmd.payload.length > serverInfo.maxPayload then w else w.send (.pub cmd)
  | none => w.send (.pub cmd)

/-- One step of the client; `none` when the named task does not exist or waits. -/
def step (w : NatsClient) : ClientAction → Option NatsClient
  | .connection a => (w.connection.step a).map fun c => { w with connection := c }
  | .read d f =>
    match w.multiplexers[d]? with
    | some ⟨controlTx, none⟩ =>
      if f.fromServer ∧ NatsConnSinkStream.ready (some w.connection.state) then
        some { w with
          multiplexers := w.multiplexers.set d ⟨controlTx, some f⟩
          received := w.received ++ [(w.connection.inner.2, f)] }
      else none
    | _ => none
  | .readDisconnected d =>
    match w.multiplexers[d]? with
    | some ⟨_, none⟩ =>
      if NatsConnSinkStream.ready (some w.connection.state) then
        some { w with connection := w.connection.trigger }
      else none
    | _ => none
  | .route d =>
    match w.multiplexers[d]? with
    | some ⟨controlTx, some f⟩ =>
      some ({ w with multiplexers := w.multiplexers.set d ⟨controlTx, none⟩ }.route controlTx f)
    | _ => none
  | .control l => w.controlLoops[l]?.bind (w.control l)
  | .ping => some w.ping
  | .handle => w.handle w.handler
  | .handleConnect ok => if w.handler = .connect then some (w.handleConnect ok) else none
  | .publish cmd => some (w.publish cmd)
  | .subscribe cmd => some { w.send (.sub cmd) with subscribes := w.subscribes ++ [cmd] }
  | .subscribed i =>
    w.subscribes[i]?.map fun cmd =>
      { w with
        subsMap := NatsClientMultiplexer.forSid w.subsMap cmd w.channels.length
        channels := w.channels ++ [[]]
        subscribes := w.subscribes.eraseIdx i
        streams := w.streams ++ [⟨cmd.sid, w.channels.length, 0, false, false, []⟩] }
  | .unsubscribe cmd =>
    some ({ w with subsMap := unsubscribeSubs w.subsMap cmd }.send (.unsub cmd))
  | .poll j => w.streams[j]?.bind (w.poll j)
  | .dropStream j => w.streams[j]?.bind (w.dropStream j)
  | .request subject payload inbox sid => some (w.request subject payload inbox sid)
  | .requestStep j => w.requests[j]?.bind (w.requestStep j)

/-- The states a client can reach from the one `create_client` builds. -/
inductive Reachable : NatsClient → Prop
  | create (opts : NatsClientOptions) (url : Url) (sinkAnswers : Nat → SinkAnswer) :
      Reachable (create opts url sinkAnswers)
  | step {w w' : NatsClient} (a : ClientAction) : Reachable w → w.step a = some w' →
      Reachable w'

/-- Runs the actions in order; `none` as soon as one cannot run. -/
def run (w : NatsClient) : List ClientAction → Option NatsClient
  | [] => some w
  | a :: as => (w.step a).bind (run · as)

theorem Reachable.run {w w' : NatsClient} {as : List ClientAction} (hw : w.Reachable)
    (h : w.run as = some w') : w'.Reachable := by
  induction as generalizing w with
  | nil => cases h; exact hw
  | cons a as ih =>
    simp only [NatsClient.run, Option.bind_eq_some] at h
    obtain ⟨w₁, h₁, h₂⟩ := h
    exact ih (.step a hw h₁) h₂

end NatsClient

end Ratsio
