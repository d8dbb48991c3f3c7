import Ratsio.Ops

/-!
The dial of a cluster (`net/connection.rs`). The closure of `then` in `get_conn_inner`'s loop
breaks on a failed dial as on a successful one, so the loop ends at its first candidate
(`getConnInner_cons`).
-/

namespace Ratsio

/-- Modelled from the spec: `url::Url::host_str` (an external crate). The model's `Url` keeps an
empty `host` for a URL without one. -/
def Url.hostStr (url : Url) : Option String :=
  if url.host.isEmpty then none else some url.host

/-- The two dials under `connect` and `connect_tls`, `NatsConnectionInner::connect_tcp` and
`NatsConnectionInner::upgrade_tcp_to_tls` (`net/inner.rs`, not in `src/`): each outcome is left
open, a transport of type `Inner` or an error. -/
structure Dialer (Addr Inner : Type) where
  connectTcp : Addr → Except RatsioError Inner
  upgradeTcpToTls : String → Inner → Except RatsioError Inner

/-- `futures::future::Loop`, what one turn of a `loop_fn` answers. -/
inductive Loop (T S : Type) where
  | break (t : T)
  | continue (s : S)
  deriving DecidableEq, Repr

namespace NatsConnection

variable {Addr Inner : Type} (d : Dialer Addr Inner)

/-- `connect`: a raw TCP transport to `addr`. -/
def connect (addr : Addr) : Except RatsioError Inner :=
  d.connectTcp addr

/-- `connect_tls`: a TCP transport to `addr`, upgraded to TLS for `host`. -/
def connectTls (host : String) (addr : Addr) : Except RatsioError Inner :=
  (d.connectTcp addr).bind (d.upgradeTcpToTls host)

/-- `get_conn_step`: dials the first candidate of `clusterAddrs`, over TLS when `tlsRequired`,
which needs the candidate's URL to have a host. -/
def getConnStep (clusterAddrs : List (Url × Addr)) (tlsRequired : Bool) :
    Except RatsioError (Url × Inner) :=
  match clusterAddrs with
  | [] => .error .noRouteToHostError
  | (nodeUrl, nodeAddr) :: _ =>
    if tlsRequired then
      match nodeUrl.hostStr with
      | some host => (connectTls d host nodeAddr).map (nodeUrl, ·)
      | none => .error .noRouteToHostError
    else
      (connect d nodeAddr).map (nodeUrl, ·)

/-- The body of `get_conn_inner`'s `loop_fn` on the candidates `clusterAddrs`:
`get_conn_step(..).then(|inner| Ok(Loop::Break(inner))).or_else(..)`. The closure of `then`
takes the dial's outcome, success or failure, and `or_else` continues with `rem_addrs`, the
candidates after the first, on an error of what `then` answered. -/
def getConnLoopBody (clusterAddrs : List (Url × Addr)) (tlsRequired : Bool) :
    Except RatsioError (Loop (Except RatsioError (Url × Inner)) (List (Url × Addr))) :=
  let remAddrs := clusterAddrs.drop 1
  let inner := getConnStep d clusterAddrs tlsRequired
  (Except.ok (.break inner)).tryCatch fun _ =>
    if remAddrs.isEmpty then .error .noRouteToHostError else .ok (.continue remAddrs)

/-- The `loop_fn` of `get_conn_inner`, which runs its body again on the candidates a `Continue`
names, always the ones after the first, and ends with the value of a `Break`. -/
def getConnLoop (tlsRequired : Bool) :
    List (Url × Addr) → Except RatsioError (Except RatsioError (Url × Inner))
  | [] => .error .noRouteToHostError
  | c :: rest =>
    match getConnLoopBody d (c :: rest) tlsRequired with
    | .ok (.break inner) => .ok inner
    | .ok (.continue _) => getConnLoop tlsRequired rest
    | .error e => .error e

/-- `get_conn_inner`: `NoRouteToHostError` at once for no candidate, and otherwise what the loop
ends with; the dial's outcome that the loop breaks with is the call's outcome. -/
def getConnInner (clusterAddrs : List (Url × Addr)) (tlsRequired : Bool) :
    Except RatsioError (Url × Inner) :=
  if clusterAddrs.isEmpty then .error .noRouteToHostError
  else (getConnLoop d tlsRequired clusterAddrs).bind id

theorem getConnLoopBody_eq (clusterAddrs : List (Url × Addr)) (tlsRequired : Bool) :
    getConnLoopBody d clusterAddrs tlsRequired =
      .ok (.break (getConnStep d clusterAddrs tlsRequired)) :=
  rfl

theorem getConnInner_cons (c : Url × Addr) (rest : List (Url × Addr)) (tlsRequired : Bool) :
    getConnInner d (c :: rest) tlsRequired = getConnStep d [c] tlsRequired := by
  simp only [getConnInner, getConnLoop, getConnLoopBody_eq, List.isEmpty_cons]
  rfl

end NatsConnection

def loopback : Url := ⟨"127.0.0.1", "", none⟩

def refusingFirst (e : RatsioError) : Dialer Nat Nat :=
  ⟨fun addr => if addr = 1 then .error e else .ok addr, fun _ inner => .ok inner⟩

/-- When the TCP dial of the first candidate fails, `get_conn_inner` answers that dial's own
error, with or without TLS, although the dial of the second candidate succeeds: the loop never
gets to it. -/
theorem get_conn_inner_stops_at_first_failure (e : RatsioError) (tlsRequired : Bool) :
    NatsConnection.getConnInner (refusingFirst e) [(loopback, 1), (loopback, 2)] tlsRequired =
      .error e ∧
    NatsConnection.getConnStep (refusingFirst e) [(loopback, 2)] tlsRequired =
      .ok (loopback, 2) := by
  cases tlsRequired <;> exact ⟨rfl, rfl⟩

end Ratsio
