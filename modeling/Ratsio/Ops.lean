import Mathlib.Data.List.AList

/-!
The wire vocabulary of the client (`crate::ops`) and its errors (`crate::error`), neither under
`src/`: the fields the modelled code reads.
-/

namespace Ratsio

/-- Outcomes compare by their constructor and payload, so that runs of the model are checked by
`decide`. -/
instance instDecidableEqExcept {ε α : Type} [DecidableEq ε] [DecidableEq α] :
    DecidableEq (Except ε α)
  | .error a, .error b => decidable_of_iff (a = b) ⟨congrArg _, Except.error.inj⟩
  | .ok a, .ok b => decidable_of_iff (a = b) ⟨congrArg _, Except.ok.inj⟩
  | .error _, .ok _ => isFalse nofun
  | .ok _, .error _ => isFalse nofun

/-- Modelled from the spec: `url::Url` (an external crate), with the parts that
`generate_connect` reads. `username` is empty when the URL has no user. -/
structure Url where
  host : String
  username : String
  password : Option String
  deriving DecidableEq, Repr

/-- Modelled from the spec: `crate::ops::Message` (not in `src/`), an inbound `MSG`. -/
structure Message where
  subject : String
  sid : String
  replyTo : Option String
  payload : List UInt8
  deriving DecidableEq, Repr

/-- Modelled from the spec: `crate::ops::Publish` (not in `src/`). -/
structure Publish where
  subject : String
  payload : List UInt8
  replyTo : Option String
  deriving DecidableEq, Repr

/-- Modelled from the spec: `crate::ops::Subscribe` (not in `src/`). -/
structure Subscribe where
  subject : String
  sid : String
  queueGroup : Option String
  deriving DecidableEq, Repr

/-- Modelled from the spec: `crate::ops::UnSubscribe` (not in `src/`). -/
structure UnSubscribe where
  sid : String
  maxMsgs : Option Nat
  deriving DecidableEq, Repr

/-- Modelled from the spec: `crate::ops::ServerInfo` (not in `src/`), with the fields the
control loop and `generate_connect` read. -/
structure ServerInfo where
  maxPayload : Nat
  connectUrls : List String
  nonce : String
  deriving DecidableEq, Repr

/-- Modelled from the spec: `crate::ops::Connect` (not in `src/`), the `CONNECT` payload. -/
structure Connect where
  verbose : Bool
  pedantic : Bool
  tlsRequired : Bool
  authToken : Option String
  user : Option String
  pass : Option String
  name : Option String
  lang : String
  version : String
  protocol : Nat
  echo : Bool
  sig : Option String
  jwt : Option String
  deriving DecidableEq, Repr

/-- Modelled from the spec: `crate::ops::Op` (not in `src/`), one frame. `close` is the local
sentinel, never on the wire. -/
inductive Op where
  | connect (c : Connect)
  | info (s : ServerInfo)
  | msg (m : Message)
  | pub (p : Publish)
  | sub (s : Subscribe)
  | unsub (u : UnSubscribe)
  | ping
  | pong
  | err (text : String)
  | close
  deriving DecidableEq, Repr

/-- Modelled from the spec: `crate::error::RatsioError` (not in `src/`), the kinds the modelled
code raises. -/
inductive RatsioError where
  | noRouteToHostError
  | serverDisconnected
  | maxPayloadOverflow (limit : Nat)
  | subscriptionReachedMaxMsgs (count : Nat)
  | innerBrokenChain
  deriving DecidableEq, Repr

end Ratsio
