import Ratsio.Ops

/-!
The client's options and the `CONNECT` that the control loop builds in answer to an `INFO`
(`NatsClient::generate_connect`, `nats_client/client.rs`).
-/

namespace Ratsio

/-- The base64url alphabet: letters, digits, `-` and `_`. -/
def base64UrlAlphabet : List Char :=
  "ABCDEFGHIJKLMNOPQRSTUVWXYZabcdefghijklmnopqrstuvwxyz0123456789-_".toList

/-- Modelled from the spec: `data_encoding::BASE64URL_NOPAD.encode` (an external crate), base64url
without padding: each group of three bytes gives four characters, a last group of two bytes
three, and a last byte two. -/
def base64UrlNoPad (bytes : List UInt8) : String :=
  String.mk (go (bytes.map UInt8.toNat))
where
  digit (n : Nat) : Char := base64UrlAlphabet.getD (n % 64) 'A'
  go : List Nat → List Char
    | a :: b :: c :: rest =>
      digit (a / 4) :: digit (a * 16 + b / 16) :: digit (b * 4 + c / 64) :: digit c :: go rest
    | [a, b] => [digit (a / 4), digit (a * 16 + b / 16), digit (b * 4)]
    | [a] => [digit (a / 4), digit (a * 16)]
    | [] => []

example : base64UrlNoPad [77, 97, 110, 77, 97] = "TWFuTWE" := by decide

/-- Modelled from the spec: the `user_jwt` option (`NatsClientOptions` is not in `src/`): the JWT,
and the callback that signs the server's nonce. -/
structure UserJwt where
  jwt : String
  signer : List UInt8 → Except String (List UInt8)

/-- Modelled from the spec: `NatsClientOptions` (not in `src/`), the options the modelled code
reads. `cluster_uris` and `tls_required` only feed the dial, and `ping_interval` and
`reconnect_timeout` only the timers, which the models leave open. -/
structure NatsClientOptions where
  verbose : Bool
  pedantic : Bool
  tlsRequired : Bool
  authToken : String
  username : String
  password : String
  name : String
  echo : Bool
  userJwt : Option UserJwt
  pingMaxOut : Nat
  ensureConnect : Bool
  subscribeOnReconnect : Bool

namespace NatsClient

/-- `generate_connect`: the `CONNECT` for the server info `serverInfo`, sent over the transport
dialed at `nodeUrl`. Empty strings become absent fields; with a user JWT the nonce is signed, and
a failed signature leaves `sig` out; credentials in the URL replace the configured ones. -/
def generateConnect (opts : NatsClientOptions) (serverInfo : ServerInfo) (nodeUrl : Url) :
    Connect :=
  let notEmpty := fun x : String => !x.isEmpty
  let (sig, jwt) : Option String × Option String :=
    match opts.userJwt with
    | some jwtopt =>
      match jwtopt.signer serverInfo.nonce.toUTF8.toList with
      | .ok sigbytes => (some (base64UrlNoPad sigbytes), some jwtopt.jwt)
      | .error _ => (none, some jwtopt.jwt)
    | none => (none, none)
  let connect : Connect :=
    { verbose := opts.verbose
      pedantic := opts.pedantic
      tlsRequired := opts.tlsRequired
      authToken := (some opts.authToken).filter notEmpty
      user := (some opts.username).filter notEmpty
      pass := (some opts.password).filter notEmpty
      name := (some opts.name).filter notEmpty
      lang := "rust"
      version := "0.2.0"
      protocol := 1
      echo := opts.echo
      sig := sig
      jwt := jwt }
  let connect := match nodeUrl.password with
    | some password => { connect with pass := some password }
    | none => connect
  if !nodeUrl.username.isEmpty then { connect with user := some nodeUrl.username } else connect

end NatsClient

end Ratsio
