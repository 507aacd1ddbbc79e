import Rama.Net.Address

/-!
# The request context

Every service call receives a context: the user's state and an extension map that
holds at most one value of each type. The modelled services read two extension
types, `Forwarded` and `SocketInfo`, and insert a third, `UserAgent`; the map is
kept as one optional slot for each of them, which is the closed form of a map
keyed by type. A slot holds at most one value by construction, and inserting a
value replaces the one before it.

`Forwarded` and `UserAgent` come from crates that are not among the sources. Of a
`Forwarded` the PROXY layer reads only `client_socket_addr()`, and of a `UserAgent`
the classifier sets only the header it was built from and three settings a request
may overwrite.
-/

set_option autoImplicit false

namespace Rama.Service

open Rama.Net

/-! ## Extensions -/

/-- Modelled from the spec: `Forwarded` is not in the sources; the PROXY layer reads
only what its `client_socket_addr()` returns, which is kept here. -/
structure Forwarded where
  clientSocketAddr : Option SocketAddr
  deriving DecidableEq

/-- `SocketInfo`, through the peer address the PROXY layer reads. -/
structure SocketInfo where
  peerAddr : SocketAddr
  deriving DecidableEq

/-- `rama_ua::HttpAgent`. -/
inductive HttpAgent where
  | Chromium
  | Firefox
  | Safari
  | Preserve
  deriving DecidableEq

/-- `rama_ua::TlsAgent`. -/
inductive TlsAgent where
  | Rustls
  | Boringssl
  | Nss
  | Preserve
  deriving DecidableEq

/-- Modelled from the spec: `rama_ua::UserAgent` is not in the sources. A user agent
is parsed from its header text, so what parsing finds is a function of `header`; the
other fields are the settings a request may overwrite. -/
structure UserAgent where
  header : String
  httpAgentOverwrite : Option HttpAgent
  tlsAgentOverwrite : Option TlsAgent
  preserveUaHeader : Bool
  deriving DecidableEq

/-- `UserAgent::new`: the parsed header, with nothing overwritten. -/
def UserAgent.new (header : String) : UserAgent := ⟨header, none, none, false⟩

/-- `UserAgent::with_http_agent`. -/
def UserAgent.withHttpAgent (ua : UserAgent) (agent : HttpAgent) : UserAgent :=
  { ua with httpAgentOverwrite := some agent }

/-- `UserAgent::with_tls_agent`. -/
def UserAgent.withTlsAgent (ua : UserAgent) (agent : TlsAgent) : UserAgent :=
  { ua with tlsAgentOverwrite := some agent }

/-- `UserAgent::with_preserve_ua_header`. -/
def UserAgent.withPreserveUaHeader (ua : UserAgent) (preserve : Bool) : UserAgent :=
  { ua with preserveUaHeader := preserve }

/-- `rama_ua::UserAgentOverwrites`, as a request's overwrite header carries it. -/
structure UserAgentOverwrites where
  ua : Option String
  http : Option HttpAgent
  tls : Option TlsAgent
  preserveUa : Option Bool
  deriving DecidableEq

/-- The extension map, one slot for each extension type the modelled services use. -/
structure Extensions where
  forwarded : Option Forwarded
  socketInfo : Option SocketInfo
  userAgent : Option UserAgent
  deriving DecidableEq

/-! ## Context -/

/-- `Context<State>`: the shared state and the extension map. -/
structure Context (State : Type) where
  state : State
  extensions : Extensions

/-- `Context::insert`, at the one extension type a modelled service inserts. -/
def Context.insert {State : Type} (ctx : Context State) (ua : UserAgent) : Context State :=
  { ctx with extensions := { ctx.extensions with userAgent := some ua } }

end Rama.Service
