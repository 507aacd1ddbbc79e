import Rama.Proxy.V1
import Rama.Proxy.V2

/-!
# The PROXY client layer

`HaProxyLayer` wraps a connecting service. After the inner service has established
a connection, the layer's service finds the source address in the context, checks
that source and destination are of one IP family, encodes a PROXY header, writes it
to the connection with one `write_all`, and returns what the inner service returned.

The transport and the version are type parameters in the source. The transport is
a phantom marker that the v2 service reads through `v2_protocol`; it is kept here as
a value index of the layer and service types. The version carries data: nothing for
version one, the optional payload for version two. As in the source, `v1` exists
only on a TCP layer of version two, and `payload` only on version two.

The two `serve` bodies repeat the source precedence and the family match. Each is
kept here as the source writes it, and one run lemma for each (`serveOne_run`,
`serveTwo_run`) says what a call does, in terms of the source the spec resolves
(`resolveSource`).
-/

set_option autoImplicit false

namespace Rama.Proxy.Client

open Rama.Net Rama.Service

/-! ## Markers -/

/-- `protocol::Tcp` or `protocol::Udp`. -/
inductive Protocol where
  | Tcp
  | Udp
  deriving DecidableEq

/-- `Protocol::v2_protocol`. -/
def Protocol.v2Protocol : Protocol → V2.Protocol
  | .Tcp => .Stream
  | .Udp => .Datagram

namespace version

/-- `version::One`. -/
structure One where
  deriving DecidableEq

/-- `version::Two`, with the payload to attach, none by default. -/
structure Two where
  payload : Option (List UInt8)
  deriving DecidableEq

/-- `Default for version::Two`. -/
def Two.default : Two := ⟨none⟩

end version

/-! ## Layer and service -/

/-- A connecting service: the inner service of the layer. -/
abbrev Connector (State Req : Type) :=
  Context State → Req → Except BoxError (EstablishedClientConnection State Req)

/-- `HaProxyLayer<P, V>`. -/
structure HaProxyLayer (P : Protocol) (V : Type) where
  version : V

/-- `HaProxyService<S, P, V>`. -/
structure HaProxyService (S : Type) (P : Protocol) (V : Type) where
  inner : S
  version : V

/-- `HaProxyLayer::tcp`. -/
def HaProxyLayer.tcp : HaProxyLayer .Tcp version.Two := ⟨version.Two.default⟩

/-- `HaProxyLayer::v1`: the payload, if any, is dropped. -/
def HaProxyLayer.v1 (_ : HaProxyLayer .Tcp version.Two) : HaProxyLayer .Tcp version.One :=
  ⟨{}⟩

/-- `HaProxyLayer::udp`. -/
def HaProxyLayer.udp : HaProxyLayer .Udp version.Two := ⟨version.Two.default⟩

/-- `HaProxyLayer::payload`. -/
def HaProxyLayer.payload {P : Protocol} (self : HaProxyLayer P version.Two)
    (payload : List UInt8) : HaProxyLayer P version.Two :=
  ⟨{ self.version with payload := some payload }⟩

/-- `Layer::layer`: the service over `inner`, with the layer's version. -/
def HaProxyLayer.layer {S : Type} {P : Protocol} {V : Type} (self : HaProxyLayer P V)
    (inner : S) : HaProxyService S P V :=
  ⟨inner, self.version⟩

/-- `HaProxyService::tcp`. -/
def HaProxyService.tcp {S : Type} (inner : S) : HaProxyService S .Tcp version.Two :=
  ⟨inner, version.Two.default⟩

/-- `HaProxyService::v1`. -/
def HaProxyService.v1 {S : Type} (self : HaProxyService S .Tcp version.Two) :
    HaProxyService S .Tcp version.One :=
  ⟨self.inner, {}⟩

/-- `HaProxyService::udp`. -/
def HaProxyService.udp {S : Type} (inner : S) : HaProxyService S .Udp version.Two :=
  ⟨inner, version.Two.default⟩

/-- `HaProxyService::payload`. -/
def HaProxyService.payload {S : Type} {P : Protocol} (self : HaProxyService S P version.Two)
    (payload : List UInt8) : HaProxyService S P version.Two :=
  ⟨self.inner, { self.version with payload := some payload }⟩

/-! ## Serving -/

section Serve

variable {State Req : Type} {P : Protocol}

/-- `Service::serve` of `HaProxyService<S, P, version::One>`. -/
def HaProxyService.serveOne (self : HaProxyService (Connector State Req) P version.One)
    (ctx : Context State) (req : Req) : IoM (EstablishedClientConnection State Req) := do
  let ⟨ctx, req, conn⟩ ← IoM.ofExcept (self.inner ctx req)
  let dst := conn.addr
  let some src := (ctx.extensions.forwarded.bind (·.clientSocketAddr)) <|>
      (ctx.extensions.socketInfo.map (·.peerAddr))
    | throw (.fromDisplay "PROXY client (v1): missing src socket address")
  let addresses ← match src.ip, dst.ip with
    | .V4 srcIp, .V4 dstIp => pure (V1.Addresses.newTcp4 srcIp dstIp src.port dst.port)
    | .V6 srcIp, .V6 dstIp => pure (V1.Addresses.newTcp6 srcIp dstIp src.port dst.port)
    | _, _ => throw (.fromDisplay "PROXY client (v1): IP version mismatch between src and dest")
  (conn.writeAll (V1.utf8Bytes addresses.toString)).context "PROXY client (v1): write addresses"
  pure ⟨ctx, req, conn⟩

/-- `Service::serve` of `HaProxyService<S, P, version::Two>`. -/
def HaProxyService.serveTwo (self : HaProxyService (Connector State Req) P version.Two)
    (ctx : Context State) (req : Req) : IoM (EstablishedClientConnection State Req) := do
  let ⟨ctx, req, conn⟩ ← IoM.ofExcept (self.inner ctx req)
  let dst := conn.addr
  let some src := (ctx.extensions.forwarded.bind (·.clientSocketAddr)) <|>
      (ctx.extensions.socketInfo.map (·.peerAddr))
    | throw (.fromDisplay "PROXY client (v2): missing src socket address")
  let builder ← match src.ip, dst.ip with
    | .V4 srcIp, .V4 dstIp =>
      pure (V2.Builder.withAddresses (V2.versionCommand .Two .Proxy) P.v2Protocol
        (.IPv4 (V2.IPv4.new srcIp dstIp src.port dst.port)))
    | .V6 srcIp, .V6 dstIp =>
      pure (V2.Builder.withAddresses (V2.versionCommand .Two .Proxy) P.v2Protocol
        (.IPv6 (V2.IPv6.new srcIp dstIp src.port dst.port)))
    | _, _ => throw (.fromDisplay "PROXY client (v2): IP version mismatch between src and dest")
  let builder ← match self.version.payload with
    | some payload => IoM.ofExcept ((builder.writePayload payload).context
        "PROXY client (v2): write custom binary payload to to header")
    | none => pure builder
  let header ← IoM.ofExcept (builder.build.context "PROXY client (v2): encode header")
  (conn.writeAll header).context "PROXY client (v2): write header"
  pure ⟨ctx, req, conn⟩

end Serve

/-! ## What a call writes

The spec describes the header by the source address it resolves and by the bytes of
each version. These definitions say it in the spec's terms; the run lemmas below
connect them to the two `serve` bodies. -/

section Header

variable {State Req : Type}

/-- The source address: the forwarded client address if there is one, else the peer
address of the socket. -/
def resolveSource (ctx : Context State) : Option SocketAddr :=
  match ctx.extensions.forwarded.bind Forwarded.clientSocketAddr with
  | some src => some src
  | none => ctx.extensions.socketInfo.map SocketInfo.peerAddr

theorem orElse_eq_resolveSource (ctx : Context State) :
    ((ctx.extensions.forwarded.bind (·.clientSocketAddr)) <|>
      (ctx.extensions.socketInfo.map (·.peerAddr))) = resolveSource ctx := by
  unfold resolveSource
  cases ctx.extensions.forwarded.bind Forwarded.clientSocketAddr <;> rfl

/-- The v1 line for a source and a destination: the family of the source, both
addresses in their standard text and both ports in decimal. -/
def v1Line (src dst : SocketAddr) : String :=
  "PROXY " ++ (if src.ip.isIpv4 then "TCP4" else "TCP6") ++ " " ++ src.ip.toString ++ " " ++
    dst.ip.toString ++ " " ++ Nat.repr src.port.toNat ++ " " ++ Nat.repr dst.port.toNat ++ "\r\n"

/-- The length of the v2 address block of a family: 12 bytes for IPv4, 36 for IPv6. -/
def addressBlockLength (ip : IpAddr) : Nat := if ip.isIpv4 then 12 else 36

/-- The transport's number in the low nibble of the family byte. -/
def protocolNumber : Protocol → UInt8
  | .Tcp => 1
  | .Udp => 2

/-- The v2 header for a source, a destination and a payload: the signature, the
version and command byte `0x21`, the family and transport byte, the big-endian length
of the address block and payload, both addresses, both ports, and the payload. -/
def v2Header (protocol : Protocol) (src dst : SocketAddr) (payload : List UInt8) :
    List UInt8 :=
  let length := addressBlockLength src.ip + payload.length
  V2.PROTOCOL_PREFIX ++
    [(0x21 : UInt8),
      ((if src.ip.isIpv4 then 1 else 2 : UInt8) <<< 4) ||| protocolNumber protocol] ++
    [(length / 256).toUInt8, (length % 256).toUInt8] ++
    src.ip.octets ++ dst.ip.octets ++ src.port.toBeBytes ++ dst.port.toBeBytes ++ payload

/-- A builder holding the version, family, transport and addresses of a pair encodes
the header of that pair. -/
theorem build_eq_v2Header (protocol : Protocol) (src dst : SocketAddr) (builder : V2.Builder)
    (version : builder.versionCommand = 0x21)
    (family : builder.addressFamilyProtocol =
      ((if src.ip.isIpv4 then 1 else 2 : UInt8) <<< 4) ||| protocolNumber protocol)
    (block : builder.addresses.toBytes =
      src.ip.octets ++ dst.ip.octets ++ src.port.toBeBytes ++ dst.port.toBeBytes)
    (reserved : builder.addresses.len = addressBlockLength src.ip) :
    builder.build = .ok (v2Header protocol src dst builder.payload) := by
  have small := builder.length_le
  simp only [V2.Builder.build, V2.Builder.length, v2Header, block, reserved, family, version,
    UInt16.toBeBytes, Nat.toNat_toUInt16,
    Nat.mod_eq_of_lt (reserved ▸ Nat.lt_succ_of_le small), List.append_assoc]

/-- Encoding a builder and writing the header is one write of the header it encodes. -/
theorem run_build_writeAll {α : Type} (builder : V2.Builder) (header : List UInt8)
    (built : builder.build = .ok header) (conn : ClientConnection) (encode write : String)
    (result : α) (writes : Writes) :
    (IoM.ofExcept (builder.build.context encode) >>= fun header =>
        (conn.writeAll header).context write >>= fun _ => pure result).run writes =
      writeOutcome conn header write result writes := by
  simp only [built, Except.context_ok, IoM.ofExcept_ok, pure_bind,
    ClientConnection.run_writeAll_context_pure]

end Header

/-! ## Run lemmas -/

section Runs

variable {State Req : Type} {P : Protocol}

/-- **A v1 call.** After the inner service it fails without writing when no source
resolves or the families differ, and otherwise writes the v1 line once and returns
what the inner service returned. -/
theorem serveOne_run (self : HaProxyService (Connector State Req) P version.One)
    (ctx : Context State) (req : Req) (writes : Writes) :
    (self.serveOne ctx req).run writes =
      match self.inner ctx req with
      | .error error => .error error writes
      | .ok ⟨ctx', req', conn⟩ =>
        match resolveSource ctx' with
        | none => .error (.fromDisplay "PROXY client (v1): missing src socket address") writes
        | some src =>
          if src.ip.isIpv4 = conn.addr.ip.isIpv4 then
            writeOutcome conn (V1.utf8Bytes (v1Line src conn.addr))
              "PROXY client (v1): write addresses" ⟨ctx', req', conn⟩ writes
          else .error (.fromDisplay "PROXY client (v1): IP version mismatch between src and dest")
            writes := by
  unfold HaProxyService.serveOne
  rcases self.inner ctx req with error | ⟨ctx', req', conn⟩
  · rfl
  · simp only [IoM.ofExcept_ok, pure_bind, orElse_eq_resolveSource]
    rcases resolveSource ctx' with _ | ⟨ip, port⟩
    · rfl
    · obtain ⟨dstIp, dstPort⟩ := conn.addr
      cases ip <;> cases dstIp
      all_goals
        simp only [pure_bind, ClientConnection.run_writeAll_context_pure, IpAddr.isIpv4,
          if_true, Bool.false_eq_true, Bool.true_eq_false, if_false]
      all_goals rfl

/-- **A v2 call.** After the inner service it fails without writing when no source
resolves, when the families differ, or when the address block and the payload do not
fit the 16-bit length; otherwise it writes the v2 header once and returns what the
inner service returned. -/
theorem serveTwo_run (self : HaProxyService (Connector State Req) P version.Two)
    (ctx : Context State) (req : Req) (writes : Writes) :
    (self.serveTwo ctx req).run writes =
      match self.inner ctx req with
      | .error error => .error error writes
      | .ok ⟨ctx', req', conn⟩ =>
        match resolveSource ctx' with
        | none => .error (.fromDisplay "PROXY client (v2): missing src socket address") writes
        | some src =>
          if src.ip.isIpv4 = conn.addr.ip.isIpv4 then
            if addressBlockLength src.ip + (self.version.payload.getD []).length ≤ 65535 then
              writeOutcome conn (v2Header P src conn.addr (self.version.payload.getD []))
                "PROXY client (v2): write header" ⟨ctx', req', conn⟩ writes
            else .error (.context "PROXY client (v2): write custom binary payload to to header"
              (.io ⟨"payload too large for the header length"⟩)) writes
          else .error (.fromDisplay "PROXY client (v2): IP version mismatch between src and dest")
            writes := by
  unfold HaProxyService.serveTwo
  rcases self.inner ctx req with error | ⟨ctx', req', conn⟩
  · rfl
  · simp only [IoM.ofExcept_ok, pure_bind, orElse_eq_resolveSource]
    rcases resolveSource ctx' with _ | ⟨ip, port⟩
    · rfl
    · obtain ⟨dstIp, dstPort⟩ := conn.addr
      rcases self with ⟨inner, ⟨_ | payload⟩⟩ <;> cases ip <;> cases dstIp <;> try rfl
      all_goals
        simp only [pure_bind, IpAddr.isIpv4, addressBlockLength, if_true, Bool.false_eq_true,
          if_false, Option.getD_none, Option.getD_some, List.length_nil]
      case some.V4.V4 | some.V6.V6 =>
        split_ifs with fits
        · rw [V2.writePayload_of_fits _ _ (by exact fits)]
          simp only [Except.context_ok, IoM.ofExcept_ok, pure_bind]
          exact run_build_writeAll _ _
            (build_eq_v2Header P _ _ _ (by rfl) (by cases P <;> rfl) (by rfl) (by rfl)) _ _ _ _ _
        · rw [V2.writePayload_of_not_fits _ _ (by exact fits)]
          rfl
      all_goals
        exact run_build_writeAll _ _
          (build_eq_v2Header P _ _ _ (by rfl) (by cases P <;> rfl) (by rfl) (by rfl)) _ _ _ _ _

end Runs

end Rama.Proxy.Client
