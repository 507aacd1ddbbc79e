import Rama.Proxy.Client

/-!
# What the PROXY client writes

The run lemmas of `Rama.Proxy.Client` say what one call of either service does. This
module draws the contract from them.

Both versions resolve the same source from the context the inner service returned,
and both fail before writing when no source resolves or when source and destination
are of different families; version two also fails before writing when the address
block and the payload do not fit its 16-bit length field
(`serve_fails_before_writing_iff`). Otherwise a call writes once: version one the
ASCII line of the pair, which has the shape of the v1 grammar and at most 104 bytes
(`v1Line_wellFormed`, `serveOne_writes_v1Line`), version two the binary header of
the pair and payload (`serveTwo_writes_v2Header`), whose length field holds the
length itself, never a value wrapped modulo `2^16`
(`serveTwo_rejects_iff_length_overflows`). What either version writes reads back:
version one's line as the pair (`serveOne_line_parses`), version two's header as the
pair and the payload (`serveTwo_header_parses`).

Over every call, an error is the inner service's or carries the layer's prefix for
its version (`serve_errors_name_layer`), and a forwarded client address wins over the
socket's peer (`serve_prefers_forwarded_source`).
-/

set_option autoImplicit false

namespace Rama.Proxy.Client

open Rama.Net Rama.Service

/-! ## The v1 line -/

theorem v1Line_eq (src dst : SocketAddr) :
    v1Line src dst = "PROXY TCP" ++ (if src.ip.isIpv4 then '4' else '6').toString ++ " " ++
      src.ip.toString ++ " " ++ dst.ip.toString ++ " " ++ Nat.repr src.port.toNat ++ " " ++
      Nat.repr dst.port.toNat ++ "\r\n" := by
  unfold v1Line
  split <;> rfl

/-- **Every v1 line has the shape of the v1 grammar, is ASCII, and takes at most 104
bytes.** -/
theorem v1Line_wellFormed (src dst : SocketAddr) :
    V1.MatchesV1Line (v1Line src dst) ∧ V1.IsAscii (v1Line src dst) ∧
      (V1.utf8Bytes (v1Line src dst)).length ≤ 104 := by
  rw [v1Line_eq]
  exact V1.line_wellFormed _ _ (by split <;> decide) (ip_isAddressText _) (ip_isAddressText _)
    (length_ip_toString_le _) (length_ip_toString_le _)

/-- The lines the source's `test_v1_tcp` expects. -/
example :
    v1Line ⟨.V4 (Ipv4Addr.new 127 0 1 2), 80⟩ ⟨.V4 (Ipv4Addr.new 192 168 1 101), 443⟩ =
    "PROXY TCP4 127.0.1.2 192.168.1.101 80 443\r\n" := by decide

example :
    v1Line ⟨.V6 (Ipv6Addr.new 0x1234 0x5678 0x90ab 0xcdef 0xfedc 0xba09 0x8765 0x4321), 443⟩
      ⟨.V6 (Ipv6Addr.new 0x4321 0x8765 0xba09 0xfedc 0xcdef 0x90ab 0x5678 0x1234), 65535⟩ =
    "PROXY TCP6 1234:5678:90ab:cdef:fedc:ba09:8765:4321 " ++
      "4321:8765:ba09:fedc:cdef:90ab:5678:1234 443 65535\r\n" := by decide

/-- The v1 line of a same-family pair is the text of the v1 record of the pair. -/
theorem v1Line_eq_toString (src dst : SocketAddr) (sameFamily : src.ip.isIpv4 = dst.ip.isIpv4) :
    ∃ addresses : V1.Addresses, v1Line src dst = addresses.toString ∧
      addresses.source = src ∧ addresses.destination = dst := by
  obtain ⟨source | source, sourcePort⟩ := src <;>
    obtain ⟨destination | destination, port⟩ := dst
  case mk.V4.mk.V4 =>
    refine ⟨.Tcp4 source destination sourcePort port, ?_, rfl, rfl⟩
    simp only [v1Line, V1.Addresses.toString, IpAddr.isIpv4, IpAddr.toString, if_true]
    rw [show "PROXY TCP4 " = "PROXY " ++ "TCP4" ++ " " from rfl]
  case mk.V6.mk.V6 =>
    refine ⟨.Tcp6 source destination sourcePort port, ?_, rfl, rfl⟩
    simp only [v1Line, V1.Addresses.toString, IpAddr.isIpv4, IpAddr.toString,
      Bool.false_eq_true, if_false]
    rw [show "PROXY TCP6 " = "PROXY " ++ "TCP6" ++ " " from rfl]
  all_goals cases sameFamily

/-- The v1 line of a same-family pair reads back, from its bytes, as the pair. -/
theorem parse_v1Line (src dst : SocketAddr) (sameFamily : src.ip.isIpv4 = dst.ip.isIpv4) :
    ∃ addresses,
      V1.Addresses.parse (V1.asciiChars (V1.utf8Bytes (v1Line src dst))) = some addresses ∧
        addresses.source = src ∧ addresses.destination = dst := by
  obtain ⟨addresses, line, fromSource, toDestination⟩ := v1Line_eq_toString src dst sameFamily
  rw [V1.asciiChars_utf8Bytes (v1Line_wellFormed src dst).2.1, line]
  exact ⟨addresses, V1.Addresses.parse_toString addresses, fromSource, toDestination⟩

/-! ## The v2 header -/

theorem declaredLength_v2Header (protocol : Protocol) (src dst : SocketAddr)
    (payload : List UInt8) (fits : addressBlockLength src.ip + payload.length ≤ 65535) :
    V2.declaredLength (v2Header protocol src dst payload) =
      addressBlockLength src.ip + payload.length := by
  simp only [V2.declaredLength, v2Header, V2.PROTOCOL_PREFIX, List.append_assoc,
    List.cons_append, List.nil_append, List.getD_cons_succ, List.getD_cons_zero,
    Nat.toNat_toUInt8]
  omega

/-- The source a v2 address block names. -/
def sourceOf : V2.Addresses → SocketAddr
  | .IPv4 block => ⟨.V4 block.sourceAddress, block.sourcePort⟩
  | .IPv6 block => ⟨.V6 block.sourceAddress, block.sourcePort⟩

/-- The destination a v2 address block names. -/
def destinationOf : V2.Addresses → SocketAddr
  | .IPv4 block => ⟨.V4 block.destinationAddress, block.destinationPort⟩
  | .IPv6 block => ⟨.V6 block.destinationAddress, block.destinationPort⟩

/-- A header whose address block holds the pair parses back to the pair and the
payload: the step both families share. -/
theorem parse_v2Header_of_block (protocol : Protocol) (src dst : SocketAddr)
    (payload : List UInt8) (addresses : V2.Addresses)
    (fromSource : sourceOf addresses = src) (toDestination : destinationOf addresses = dst)
    (block : addresses.toBytes =
      src.ip.octets ++ dst.ip.octets ++ src.port.toBeBytes ++ dst.port.toBeBytes)
    (reserved : addresses.len = addressBlockLength src.ip)
    (family : addresses.addressFamily.bits ||| protocol.v2Protocol.bits =
      ((if src.ip.isIpv4 then 1 else 2 : UInt8) <<< 4) ||| protocolNumber protocol)
    (fits : addresses.len + payload.length ≤ 65535) :
    ∃ header, V2.parse (v2Header protocol src dst payload) = some header ∧
      header.versionCommand = 0x21 ∧
      header.addressFamilyProtocol =
        ((if src.ip.isIpv4 then 1 else 2 : UInt8) <<< 4) ||| protocolNumber protocol ∧
      sourceOf header.addresses = src ∧ destinationOf header.addresses = dst ∧
      header.payload = payload := by
  let builder : V2.Builder :=
    { V2.Builder.withAddresses 0x21 protocol.v2Protocol addresses with payload, length_le := fits }
  obtain ⟨header, built, parsed⟩ := V2.parse_build builder .Proxy protocol.v2Protocol rfl rfl
  rw [build_eq_v2Header protocol src dst builder rfl family block reserved] at built
  cases built
  exact ⟨_, parsed, rfl, family, fromSource, toDestination, rfl⟩

/-- A header of a same-family pair that fits its length field parses back to the
pair and the payload. -/
theorem parse_v2Header (protocol : Protocol) (src dst : SocketAddr) (payload : List UInt8)
    (sameFamily : src.ip.isIpv4 = dst.ip.isIpv4)
    (fits : addressBlockLength src.ip + payload.length ≤ 65535) :
    ∃ header, V2.parse (v2Header protocol src dst payload) = some header ∧
      header.versionCommand = 0x21 ∧
      header.addressFamilyProtocol =
        ((if src.ip.isIpv4 then 1 else 2 : UInt8) <<< 4) ||| protocolNumber protocol ∧
      sourceOf header.addresses = src ∧ destinationOf header.addresses = dst ∧
      header.payload = payload := by
  obtain ⟨source | source, sourcePort⟩ := src <;>
    obtain ⟨destination | destination, port⟩ := dst
  case mk.V4.mk.V4 =>
    exact parse_v2Header_of_block protocol _ _ payload
      (.IPv4 ⟨source, destination, sourcePort, port⟩) rfl rfl rfl rfl
      (by cases protocol <;> rfl) fits
  case mk.V6.mk.V6 =>
    exact parse_v2Header_of_block protocol _ _ payload
      (.IPv6 ⟨source, destination, sourcePort, port⟩) rfl rfl rfl rfl
      (by cases protocol <;> rfl) fits
  all_goals cases sameFamily

/-! ## A loopback pair

The concrete inputs the statements below are instantiated at: a context whose socket
peer is `127.0.0.1:80`, and a connector that reaches `127.0.0.2:443` over a stream
that accepts every write. -/

/-- The socket peer `127.0.0.1:80`. -/
def loopbackPeer : SocketAddr := ⟨.V4 (Ipv4Addr.new 127 0 0 1), 80⟩

/-- A connection to `127.0.0.2:443` over a stream that accepts every write. -/
def loopbackConnection : ClientConnection :=
  ⟨⟨.V4 (Ipv4Addr.new 127 0 0 2), 443⟩, ⟨fun _ => .ok ()⟩⟩

/-- A context with the socket peer `loopbackPeer` and nothing forwarded. -/
def loopbackContext : Context Unit := ⟨(), ⟨none, some ⟨loopbackPeer⟩, none⟩⟩

/-- A connector that returns its context and request with `loopbackConnection`. -/
def loopbackConnector : Connector Unit Unit := fun ctx req => .ok ⟨ctx, req, loopbackConnection⟩

/-- The client `10.0.0.7:4242` a proxy in front forwarded. -/
def forwardedClient : SocketAddr := ⟨.V4 (Ipv4Addr.new 10 0 0 7), 4242⟩

/-- A context with the forwarded client `forwardedClient` and the socket peer
`loopbackPeer`. -/
def forwardedContext : Context Unit :=
  ⟨(), ⟨some ⟨some forwardedClient⟩, some ⟨loopbackPeer⟩, none⟩⟩

/-! ## Failing before the write -/

section Contract

variable {State Req : Type} {P Q : Protocol}

/-- **Both versions resolve one source and check one family.** For the context and
connection an inner service returned, version one fails without writing exactly
when no source resolves or source and destination differ in family, and version two
exactly when, besides, the address block and payload overflow the length field.
Otherwise version one writes the line of the pair and version two, if the payload
fits, the header of the pair: both with the source first, in the common family. -/
theorem serve_fails_before_writing_iff
    (one : HaProxyService (Connector State Req) Q version.One)
    (two : HaProxyService (Connector State Req) P version.Two)
    (ctx : Context State) (req : Req) (writes : Writes)
    (ctx' : Context State) (req' : Req) (conn : ClientConnection)
    (innerOne : one.inner ctx req = .ok ⟨ctx', req', conn⟩)
    (innerTwo : two.inner ctx req = .ok ⟨ctx', req', conn⟩) :
    ((∃ error, (one.serveOne ctx req).run writes = .error error writes) ↔
      ∀ src ∈ resolveSource ctx', src.ip.isIpv4 ≠ conn.addr.ip.isIpv4) ∧
    ((∃ error, (two.serveTwo ctx req).run writes = .error error writes) ↔
      ∀ src ∈ resolveSource ctx', src.ip.isIpv4 ≠ conn.addr.ip.isIpv4 ∨
        65535 < addressBlockLength src.ip + (two.version.payload.getD []).length) ∧
    ∀ src ∈ resolveSource ctx', src.ip.isIpv4 = conn.addr.ip.isIpv4 →
      written ((one.serveOne ctx req).run writes) =
        writes ++ [V1.utf8Bytes (v1Line src conn.addr)] ∧
      (addressBlockLength src.ip + (two.version.payload.getD []).length ≤ 65535 →
        written ((two.serveTwo ctx req).run writes) =
          writes ++ [v2Header P src conn.addr (two.version.payload.getD [])]) := by
  rw [serveOne_run, serveTwo_run, innerOne, innerTwo]
  cases resolved : resolveSource ctx' with
  | none => simp [resolved]
  | some src =>
    by_cases same : src.ip.isIpv4 = conn.addr.ip.isIpv4
    · by_cases fits : addressBlockLength src.ip + (two.version.payload.getD []).length ≤ 65535
      · simp [resolved, same, fits]
      · simp [resolved, same, fits, Nat.lt_of_not_le fits]
    · simp [resolved, same]

theorem serve_fails_before_writing_iff_loopback :
    ((∃ error, ((HaProxyService.tcp loopbackConnector).v1.serveOne loopbackContext ()).run [] =
        .error error []) ↔
      ∀ src ∈ resolveSource loopbackContext,
        src.ip.isIpv4 ≠ loopbackConnection.addr.ip.isIpv4) ∧
    ((∃ error, (((HaProxyService.tcp loopbackConnector).payload [42]).serveTwo
        loopbackContext ()).run [] = .error error []) ↔
      ∀ src ∈ resolveSource loopbackContext,
        src.ip.isIpv4 ≠ loopbackConnection.addr.ip.isIpv4 ∨
        65535 < addressBlockLength src.ip + [42].length) ∧
    ∀ src ∈ resolveSource loopbackContext, src.ip.isIpv4 = loopbackConnection.addr.ip.isIpv4 →
      written (((HaProxyService.tcp loopbackConnector).v1.serveOne loopbackContext ()).run []) =
        [V1.utf8Bytes (v1Line src loopbackConnection.addr)] ∧
      (addressBlockLength src.ip + [42].length ≤ 65535 →
        written ((((HaProxyService.tcp loopbackConnector).payload [42]).serveTwo
          loopbackContext ()).run []) = [v2Header .Tcp src loopbackConnection.addr [42]]) :=
  serve_fails_before_writing_iff (HaProxyService.tcp loopbackConnector).v1
    ((HaProxyService.tcp loopbackConnector).payload [42]) loopbackContext () [] loopbackContext ()
    loopbackConnection rfl rfl

/-- Version two with a payload of 65 524 bytes behind an IPv4 pair fails without
writing, though a source resolves and the families agree. -/
theorem serveTwo_oversized_payload_fails_before_writing :
    ∃ (ctx' : Context Unit) (conn : ClientConnection) (src : SocketAddr),
      loopbackConnector loopbackContext () = .ok ⟨ctx', (), conn⟩ ∧
      resolveSource ctx' = some src ∧ src.ip.isIpv4 = conn.addr.ip.isIpv4 ∧
      ∃ error, (((HaProxyService.tcp loopbackConnector).payload
        (List.replicate 65524 0)).serveTwo loopbackContext ()).run [] = .error error [] := by
  refine ⟨_, _, _, rfl, rfl, rfl, ?_⟩
  rw [serveTwo_run]
  simp only [HaProxyService.payload, HaProxyService.tcp, Option.getD_some, List.length_replicate]
  exact ⟨_, rfl⟩

/-! ## One write of a pair -/

/-- **Version two writes the header of the pair once.** With a source of the
destination's family and a payload that fits, a call hands the v2 header of source,
destination and payload to one `write_all`, and on success returns what the inner
service returned. -/
theorem serveTwo_writes_v2Header (self : HaProxyService (Connector State Req) P version.Two)
    (ctx : Context State) (req : Req) (writes : Writes)
    (ctx' : Context State) (req' : Req) (conn : ClientConnection) (src : SocketAddr)
    (inner : self.inner ctx req = .ok ⟨ctx', req', conn⟩)
    (source : resolveSource ctx' = some src)
    (sameFamily : src.ip.isIpv4 = conn.addr.ip.isIpv4)
    (fits : addressBlockLength src.ip + (self.version.payload.getD []).length ≤ 65535) :
    (self.serveTwo ctx req).run writes =
      writeOutcome conn (v2Header P src conn.addr (self.version.payload.getD []))
        "PROXY client (v2): write header" ⟨ctx', req', conn⟩ writes := by
  rw [serveTwo_run, inner]
  simp only [source, if_pos sameFamily, if_pos fits]

theorem serveTwo_writes_v2Header_loopback :
    (((HaProxyService.tcp loopbackConnector).payload [42]).serveTwo loopbackContext ()).run [] =
      writeOutcome loopbackConnection (v2Header .Tcp loopbackPeer loopbackConnection.addr [42])
        "PROXY client (v2): write header" ⟨loopbackContext, (), loopbackConnection⟩ [] :=
  serveTwo_writes_v2Header ((HaProxyService.tcp loopbackConnector).payload [42]) loopbackContext
    () [] loopbackContext () loopbackConnection loopbackPeer rfl rfl rfl (by decide)

/-- **Version one writes the line of the pair once.** With a source of the
destination's family, a call hands the v1 line of the pair to one `write_all` and on
success returns what the inner service returned; the line has the v1 shape, is
ASCII, and fits the protocol's 107 bytes. -/
theorem serveOne_writes_v1Line (self : HaProxyService (Connector State Req) P version.One)
    (ctx : Context State) (req : Req) (writes : Writes)
    (ctx' : Context State) (req' : Req) (conn : ClientConnection) (src : SocketAddr)
    (inner : self.inner ctx req = .ok ⟨ctx', req', conn⟩)
    (source : resolveSource ctx' = some src)
    (sameFamily : src.ip.isIpv4 = conn.addr.ip.isIpv4) :
    (self.serveOne ctx req).run writes =
      writeOutcome conn (V1.utf8Bytes (v1Line src conn.addr))
        "PROXY client (v1): write addresses" ⟨ctx', req', conn⟩ writes ∧
    V1.MatchesV1Line (v1Line src conn.addr) ∧ V1.IsAscii (v1Line src conn.addr) ∧
      (V1.utf8Bytes (v1Line src conn.addr)).length ≤ 107 := by
  obtain ⟨shape, ascii, short⟩ := v1Line_wellFormed src conn.addr
  refine ⟨?_, shape, ascii, by omega⟩
  rw [serveOne_run, inner]
  simp only [source, if_pos sameFamily]

theorem serveOne_writes_v1Line_loopback :
    ((HaProxyService.tcp loopbackConnector).v1.serveOne loopbackContext ()).run [] =
      writeOutcome loopbackConnection (V1.utf8Bytes (v1Line loopbackPeer loopbackConnection.addr))
        "PROXY client (v1): write addresses" ⟨loopbackContext, (), loopbackConnection⟩ [] :=
  (serveOne_writes_v1Line (HaProxyService.tcp loopbackConnector).v1 loopbackContext () []
    loopbackContext () loopbackConnection loopbackPeer rfl rfl rfl).1

/-! ## The length field -/

/-- **Version two refuses exactly the payloads that overflow its length field.** For
a pair of one family, a call fails before writing, with the builder's error, exactly
when the address block and the payload exceed 65 535 bytes; whatever it writes
declares their length unwrapped. -/
theorem serveTwo_rejects_iff_length_overflows
    (self : HaProxyService (Connector State Req) P version.Two)
    (ctx : Context State) (req : Req) (writes : Writes)
    (ctx' : Context State) (req' : Req) (conn : ClientConnection) (src : SocketAddr)
    (inner : self.inner ctx req = .ok ⟨ctx', req', conn⟩)
    (source : resolveSource ctx' = some src)
    (sameFamily : src.ip.isIpv4 = conn.addr.ip.isIpv4) :
    ((∃ error, (self.serveTwo ctx req).run writes = .error error writes) ↔
      65535 < addressBlockLength src.ip + (self.version.payload.getD []).length) ∧
    (65535 < addressBlockLength src.ip + (self.version.payload.getD []).length →
      (self.serveTwo ctx req).run writes =
        .error (.context "PROXY client (v2): write custom binary payload to to header"
          (.io ⟨"payload too large for the header length"⟩)) writes) ∧
    ∀ header ∈ (written ((self.serveTwo ctx req).run writes)).drop writes.length,
      V2.declaredLength header =
        addressBlockLength src.ip + (self.version.payload.getD []).length := by
  rw [serveTwo_run, inner]
  simp only [source, if_pos sameFamily]
  by_cases fits : addressBlockLength src.ip + (self.version.payload.getD []).length ≤ 65535
  · simp [fits, declaredLength_v2Header]
  · simp [fits, Nat.lt_of_not_le fits]

theorem serveTwo_rejects_iff_length_overflows_loopback :
    ((∃ error, (((HaProxyService.tcp loopbackConnector).payload [42]).serveTwo
        loopbackContext ()).run [] = .error error []) ↔ 65535 < 12 + [42].length) ∧
    (65535 < 12 + [42].length →
      (((HaProxyService.tcp loopbackConnector).payload [42]).serveTwo loopbackContext ()).run [] =
        .error (.context "PROXY client (v2): write custom binary payload to to header"
          (.io ⟨"payload too large for the header length"⟩)) []) ∧
    ∀ header ∈ written ((((HaProxyService.tcp loopbackConnector).payload [42]).serveTwo
        loopbackContext ()).run []),
      V2.declaredLength header = 12 + [42].length :=
  serveTwo_rejects_iff_length_overflows ((HaProxyService.tcp loopbackConnector).payload [42])
    loopbackContext () [] loopbackContext () loopbackConnection loopbackPeer rfl rfl rfl

/-- **What version two writes parses back to the pair and the payload.** -/
theorem serveTwo_header_parses (self : HaProxyService (Connector State Req) P version.Two)
    (ctx : Context State) (req : Req) (writes : Writes)
    (ctx' : Context State) (req' : Req) (conn : ClientConnection) (src : SocketAddr)
    (inner : self.inner ctx req = .ok ⟨ctx', req', conn⟩)
    (source : resolveSource ctx' = some src)
    (sameFamily : src.ip.isIpv4 = conn.addr.ip.isIpv4) :
    ∀ bytes ∈ (written ((self.serveTwo ctx req).run writes)).drop writes.length,
      ∃ header, V2.parse bytes = some header ∧ sourceOf header.addresses = src ∧
        destinationOf header.addresses = conn.addr ∧
        header.payload = self.version.payload.getD [] := by
  rw [serveTwo_run, inner]
  simp only [source, if_pos sameFamily]
  split_ifs with fits
  · simp only [written_writeOutcome, List.drop_left, List.mem_singleton, forall_eq]
    obtain ⟨header, parsed, -, -, fromSource, toDestination, carried⟩ :=
      parse_v2Header P src conn.addr _ sameFamily fits
    exact ⟨header, parsed, fromSource, toDestination, carried⟩
  · simp

theorem serveTwo_header_parses_loopback :
    ∃ header, V2.parse (v2Header .Tcp loopbackPeer loopbackConnection.addr [42]) = some header ∧
      sourceOf header.addresses = loopbackPeer ∧
      destinationOf header.addresses = loopbackConnection.addr ∧ header.payload = [42] :=
  serveTwo_header_parses ((HaProxyService.tcp loopbackConnector).payload [42]) loopbackContext
    () [] loopbackContext () loopbackConnection loopbackPeer rfl rfl rfl _
    (List.mem_singleton_self _)

/-- **What version one writes reads back as the pair.** The bytes of the line decode
to a line that reads back as the record of the source and the destination. -/
theorem serveOne_line_parses (self : HaProxyService (Connector State Req) Q version.One)
    (ctx : Context State) (req : Req) (writes : Writes)
    (ctx' : Context State) (req' : Req) (conn : ClientConnection) (src : SocketAddr)
    (inner : self.inner ctx req = .ok ⟨ctx', req', conn⟩)
    (source : resolveSource ctx' = some src)
    (sameFamily : src.ip.isIpv4 = conn.addr.ip.isIpv4) :
    ∀ bytes ∈ (written ((self.serveOne ctx req).run writes)).drop writes.length,
      ∃ addresses, V1.Addresses.parse (V1.asciiChars bytes) = some addresses ∧
        addresses.source = src ∧ addresses.destination = conn.addr := by
  rw [serveOne_run, inner]
  simp only [source, if_pos sameFamily, written_writeOutcome, List.drop_left, List.mem_singleton,
    forall_eq]
  exact parse_v1Line src conn.addr sameFamily

theorem serveOne_line_parses_loopback :
    ∃ addresses, V1.Addresses.parse
        (V1.asciiChars (V1.utf8Bytes (v1Line loopbackPeer loopbackConnection.addr))) =
          some addresses ∧
      addresses.source = loopbackPeer ∧ addresses.destination = loopbackConnection.addr :=
  serveOne_line_parses (HaProxyService.tcp loopbackConnector).v1 loopbackContext () []
    loopbackContext () loopbackConnection loopbackPeer rfl rfl rfl _ (List.mem_singleton_self _)

/-! ## Every call -/

/-- **Every error the layer raises names the layer.** An error of a call is the inner
service's, or its message starts with the layer's prefix for the version. -/
theorem serve_errors_name_layer (one : HaProxyService (Connector State Req) Q version.One)
    (two : HaProxyService (Connector State Req) P version.Two)
    (ctx : Context State) (req : Req) (writes : Writes) :
    (∀ error after, (one.serveOne ctx req).run writes = .error error after →
      one.inner ctx req = .error error ∨
        ∃ rest, error.message = "PROXY client (v1): " ++ rest) ∧
    (∀ error after, (two.serveTwo ctx req).run writes = .error error after →
      two.inner ctx req = .error error ∨
        ∃ rest, error.message = "PROXY client (v2): " ++ rest) := by
  refine ⟨fun error after failed => ?_, fun error after failed => ?_⟩
  · rw [serveOne_run] at failed
    split at failed
    · cases failed
      exact .inl ‹_›
    · right
      split at failed
      · cases failed
        exact ⟨"missing src socket address", rfl⟩
      · split_ifs at failed
        · exact ⟨"write addresses", message_of_writeOutcome_eq_error failed⟩
        · cases failed
          exact ⟨"IP version mismatch between src and dest", rfl⟩
  · rw [serveTwo_run] at failed
    split at failed
    · cases failed
      exact .inl ‹_›
    · right
      split at failed
      · cases failed
        exact ⟨"missing src socket address", rfl⟩
      · split_ifs at failed
        · exact ⟨"write header", message_of_writeOutcome_eq_error failed⟩
        · cases failed
          exact ⟨"write custom binary payload to to header", rfl⟩
        · cases failed
          exact ⟨"IP version mismatch between src and dest", rfl⟩

/-- **A forwarded client address wins over the socket's peer.** When the context the
inner service returns holds a forwarded client address of the destination's family,
both versions write it as the source, whatever the socket information holds. -/
theorem serve_prefers_forwarded_source
    (one : HaProxyService (Connector State Req) Q version.One)
    (two : HaProxyService (Connector State Req) P version.Two)
    (ctx : Context State) (req : Req) (writes : Writes)
    (ctx' : Context State) (req' : Req) (conn : ClientConnection) (src : SocketAddr)
    (innerOne : one.inner ctx req = .ok ⟨ctx', req', conn⟩)
    (innerTwo : two.inner ctx req = .ok ⟨ctx', req', conn⟩)
    (forwarded : ctx'.extensions.forwarded.bind (·.clientSocketAddr) = some src)
    (sameFamily : src.ip.isIpv4 = conn.addr.ip.isIpv4)
    (fits : addressBlockLength src.ip + (two.version.payload.getD []).length ≤ 65535) :
    written ((one.serveOne ctx req).run writes) =
        writes ++ [V1.utf8Bytes (v1Line src conn.addr)] ∧
      written ((two.serveTwo ctx req).run writes) =
        writes ++ [v2Header P src conn.addr (two.version.payload.getD [])] := by
  have source : resolveSource ctx' = some src := by
    simp only [resolveSource, forwarded]
  rw [serveOne_run, serveTwo_run, innerOne, innerTwo]
  simp only [source, if_pos sameFamily, if_pos fits, written_writeOutcome, and_self]

theorem serve_prefers_forwarded_source_loopback :
    written (((HaProxyService.tcp loopbackConnector).v1.serveOne forwardedContext ()).run []) =
        [V1.utf8Bytes (v1Line forwardedClient loopbackConnection.addr)] ∧
      written ((((HaProxyService.tcp loopbackConnector).payload [42]).serveTwo
        forwardedContext ()).run []) =
        [v2Header .Tcp forwardedClient loopbackConnection.addr [42]] :=
  serve_prefers_forwarded_source (HaProxyService.tcp loopbackConnector).v1
    ((HaProxyService.tcp loopbackConnector).payload [42]) forwardedContext () [] forwardedContext ()
    loopbackConnection forwardedClient rfl rfl rfl rfl (by decide)

end Contract

end Rama.Proxy.Client
