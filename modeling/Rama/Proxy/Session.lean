import Rama.Proxy.ClientSpec

/-!
# The streams a PROXY client opens

The PROXY layer runs as the first thing on a connection its inner service has just
established: it writes its header with one `write_all`, and only when the call
returns does the caller hold the connection and write the application's bytes on it.
A peer that speaks the protocol reads the header off the front of the stream and
hands what follows to the application.

What each version writes delimits itself. The v2 header declares its own length
(`read_v2Header_append`), and the v1 line has no carriage return before the one that
ends it (`read_v1Line_append`); either reads off the front of a stream whatever
follows it, and leaves what follows untouched. A call that returns on a fresh
connection has written exactly one such header, for the source its context resolves
(`serveTwo_announces`, `serveOne_announces`).

A client is followed here across all of its connections. A `Pool` holds the calls
still to make and the connections opened so far, each with every chunk written on
it and, kept beside them, the chunks the application sent. A step makes one call on
a fresh connection, which opens when the call returns and is dropped when it fails,
or writes one application chunk on an open connection, which is dropped when the
write fails; calls and writes interleave in any order. Every reachable pool keeps
`Pool.Announced`: each open stream is one header announcing its connection, followed
by exactly the chunks the application sent (`Pool.announced_of_reachable`). So over
every run the peer of each open connection reads the source the call resolved, the
destination and, for version two, the payload, and then exactly the application's
bytes in the order they were sent (`Pool.peer_reads_v2`, `Pool.peer_reads_v1`).
-/

set_option autoImplicit false

namespace Rama.Proxy.Client

open Rama.Net Rama.Service

/-! ## What each version writes delimits itself -/

section Framing

theorem length_v2Header (protocol : Protocol) (src dst : SocketAddr) (payload : List UInt8)
    (sameFamily : src.ip.isIpv4 = dst.ip.isIpv4) :
    (v2Header protocol src dst payload).length =
      16 + (addressBlockLength src.ip + payload.length) := by
  have sourceOctets := src.ip.length_octets
  have destinationOctets := dst.ip.length_octets
  rw [← sameFamily] at destinationOctets
  simp only [v2Header, V2.PROTOCOL_PREFIX, List.length_append, List.length_cons,
    List.length_nil, UInt16.length_toBeBytes, sourceOctets, destinationOctets,
    addressBlockLength]
  split <;> omega

/-- The v2 header of a same-family pair that fits its length field reads off the front
of a stream whatever follows it. -/
theorem read_v2Header_append (protocol : Protocol) (src dst : SocketAddr) (payload : List UInt8)
    (sameFamily : src.ip.isIpv4 = dst.ip.isIpv4)
    (fits : addressBlockLength src.ip + payload.length ≤ 65535) (rest : List UInt8) :
    ∃ header, V2.read (v2Header protocol src dst payload ++ rest) = some (header, rest) ∧
      sourceOf header.addresses = src ∧ destinationOf header.addresses = dst ∧
      header.payload = payload := by
  obtain ⟨header, parsed, -, -, fromSource, toDestination, carried⟩ :=
    parse_v2Header protocol src dst payload sameFamily fits
  refine ⟨header, ?_, fromSource, toDestination, carried⟩
  rw [V2.read_append (by rw [declaredLength_v2Header protocol src dst payload fits,
    length_v2Header protocol src dst payload sameFamily]), parsed]
  rfl

/-- The v1 line is an ASCII text with no carriage return, then the `\r\n` that ends
it, within the protocol's 107 bytes. -/
theorem v1Line_eq_append (src dst : SocketAddr) :
    ∃ text, v1Line src dst = text ++ "\r\n" ∧ V1.IsAscii text ∧ '\r' ∉ text.data ∧
      (V1.utf8Bytes text).length + 2 ≤ 107 := by
  obtain ⟨-, ascii, short⟩ := v1Line_wellFormed src dst
  unfold v1Line at ascii short ⊢
  rw [V1.isAscii_append] at ascii
  rw [V1.utf8Bytes_append, List.length_append] at short
  have ending : (V1.utf8Bytes "\r\n").length = 2 := rfl
  refine ⟨_, rfl, ascii.1, ?_, by omega⟩
  simp only [String.data_append, List.mem_append, not_or, and_assoc]
  exact ⟨by decide, by split <;> decide, by decide,
    V1.cr_not_mem_of_isAddressText (ip_isAddressText _), by decide,
    V1.cr_not_mem_of_isAddressText (ip_isAddressText _), by decide, V1.cr_not_mem_repr _,
    by decide, V1.cr_not_mem_repr _⟩

/-- The v1 line of a same-family pair reads off the front of a stream whatever follows
it. -/
theorem read_v1Line_append (src dst : SocketAddr) (sameFamily : src.ip.isIpv4 = dst.ip.isIpv4)
    (rest : List UInt8) :
    ∃ addresses, V1.read (V1.utf8Bytes (v1Line src dst) ++ rest) = some (addresses, rest) ∧
      addresses.source = src ∧ addresses.destination = dst := by
  obtain ⟨addresses, parsed, fromSource, toDestination⟩ := parse_v1Line src dst sameFamily
  obtain ⟨text, line, ascii, noCr, short⟩ := v1Line_eq_append src dst
  refine ⟨addresses, ?_, fromSource, toDestination⟩
  rw [V1.asciiChars_utf8Bytes (v1Line_wellFormed src dst).2.1, line] at parsed
  rw [line, V1.read_append ascii noCr short, parsed]
  rfl

end Framing

/-! ## A call announces its connection -/

section Announce

variable {State Req : Type} {P : Protocol}

/-- The header a v2 call writes for a connection: the header of the source its context
resolves, of the destination's family, and of the payload, within the length field. -/
def AnnouncesTwo (P : Protocol) (payload : List UInt8)
    (established : EstablishedClientConnection State Req) (header : List UInt8) : Prop :=
  ∃ src, resolveSource established.ctx = some src ∧
    src.ip.isIpv4 = established.conn.addr.ip.isIpv4 ∧
    addressBlockLength src.ip + payload.length ≤ 65535 ∧
    header = v2Header P src established.conn.addr payload

/-- The line a v1 call writes for a connection: the line of the source its context
resolves, of the destination's family. -/
def AnnouncesOne (established : EstablishedClientConnection State Req) (header : List UInt8) :
    Prop :=
  ∃ src, resolveSource established.ctx = some src ∧
    src.ip.isIpv4 = established.conn.addr.ip.isIpv4 ∧
    header = V1.utf8Bytes (v1Line src established.conn.addr)

/-- A v2 call that returns on a fresh connection has written one header, announcing
the connection it returns. -/
theorem serveTwo_announces (self : HaProxyService (Connector State Req) P version.Two)
    {ctx : Context State} {req : Req} {established : EstablishedClientConnection State Req}
    {stream : Writes} (served : (self.serveTwo ctx req).run [] = .ok established stream) :
    ∃ header, AnnouncesTwo P (self.version.payload.getD []) established header ∧
      stream = [header] := by
  rw [serveTwo_run] at served
  split at served
  · cases served
  · split at served
    · cases served
    · rename_i src source
      split_ifs at served with sameFamily fits
      obtain ⟨rfl, rfl⟩ := writeOutcome_eq_ok served
      exact ⟨_, ⟨src, source, sameFamily, fits, rfl⟩, rfl⟩

/-- A v1 call that returns on a fresh connection has written one line, announcing the
connection it returns. -/
theorem serveOne_announces (self : HaProxyService (Connector State Req) P version.One)
    {ctx : Context State} {req : Req} {established : EstablishedClientConnection State Req}
    {stream : Writes} (served : (self.serveOne ctx req).run [] = .ok established stream) :
    ∃ header, AnnouncesOne established header ∧ stream = [header] := by
  rw [serveOne_run] at served
  split at served
  · cases served
  · split at served
    · cases served
    · rename_i src source
      split_ifs at served with sameFamily
      obtain ⟨rfl, rfl⟩ := writeOutcome_eq_ok served
      exact ⟨_, ⟨src, source, sameFamily, rfl⟩, rfl⟩

end Announce

/-! ## A client's connections -/

section Pool

variable {State Req : Type}

/-- A connection a call opened: what the layer returned, every chunk written on the
connection, and, kept beside them, the chunks the application sent. -/
structure Opened (State Req : Type) where
  established : EstablishedClientConnection State Req
  stream : Writes
  sent : Writes

/-- A client: the calls still to make and the connections opened so far. -/
structure Pool (State Req : Type) where
  pending : List (Context State × Req)
  opened : List (Opened State Req)

/-- One step of a client over a service: a pending call runs on a fresh connection,
which opens when the call returns and is dropped when it fails; or the application
writes a chunk on an open connection, which is dropped when the write fails. -/
inductive Pool.Step (serve : Context State → Req → IoM (EstablishedClientConnection State Req)) :
    Pool State Req → Pool State Req → Prop
  | connect {before after : List (Context State × Req)} {opened : List (Opened State Req)}
      {ctx : Context State} {req : Req} {established : EstablishedClientConnection State Req}
      {stream : Writes} :
      (serve ctx req).run [] = .ok established stream →
      Pool.Step serve ⟨before ++ (ctx, req) :: after, opened⟩
        ⟨before ++ after, opened ++ [⟨established, stream, []⟩]⟩
  | refuse {before after : List (Context State × Req)} {opened : List (Opened State Req)}
      {ctx : Context State} {req : Req} {error : BoxError} {stream : Writes} :
      (serve ctx req).run [] = .error error stream →
      Pool.Step serve ⟨before ++ (ctx, req) :: after, opened⟩ ⟨before ++ after, opened⟩
  | send {pending : List (Context State × Req)} {before after : List (Opened State Req)}
      {connection : Opened State Req} {chunk : List UInt8} {stream : Writes} :
      (connection.established.conn.writeAll chunk).run connection.stream = .ok () stream →
      Pool.Step serve ⟨pending, before ++ connection :: after⟩
        ⟨pending, before ++ ⟨connection.established, stream, connection.sent ++ [chunk]⟩ :: after⟩
  | drop {pending : List (Context State × Req)} {before after : List (Opened State Req)}
      {connection : Opened State Req} {chunk : List UInt8} {error : BoxError} {stream : Writes} :
      (connection.established.conn.writeAll chunk).run connection.stream = .error error stream →
      Pool.Step serve ⟨pending, before ++ connection :: after⟩ ⟨pending, before ++ after⟩

/-- The pools a client reaches from its calls, with no connection open yet. -/
def Pool.Reachable (serve : Context State → Req → IoM (EstablishedClientConnection State Req))
    (calls : List (Context State × Req)) (pool : Pool State Req) : Prop :=
  Relation.ReflTransGen (Pool.Step serve) ⟨calls, []⟩ pool

/-- Every open stream is one header announcing its connection, followed by exactly the
chunks the application sent. -/
def Pool.Announced (announces : EstablishedClientConnection State Req → List UInt8 → Prop)
    (pool : Pool State Req) : Prop :=
  ∀ connection ∈ pool.opened, ∃ header, announces connection.established header ∧
    connection.stream = header :: connection.sent

variable {serve : Context State → Req → IoM (EstablishedClientConnection State Req)}
  {announces : EstablishedClientConnection State Req → List UInt8 → Prop}

/-- Every step keeps the invariant, when every call that returns on a fresh connection
has written one header announcing it. -/
theorem Pool.Announced.step
    (serves : ∀ {ctx req established stream}, (serve ctx req).run [] = .ok established stream →
      ∃ header, announces established header ∧ stream = [header])
    {pool pool' : Pool State Req} (step : Pool.Step serve pool pool')
    (announced : pool.Announced announces) : pool'.Announced announces := by
  cases step with
  | connect served =>
    intro connection member
    rcases List.mem_append.mp member with old | new
    · exact announced connection old
    · obtain rfl := List.mem_singleton.mp new
      obtain ⟨header, announcing, rfl⟩ := serves served
      exact ⟨header, announcing, rfl⟩
  | refuse => exact announced
  | @send _ before after connection chunk stream wrote =>
    have appended : stream = connection.stream ++ [chunk] := by
      simpa only [wrote, written_ok] using
        connection.established.conn.written_writeAll chunk connection.stream
    intro updated member
    rcases List.mem_append.mp member with old | here
    · exact announced updated (List.mem_append_left _ old)
    rcases List.mem_cons.mp here with rfl | old
    · obtain ⟨header, announcing, stream⟩ :=
        announced connection (List.mem_append_right _ (List.mem_cons_self _ _))
      exact ⟨header, announcing, by rw [appended, stream, List.cons_append]⟩
    · exact announced updated (List.mem_append_right _ (List.mem_cons_of_mem _ old))
  | @drop _ before after connection =>
    intro kept member
    exact announced kept
      ((List.sublist_cons_self connection after).append_left before |>.subset member)

/-- **Every reachable pool keeps the invariant.** -/
theorem Pool.announced_of_reachable
    (serves : ∀ {ctx req established stream}, (serve ctx req).run [] = .ok established stream →
      ∃ header, announces established header ∧ stream = [header])
    {calls : List (Context State × Req)} {pool : Pool State Req}
    (reachable : Pool.Reachable serve calls pool) : pool.Announced announces := by
  induction reachable with
  | refl => exact fun _ opened => absurd opened (List.not_mem_nil _)
  | tail _ step announced => exact announced.step serves step

end Pool

/-! ## What the peer of each connection reads -/

section Peer

variable {State Req : Type} {P Q : Protocol}

/-- **Over every run of a v2 client, the peer of each open connection reads the header
of its call and then exactly the application's bytes.** Whatever calls were made and
in whatever order calls and writes interleaved, the header at the front of an open
stream names the source the call's context resolved, the connection's destination and
the payload of the service, and what follows it is every chunk the application sent
on that connection, in order, and nothing else. -/
theorem Pool.peer_reads_v2 (self : HaProxyService (Connector State Req) P version.Two)
    {calls : List (Context State × Req)} {pool : Pool State Req}
    (reachable : Pool.Reachable self.serveTwo calls pool) :
    ∀ connection ∈ pool.opened, ∃ src header,
      resolveSource connection.established.ctx = some src ∧
      V2.read connection.stream.flatten = some (header, connection.sent.flatten) ∧
      sourceOf header.addresses = src ∧
      destinationOf header.addresses = connection.established.conn.addr ∧
      header.payload = self.version.payload.getD [] := by
  intro connection member
  obtain ⟨_, ⟨src, source, sameFamily, fits, rfl⟩, stream⟩ :=
    Pool.announced_of_reachable (serveTwo_announces self) reachable connection member
  obtain ⟨header, read, fromSource, toDestination, carried⟩ :=
    read_v2Header_append P src _ _ sameFamily fits connection.sent.flatten
  exact ⟨src, header, source, by rw [stream, List.flatten_cons, read], fromSource, toDestination,
    carried⟩

theorem peer_reads_v2_loopback :
    ∃ src header, resolveSource loopbackContext = some src ∧
      V2.read [v2Header .Tcp loopbackPeer loopbackConnection.addr [42], [71, 69, 84]].flatten =
        some (header, [[71, 69, 84]].flatten) ∧
      sourceOf header.addresses = src ∧ destinationOf header.addresses = loopbackConnection.addr ∧
      header.payload = [42] :=
  Pool.peer_reads_v2 ((HaProxyService.tcp loopbackConnector).payload [42])
    (Relation.ReflTransGen.tail (Relation.ReflTransGen.single
      (@Pool.Step.connect _ _ _ [] [] [] loopbackContext () ⟨loopbackContext, (), loopbackConnection⟩
        [v2Header .Tcp loopbackPeer loopbackConnection.addr [42]] (by rw [serveTwo_run]; rfl)))
      (@Pool.Step.send _ _ _ [] [] [] _ [71, 69, 84]
        [v2Header .Tcp loopbackPeer loopbackConnection.addr [42], [71, 69, 84]] rfl))
    _ (List.mem_singleton_self _)

/-- **Over every run of a v1 client, the peer of each open connection reads the line of
its call and then exactly the application's bytes.** The line at the front of an open
stream names the source the call's context resolved and the connection's destination,
and what follows it is every chunk the application sent on that connection, in order,
and nothing else. -/
theorem Pool.peer_reads_v1 (self : HaProxyService (Connector State Req) Q version.One)
    {calls : List (Context State × Req)} {pool : Pool State Req}
    (reachable : Pool.Reachable self.serveOne calls pool) :
    ∀ connection ∈ pool.opened, ∃ src addresses,
      resolveSource connection.established.ctx = some src ∧
      V1.read connection.stream.flatten = some (addresses, connection.sent.flatten) ∧
      addresses.source = src ∧ addresses.destination = connection.established.conn.addr := by
  intro connection member
  obtain ⟨_, ⟨src, source, sameFamily, rfl⟩, stream⟩ :=
    Pool.announced_of_reachable (serveOne_announces self) reachable connection member
  obtain ⟨addresses, read, fromSource, toDestination⟩ :=
    read_v1Line_append src _ sameFamily connection.sent.flatten
  exact ⟨src, addresses, source, by rw [stream, List.flatten_cons, read], fromSource,
    toDestination⟩

theorem peer_reads_v1_loopback :
    ∃ src addresses, resolveSource loopbackContext = some src ∧
      V1.read [V1.utf8Bytes (v1Line loopbackPeer loopbackConnection.addr), [71, 69, 84]].flatten =
        some (addresses, [[71, 69, 84]].flatten) ∧
      addresses.source = src ∧ addresses.destination = loopbackConnection.addr :=
  Pool.peer_reads_v1 (HaProxyService.tcp loopbackConnector).v1
    (Relation.ReflTransGen.tail (Relation.ReflTransGen.single
      (@Pool.Step.connect _ _ _ [] [] [] loopbackContext () ⟨loopbackContext, (), loopbackConnection⟩
        [V1.utf8Bytes (v1Line loopbackPeer loopbackConnection.addr)] (by rw [serveOne_run]; rfl)))
      (@Pool.Step.send _ _ _ [] [] [] _ [71, 69, 84]
        [V1.utf8Bytes (v1Line loopbackPeer loopbackConnection.addr), [71, 69, 84]] rfl))
    _ (List.mem_singleton_self _)

end Peer

end Rama.Proxy.Client
