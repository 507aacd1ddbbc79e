import Mathlib.Data.List.GetD
import Rama.Service.Io

/-!
# The PROXY v2 header

A v2 header is binary: a fixed 12-byte signature, a byte holding the version and
the command, a byte holding the address family and the transport protocol, a
big-endian 16-bit length, the address block, and an opaque payload. The builder
that writes it, `v2::Builder`, is not among the sources; it is modelled from the
spec's wire format. The spec asks the builder to reject a payload that would push
the declared length above 65 535, and a `Builder` here carries that bound as a
field, so `writePayload` is where a payload is refused and `build` cannot wrap the
length (`declaredLength_build`).

A parser that follows the same format reads a built header back into the version
and command, family and protocol, addresses and payload it was built from
(`parse_build`): that is the spec's round trip.

A receiver reads the header at the front of a stream (`read`): the sixteen fixed
bytes, then as many as the length field declares. A header whose length field is
right reads off the front of a stream the same way whatever follows it, and leaves
what follows untouched (`read_append`).
-/

set_option autoImplicit false

namespace Rama.Proxy.V2

open Rama.Net Rama.Service

/-! ## Fields -/

/-- `PROTOCOL_PREFIX`: the signature every v2 header starts with. -/
def PROTOCOL_PREFIX : List UInt8 :=
  [0x0D, 0x0A, 0x0D, 0x0A, 0x00, 0x0D, 0x0A, 0x51, 0x55, 0x49, 0x54, 0x0A]

/-- Modelled from the spec: `v2::Version`, in the high nibble. -/
inductive Version where
  | Two
  deriving DecidableEq

/-- Modelled from the spec: `v2::Command`, in the low nibble. -/
inductive Command where
  | Local
  | Proxy
  deriving DecidableEq

/-- `Version | Command`: the byte holding both. -/
def versionCommand : Version → Command → UInt8
  | .Two, .Local => 0x20
  | .Two, .Proxy => 0x21

/-- Modelled from the spec: `v2::Protocol`, in the low nibble. -/
inductive Protocol where
  | Unspecified
  | Stream
  | Datagram
  deriving DecidableEq

def Protocol.bits : Protocol → UInt8
  | .Unspecified => 0x00
  | .Stream => 0x01
  | .Datagram => 0x02

/-- Modelled from the spec: the address family, in the high nibble. -/
inductive AddressFamily where
  | Unspecified
  | IPv4
  | IPv6
  | Unix
  deriving DecidableEq

def AddressFamily.bits : AddressFamily → UInt8
  | .Unspecified => 0x00
  | .IPv4 => 0x10
  | .IPv6 => 0x20
  | .Unix => 0x30

/-! ## Address blocks -/

/-- Modelled from the spec: `v2::IPv4`, the addresses and ports of a version four
block. -/
structure IPv4 where
  sourceAddress : Ipv4Addr
  destinationAddress : Ipv4Addr
  sourcePort : UInt16
  destinationPort : UInt16
  deriving DecidableEq

/-- Modelled from the spec: `v2::IPv6`. -/
structure IPv6 where
  sourceAddress : Ipv6Addr
  destinationAddress : Ipv6Addr
  sourcePort : UInt16
  destinationPort : UInt16
  deriving DecidableEq

/-- `IPv4::new`. -/
def IPv4.new (source destination : Ipv4Addr) (sourcePort destinationPort : UInt16) : IPv4 :=
  ⟨source, destination, sourcePort, destinationPort⟩

/-- `IPv6::new`. -/
def IPv6.new (source destination : Ipv6Addr) (sourcePort destinationPort : UInt16) : IPv6 :=
  ⟨source, destination, sourcePort, destinationPort⟩

/-- Modelled from the spec: `v2::Addresses`, for the two families the client writes. -/
inductive Addresses where
  | IPv4 (addresses : V2.IPv4)
  | IPv6 (addresses : V2.IPv6)
  deriving DecidableEq

def Addresses.addressFamily : Addresses → AddressFamily
  | .IPv4 _ => .IPv4
  | .IPv6 _ => .IPv6

/-- The length of the address block: 12 bytes for version four, 36 for version six. -/
def Addresses.len : Addresses → Nat
  | .IPv4 _ => 12
  | .IPv6 _ => 36

/-- The address block: source address, destination address, then the two ports
big-endian. -/
def Addresses.toBytes : Addresses → List UInt8
  | .IPv4 ⟨source, destination, sourcePort, destinationPort⟩ =>
    source.octets ++ destination.octets ++ sourcePort.toBeBytes ++ destinationPort.toBeBytes
  | .IPv6 ⟨source, destination, sourcePort, destinationPort⟩ =>
    source.octets ++ destination.octets ++ sourcePort.toBeBytes ++ destinationPort.toBeBytes

theorem length_toBytes (addresses : Addresses) : addresses.toBytes.length = addresses.len := by
  cases addresses <;>
    simp [Addresses.toBytes, Addresses.len, Ipv4Addr.length_octets, Ipv6Addr.length_octets]

theorem len_le (addresses : Addresses) : addresses.len ≤ 36 := by
  cases addresses <;> simp [Addresses.len]

/-! ## The builder -/

/-- Modelled from the spec: `v2::Builder`. The header fields, the addresses and the
payload written so far; the declared length, address block and payload together,
fits the 16-bit length field. -/
structure Builder where
  versionCommand : UInt8
  addressFamilyProtocol : UInt8
  addresses : Addresses
  payload : List UInt8
  length_le : addresses.len + payload.length ≤ 65535

/-- The length the header declares. -/
def Builder.length (builder : Builder) : Nat := builder.addresses.len + builder.payload.length

/-- `Builder::with_addresses`: a header with no payload yet. -/
def Builder.withAddresses (versionCommand : UInt8) (protocol : Protocol)
    (addresses : Addresses) : Builder where
  versionCommand := versionCommand
  addressFamilyProtocol := addresses.addressFamily.bits ||| protocol.bits
  addresses := addresses
  payload := []
  length_le := by have := len_le addresses; simp only [List.length_nil]; omega

/-- Modelled from the spec: `Builder::write_payload` appends the bytes verbatim, and
refuses a payload that would push the declared length above 65 535. -/
def Builder.writePayload (builder : Builder) (payload : List UInt8) : Except IoError Builder :=
  if fits : builder.addresses.len + (builder.payload ++ payload).length ≤ 65535 then
    .ok { builder with payload := builder.payload ++ payload, length_le := fits }
  else .error ⟨"payload too large for the header length"⟩

/-- Modelled from the spec: `Builder::build` writes the signature, the two header
bytes, the declared length big-endian, the address block and the payload. -/
def Builder.build (builder : Builder) : Except IoError (List UInt8) :=
  .ok (PROTOCOL_PREFIX ++ [builder.versionCommand, builder.addressFamilyProtocol] ++
    builder.length.toUInt16.toBeBytes ++ builder.addresses.toBytes ++ builder.payload)

theorem writePayload_of_fits (builder : Builder) (payload : List UInt8)
    (fits : builder.addresses.len + (builder.payload ++ payload).length ≤ 65535) :
    builder.writePayload payload =
      .ok { builder with payload := builder.payload ++ payload, length_le := fits } := by
  simp only [Builder.writePayload, dif_pos fits]

theorem writePayload_of_not_fits (builder : Builder) (payload : List UInt8)
    (overflows : ¬ builder.addresses.len + (builder.payload ++ payload).length ≤ 65535) :
    builder.writePayload payload = .error ⟨"payload too large for the header length"⟩ := by
  simp only [Builder.writePayload, dif_neg overflows]

/-! ## Reading a header back -/

/-- The length a header declares, in its bytes 14 and 15. -/
def declaredLength (header : List UInt8) : Nat :=
  (header.getD 14 0).toNat * 256 + (header.getD 15 0).toNat

theorem decode_toBeBytes_toUInt16 {n : Nat} (small : n ≤ 65535) :
    ((n.toUInt16.toNat / 256).toUInt8).toNat * 256 +
      ((n.toUInt16.toNat % 256).toUInt8).toNat = n := by
  simp only [Nat.toNat_toUInt8, Nat.toNat_toUInt16]
  omega

/-- **The declared length is the address block and the payload, never wrapped.** -/
theorem declaredLength_build (builder : Builder) :
    ∃ header, builder.build = .ok header ∧
      declaredLength header = builder.addresses.len + builder.payload.length := by
  refine ⟨_, rfl, ?_⟩
  simpa [declaredLength, PROTOCOL_PREFIX, UInt16.toBeBytes] using
    decode_toBeBytes_toUInt16 builder.length_le

/-- A PROXY v2 header as a parser reads it. -/
structure Header where
  versionCommand : UInt8
  addressFamilyProtocol : UInt8
  addresses : Addresses
  payload : List UInt8
  deriving DecidableEq

/-- Read the two addresses, of `n` octets each, and the two big-endian ports that make
up an address block: the layout both families share. -/
def parseBlock (n : Nat) (block : List UInt8) :
    Option ({octets : List UInt8 // octets.length = n} ×
      {octets : List UInt8 // octets.length = n} × UInt16 × UInt16) :=
  if long : n + n ≤ block.length then
    match block.drop (n + n) with
    | sourceHigh :: sourceLow :: destinationHigh :: destinationLow :: _ =>
      some (⟨block.take n, by simp only [List.length_take]; omega⟩,
        ⟨(block.drop n).take n, by simp only [List.length_take, List.length_drop]; omega⟩,
        UInt16.fromBeBytes sourceHigh sourceLow,
        UInt16.fromBeBytes destinationHigh destinationLow)
    | _ => none
  else none

/-- Read a version four address block. -/
def parseIPv4 (block : List UInt8) : Option V2.IPv4 :=
  (parseBlock 4 block).map fun (source, destination, sourcePort, destinationPort) =>
    ⟨⟨source.1, source.2⟩, ⟨destination.1, destination.2⟩, sourcePort, destinationPort⟩

/-- Read a version six address block. -/
def parseIPv6 (block : List UInt8) : Option V2.IPv6 :=
  (parseBlock 16 block).map fun (source, destination, sourcePort, destinationPort) =>
    ⟨⟨source.1, source.2⟩, ⟨destination.1, destination.2⟩, sourcePort, destinationPort⟩

/-- Read the address block of the family in the high nibble. -/
def parseAddresses (familyProtocol : UInt8) (block : List UInt8) : Option Addresses :=
  if familyProtocol >>> 4 = 1 then (parseIPv4 block).map .IPv4
  else if familyProtocol >>> 4 = 2 then (parseIPv6 block).map .IPv6
  else none

/-- A parser of the v2 format: the signature, version two in the high nibble, a
declared length that matches the bytes that follow, and an address block of the
declared family; what follows the block is the payload. -/
def parse (bytes : List UInt8) : Option Header :=
  if bytes.take 12 = PROTOCOL_PREFIX then
    match bytes.drop 12 with
    | versionCommand :: familyProtocol :: high :: low :: body =>
      if versionCommand >>> 4 = 2 ∧ body.length = high.toNat * 256 + low.toNat then
        (parseAddresses familyProtocol body).map fun addresses =>
          ⟨versionCommand, familyProtocol, addresses, body.drop addresses.len⟩
      else none
    | _ => none
  else none

/-! ## The round trip -/

/-- An address block reads back as its addresses and ports, whatever follows it. -/
theorem parseBlock_append {n : Nat} {source destination : List UInt8}
    (sourceLength : source.length = n) (destinationLength : destination.length = n)
    (sourcePort destinationPort : UInt16) (rest : List UInt8) :
    parseBlock n (source ++ destination ++ sourcePort.toBeBytes ++ destinationPort.toBeBytes ++
      rest) = some (⟨source, sourceLength⟩, ⟨destination, destinationLength⟩, sourcePort,
        destinationPort) := by
  simp only [List.append_assoc]
  have long : n + n ≤ (source ++ (destination ++
      (sourcePort.toBeBytes ++ (destinationPort.toBeBytes ++ rest)))).length := by
    simp only [List.length_append, sourceLength, destinationLength]
    omega
  rw [parseBlock, dif_pos long, ← List.drop_drop]
  simp only [List.drop_left' sourceLength, List.drop_left' destinationLength,
    List.take_left' sourceLength, List.take_left' destinationLength, UInt16.toBeBytes,
    List.cons_append, List.nil_append, UInt16.fromBeBytes_toBeBytes]

theorem parseIPv4_toBytes (block : V2.IPv4) (rest : List UInt8) :
    parseIPv4 ((Addresses.IPv4 block).toBytes ++ rest) = some block := by
  obtain ⟨⟨source, sourceLength⟩, ⟨destination, destinationLength⟩, _, _⟩ := block
  rw [Addresses.toBytes, parseIPv4, parseBlock_append sourceLength destinationLength]
  rfl

theorem parseIPv6_toBytes (block : V2.IPv6) (rest : List UInt8) :
    parseIPv6 ((Addresses.IPv6 block).toBytes ++ rest) = some block := by
  obtain ⟨⟨source, sourceLength⟩, ⟨destination, destinationLength⟩, _, _⟩ := block
  rw [Addresses.toBytes, parseIPv6, parseBlock_append sourceLength destinationLength]
  rfl

theorem parseAddresses_toBytes (addresses : Addresses) (protocol : Protocol)
    (rest : List UInt8) :
    parseAddresses (addresses.addressFamily.bits ||| protocol.bits) (addresses.toBytes ++ rest) =
      some addresses := by
  cases addresses with
  | IPv4 block =>
    have family : (AddressFamily.IPv4.bits ||| protocol.bits) >>> 4 = 1 := by
      cases protocol <;> decide
    simp only [parseAddresses, Addresses.addressFamily, family, if_true, parseIPv4_toBytes,
      Option.map_some']
  | IPv6 block =>
    have family : (AddressFamily.IPv6.bits ||| protocol.bits) >>> 4 = 2 := by
      cases protocol <;> decide
    simp only [parseAddresses, Addresses.addressFamily, family, if_true, parseIPv6_toBytes,
      Option.map_some', if_neg (by decide : (2 : UInt8) ≠ 1)]

/-- **A header built for version two parses back to its fields.** -/
theorem parse_build (builder : Builder) (command : Command) (protocol : Protocol)
    (versioned : builder.versionCommand = versionCommand .Two command)
    (family : builder.addressFamilyProtocol =
      builder.addresses.addressFamily.bits ||| protocol.bits) :
    ∃ header, builder.build = .ok header ∧
      parse header = some ⟨builder.versionCommand, builder.addressFamilyProtocol,
        builder.addresses, builder.payload⟩ := by
  obtain ⟨versionByte, familyByte, addresses, payload, bounded⟩ := builder
  simp only at versioned family
  subst versioned family
  refine ⟨_, rfl, ?_⟩
  have signature : PROTOCOL_PREFIX.length = 12 := rfl
  have version : versionCommand .Two command >>> 4 = 2 := by cases command <;> decide
  have declared := decode_toBeBytes_toUInt16 bounded
  simp only [Builder.length] at declared
  simp only [Builder.build, Builder.length, parse, List.append_assoc, List.take_left' signature,
    List.drop_left' signature, if_true, UInt16.toBeBytes, List.cons_append, List.nil_append,
    version, List.length_append, length_toBytes, declared, and_self,
    parseAddresses_toBytes, Option.map_some', List.drop_left' (length_toBytes addresses)]

/-! ## Reading a header off a stream -/

/-- Modelled from the spec: a receiver of the v2 format reads the header at the front
of a stream, the sixteen fixed bytes and then as many as the length field declares,
with `parse`; what follows the header belongs to the application. -/
def read (stream : List UInt8) : Option (Header × List UInt8) :=
  let total := 16 + declaredLength stream
  (parse (stream.take total)).map fun header => (header, stream.drop total)

theorem declaredLength_append {header : List UInt8} (long : 16 ≤ header.length)
    (rest : List UInt8) : declaredLength (header ++ rest) = declaredLength header := by
  simp only [declaredLength, List.getD_append header rest 0 14 (by omega),
    List.getD_append header rest 0 15 (by omega)]

/-- **A header reads off the front of a stream whatever follows it**, when its length
field holds the number of bytes after the sixteen fixed ones. -/
theorem read_append {header : List UInt8} (declared : 16 + declaredLength header = header.length)
    (rest : List UInt8) :
    read (header ++ rest) = (parse header).map fun parsed => (parsed, rest) := by
  simp only [read, declaredLength_append (by omega : 16 ≤ header.length), declared,
    List.take_left, List.drop_left]

end Rama.Proxy.V2
