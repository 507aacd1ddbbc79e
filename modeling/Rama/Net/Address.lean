import Mathlib.Tactic.Ring
import Mathlib.Data.String.Basic

/-!
# Socket addresses

The PROXY client reads two socket addresses: the source it finds in the request
context and the destination of the connection the inner service established. Both
are `std::net::SocketAddr` values: an IP address, of version four or six, and a
port.

An address keeps its octets, most significant first, as `std` does. The octet list
of an address carries its length as a field, so that every address built here has
the four or sixteen octets the PROXY v2 address block reserves for it. The sixteen
octets of a version six address read as eight big-endian segments (`segments`),
and a 16-bit value is written as two big-endian bytes (`UInt16.toBeBytes`), which
read back to the same value (`UInt16.fromBeBytes_toBeBytes`).
-/

set_option autoImplicit false

/-! ## Big-endian 16-bit values -/

/-- `u16::to_be_bytes`: the high byte, then the low byte. -/
def UInt16.toBeBytes (value : UInt16) : List UInt8 :=
  [(value.toNat / 256).toUInt8, (value.toNat % 256).toUInt8]

/-- `u16::from_be_bytes`. -/
def UInt16.fromBeBytes (high low : UInt8) : UInt16 :=
  (high.toNat * 256 + low.toNat).toUInt16

@[simp] theorem Nat.toNat_toUInt8 (n : Nat) : n.toUInt8.toNat = n % 256 := rfl

@[simp] theorem Nat.toNat_toUInt16 (n : Nat) : n.toUInt16.toNat = n % 65536 := rfl

@[simp] theorem Nat.toUInt8_toNat (byte : UInt8) : byte.toNat.toUInt8 = byte :=
  UInt8.toNat.inj (by have := byte.toNat_lt; simp only [Nat.toNat_toUInt8]; omega)

@[simp] theorem Nat.toUInt16_toNat (value : UInt16) : value.toNat.toUInt16 = value :=
  UInt16.toNat.inj (by have := value.toNat_lt; simp only [Nat.toNat_toUInt16]; omega)

@[simp] theorem UInt16.length_toBeBytes (value : UInt16) : value.toBeBytes.length = 2 := rfl

/-- The two bytes read back as the value they were written from. -/
theorem UInt16.fromBeBytes_toBeBytes (value : UInt16) :
    UInt16.fromBeBytes ((value.toNat / 256).toUInt8) ((value.toNat % 256).toUInt8) = value := by
  have bound := value.toNat_lt
  apply UInt16.toNat.inj
  simp only [UInt16.fromBeBytes, Nat.toNat_toUInt8, Nat.toNat_toUInt16]
  omega

/-- A value read from two bytes writes back as those bytes. -/
theorem UInt16.toBeBytes_fromBeBytes (high low : UInt8) :
    (UInt16.fromBeBytes high low).toBeBytes = [high, low] := by
  have := high.toNat_lt
  have := low.toNat_lt
  simp only [UInt16.toBeBytes, UInt16.fromBeBytes, Nat.toNat_toUInt16, List.cons.injEq,
    and_true]
  exact ⟨UInt8.toNat.inj (by simp only [Nat.toNat_toUInt8]; omega),
    UInt8.toNat.inj (by simp only [Nat.toNat_toUInt8]; omega)⟩

namespace Rama.Net

/-! ## IP addresses -/

/-- `std::net::Ipv4Addr`: four octets, most significant first. -/
structure Ipv4Addr where
  octets : List UInt8
  length_octets : octets.length = 4
  deriving DecidableEq

/-- `std::net::Ipv6Addr`: sixteen octets, most significant first. -/
structure Ipv6Addr where
  octets : List UInt8
  length_octets : octets.length = 16
  deriving DecidableEq

/-- `Ipv4Addr::new`. -/
def Ipv4Addr.new (a b c d : UInt8) : Ipv4Addr := ⟨[a, b, c, d], rfl⟩

/-- `Ipv6Addr::new`, from eight segments. -/
def Ipv6Addr.new (a b c d e f g h : UInt16) : Ipv6Addr :=
  ⟨a.toBeBytes ++ b.toBeBytes ++ c.toBeBytes ++ d.toBeBytes ++ e.toBeBytes ++ f.toBeBytes ++
    g.toBeBytes ++ h.toBeBytes, rfl⟩

/-- Pair up octets into big-endian segments. -/
def pairSegments : List UInt8 → List UInt16
  | high :: low :: rest => UInt16.fromBeBytes high low :: pairSegments rest
  | _ => []

theorem length_pairSegments :
    ∀ octets : List UInt8, (pairSegments octets).length = octets.length / 2
  | [] => rfl
  | [_] => by simp [pairSegments]
  | _ :: _ :: rest => by
    simp only [pairSegments, List.length_cons, length_pairSegments rest]
    omega

/-- Segments paired up from an even number of octets write back as those octets. -/
theorem flatMap_toBeBytes_pairSegments :
    ∀ octets : List UInt8, octets.length % 2 = 0 →
      (pairSegments octets).flatMap UInt16.toBeBytes = octets
  | [] => fun _ => rfl
  | [_] => fun odd => absurd odd Nat.one_ne_zero
  | high :: low :: rest => fun even => by
    rw [pairSegments, List.flatMap_cons, UInt16.toBeBytes_fromBeBytes,
      flatMap_toBeBytes_pairSegments rest (by simp only [List.length_cons] at even; omega)]
    rfl

/-- `Ipv6Addr::segments`: the eight big-endian 16-bit segments. -/
def Ipv6Addr.segments (addr : Ipv6Addr) : List UInt16 := pairSegments addr.octets

@[simp] theorem Ipv6Addr.length_segments (addr : Ipv6Addr) : addr.segments.length = 8 := by
  rw [Ipv6Addr.segments, length_pairSegments, addr.length_octets]

/-- `Ipv6Addr::to_ipv4_mapped`: the address `::ffff:a.b.c.d`, read as `a.b.c.d`. -/
def Ipv6Addr.toIpv4Mapped (addr : Ipv6Addr) : Option Ipv4Addr :=
  match addr.octets with
  | [0, 0, 0, 0, 0, 0, 0, 0, 0, 0, 0xff, 0xff, a, b, c, d] => some (Ipv4Addr.new a b c d)
  | _ => none

/-- `std::net::IpAddr`. -/
inductive IpAddr where
  | V4 (addr : Ipv4Addr)
  | V6 (addr : Ipv6Addr)
  deriving DecidableEq

/-- `IpAddr::is_ipv4`. -/
def IpAddr.isIpv4 : IpAddr → Bool
  | .V4 _ => true
  | .V6 _ => false

/-- The octets of either kind of address. -/
def IpAddr.octets : IpAddr → List UInt8
  | .V4 addr => addr.octets
  | .V6 addr => addr.octets

theorem IpAddr.length_octets (ip : IpAddr) :
    ip.octets.length = if ip.isIpv4 then 4 else 16 := by
  cases ip with
  | V4 addr => exact addr.length_octets
  | V6 addr => exact addr.length_octets

/-- `std::net::SocketAddr`, through the two accessors the layer calls, `ip()` and
`port()`. -/
structure SocketAddr where
  ip : IpAddr
  port : UInt16
  deriving DecidableEq

end Rama.Net
