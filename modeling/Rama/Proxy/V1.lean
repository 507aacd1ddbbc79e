import Rama.Net.Parse

/-!
# The PROXY v1 line

A v1 header is one ASCII line naming the family, the two addresses and the two
ports. The encoder, `v1::Addresses` and its `Display`, is not among the sources; it
is modelled from the spec's wire format, `"PROXY " <family> " " <src-ip> " "
<dst-ip> " " <src-port> " " <dst-port> "\r\n"`, with the addresses in their
standard text and the ports in decimal.

A line of this form, with a family digit, two address texts and two ports, has the
shape of the spec's regular expression `^PROXY TCP[46] [^ ]+ [^ ]+ \d+ \d+\r\n$`
(`MatchesV1Line`), is ASCII, and is at most 104 bytes long, under the protocol's
limit of 107 (`line_wellFormed`): the longest address text has 39 characters and the
longest port 5 digits.

A line reads back as the record it was written from (`Addresses.parse_toString`): it
splits at its spaces into the tag, the family, the two addresses and the two ports,
and each reads back by the readers of `Rama.Net.Parse`. The bytes of an ASCII line
decode back to its characters (`asciiChars_utf8Bytes`).

A receiver reads the line at the front of a stream up to its first `\r\n`, within the
protocol's 107 bytes (`read`). A line whose only carriage return ends it reads off
the front of a stream whatever follows it, and leaves what follows untouched
(`read_append`).
-/

set_option autoImplicit false

namespace Rama.Proxy.V1

open Rama.Net

/-! ## Bytes of a text -/

/-- `str::as_bytes`: the UTF-8 encoding. -/
def utf8Bytes (text : String) : List UInt8 := text.data.flatMap String.utf8EncodeChar

/-- Every character of the text is ASCII. -/
def IsAscii (text : String) : Prop := ∀ c ∈ text.data, c.toNat < 128

theorem length_utf8EncodeChar_of_lt {c : Char} (ascii : c.toNat < 128) :
    (String.utf8EncodeChar c).length = 1 := by
  have small : c.val ≤ 127 := by
    show c.val.toNat ≤ (127 : UInt32).toNat
    exact Nat.le_of_lt_succ ascii
  simp [String.utf8EncodeChar, small]

/-- An ASCII text takes one byte a character. -/
theorem length_utf8Bytes_of_isAscii {text : String} (ascii : IsAscii text) :
    (utf8Bytes text).length = text.length := by
  obtain ⟨chars⟩ := text
  simp only [utf8Bytes, String.length]
  induction chars with
  | nil => rfl
  | cons c rest ih =>
    simp only [IsAscii, List.mem_cons, forall_eq_or_imp] at ascii
    simp only [List.flatMap_cons, List.length_append, List.length_cons,
      length_utf8EncodeChar_of_lt ascii.1, ih ascii.2]
    omega

/-- The characters of ASCII bytes. -/
def asciiChars (bytes : List UInt8) : List Char := bytes.map fun byte => Char.ofNat byte.toNat

theorem utf8EncodeChar_of_lt {c : Char} (ascii : c.toNat < 128) :
    String.utf8EncodeChar c = [c.toNat.toUInt8] := by
  have small : c.val ≤ 127 := by
    show c.val.toNat ≤ (127 : UInt32).toNat
    exact Nat.le_of_lt_succ ascii
  simp only [String.utf8EncodeChar, small, if_true]
  rfl

/-- **The bytes of an ASCII text decode back to its characters.** -/
theorem asciiChars_utf8Bytes {text : String} (ascii : IsAscii text) :
    asciiChars (utf8Bytes text) = text.data := by
  obtain ⟨chars⟩ := text
  simp only [utf8Bytes]
  induction chars with
  | nil => rfl
  | cons c rest ih =>
    simp only [IsAscii, List.mem_cons, forall_eq_or_imp] at ascii
    simp only [List.flatMap_cons, utf8EncodeChar_of_lt ascii.1, asciiChars,
      List.singleton_append, List.map_cons] at ih ⊢
    rw [ih ascii.2, Nat.toNat_toUInt8, Nat.mod_eq_of_lt (by omega), Char.ofNat_toNat]

/-! ## The encoder -/

/-- Modelled from the spec: `v1::Addresses` is not in the sources. The v1 address
record: the family, the two addresses and the two ports. -/
inductive Addresses where
  | Tcp4 (sourceAddress destinationAddress : Ipv4Addr) (sourcePort destinationPort : UInt16)
  | Tcp6 (sourceAddress destinationAddress : Ipv6Addr) (sourcePort destinationPort : UInt16)
  deriving DecidableEq

/-- `v1::Addresses::new_tcp4`. -/
def Addresses.newTcp4 (source destination : Ipv4Addr) (sourcePort destinationPort : UInt16) :
    Addresses :=
  .Tcp4 source destination sourcePort destinationPort

/-- `v1::Addresses::new_tcp6`. -/
def Addresses.newTcp6 (source destination : Ipv6Addr) (sourcePort destinationPort : UInt16) :
    Addresses :=
  .Tcp6 source destination sourcePort destinationPort

/-- Modelled from the spec: `Display for v1::Addresses` is not in the sources; the line
of the wire format, ports in decimal. -/
def Addresses.toString : Addresses → String
  | .Tcp4 source destination sourcePort destinationPort =>
    "PROXY TCP4 " ++ source.toString ++ " " ++ destination.toString ++ " " ++
      Nat.repr sourcePort.toNat ++ " " ++ Nat.repr destinationPort.toNat ++ "\r\n"
  | .Tcp6 source destination sourcePort destinationPort =>
    "PROXY TCP6 " ++ source.toString ++ " " ++ destination.toString ++ " " ++
      Nat.repr sourcePort.toNat ++ " " ++ Nat.repr destinationPort.toNat ++ "\r\n"

/-- The source the record names. -/
def Addresses.source : Addresses → SocketAddr
  | .Tcp4 source _ sourcePort _ => ⟨.V4 source, sourcePort⟩
  | .Tcp6 source _ sourcePort _ => ⟨.V6 source, sourcePort⟩

/-- The destination the record names. -/
def Addresses.destination : Addresses → SocketAddr
  | .Tcp4 _ destination _ destinationPort => ⟨.V4 destination, destinationPort⟩
  | .Tcp6 _ destination _ destinationPort => ⟨.V6 destination, destinationPort⟩

/-! ## The shape of a line -/

/-- The regular expression `^PROXY TCP[46] [^ ]+ [^ ]+ \d+ \d+\r\n$`. -/
def MatchesV1Line (line : String) : Prop :=
  ∃ (family : Char) (source destination sourcePort destinationPort : List Char),
    family ∈ ['4', '6'] ∧
    source ≠ [] ∧ ' ' ∉ source ∧ destination ≠ [] ∧ ' ' ∉ destination ∧
    sourcePort ≠ [] ∧ (∀ c ∈ sourcePort, c.isDigit) ∧
    destinationPort ≠ [] ∧ (∀ c ∈ destinationPort, c.isDigit) ∧
    line.data = "PROXY TCP".data ++ family :: ' ' :: source ++ ' ' :: destination ++
      ' ' :: sourcePort ++ ' ' :: destinationPort ++ ['\r', '\n']

theorem digitChar_isDigit : ∀ d, d < 10 → (Nat.digitChar d).isDigit := by decide

theorem repr_isDigit (n : Nat) : ∀ c ∈ (Nat.repr n).data, c.isDigit := fun _ mem => by
  obtain ⟨d, below, rfl⟩ := mem_toDigits (by decide : 0 < 10) mem
  exact digitChar_isDigit d below

theorem space_not_mem_of_isAddressText {text : String} (address : IsAddressText text) :
    ' ' ∉ text.data := fun mem => absurd (address.2 ' ' mem) (by decide)

theorem cr_not_mem_of_isAddressText {text : String} (address : IsAddressText text) :
    '\r' ∉ text.data := fun mem => absurd (address.2 '\r' mem) (by decide)

theorem cr_not_mem_repr (n : Nat) : '\r' ∉ (Nat.repr n).data := fun mem =>
  absurd (repr_isDigit n '\r' mem) (by decide)

theorem data_ne_nil_of_isAddressText {text : String} (address : IsAddressText text) :
    text.data ≠ [] := fun empty => address.1 (String.ext empty)

theorem ascii_of_mem_addressChars : ∀ c ∈ addressChars, c.toNat < 128 := by decide

theorem ascii_of_isDigit {c : Char} (digit : c.isDigit) : c.toNat < 128 := by
  simp only [Char.isDigit, Bool.and_eq_true, decide_eq_true_eq] at digit
  have below : c.val.toNat ≤ 57 := digit.2
  exact Nat.lt_of_le_of_lt below (by decide)

@[simp] theorem isAscii_append (first second : String) :
    IsAscii (first ++ second) ↔ IsAscii first ∧ IsAscii second := by
  simp only [IsAscii, String.data_append, List.mem_append, or_imp, forall_and]

theorem isAscii_of_isAddressText {text : String} (address : IsAddressText text) :
    IsAscii text :=
  fun c mem => ascii_of_mem_addressChars c (address.2 c mem)

theorem isAscii_repr (n : Nat) : IsAscii (Nat.repr n) :=
  fun c mem => ascii_of_isDigit (repr_isDigit n c mem)

theorem isAscii_of_family {family : Char} (tagged : family ∈ ['4', '6']) :
    IsAscii family.toString := by
  simp only [List.mem_cons, List.mem_singleton, List.not_mem_nil, or_false] at tagged
  rcases tagged with rfl | rfl <;> (unfold IsAscii; decide)

theorem length_repr_port_le (port : UInt16) : (Nat.repr port.toNat).length ≤ 5 :=
  Nat.repr_length _ 5 (by decide) (by have := port.toNat_lt; omega)

/-- A line built from a family digit, two address texts and two ports has the v1
shape, is ASCII, and takes at most 104 bytes. -/
theorem line_wellFormed {family : Char} {source destination : String}
    (sourcePort destinationPort : UInt16) (tagged : family ∈ ['4', '6'])
    (sourceText : IsAddressText source) (destinationText : IsAddressText destination)
    (sourceShort : source.length ≤ 39) (destinationShort : destination.length ≤ 39) :
    let line := "PROXY TCP" ++ family.toString ++ " " ++ source ++ " " ++ destination ++ " " ++
      Nat.repr sourcePort.toNat ++ " " ++ Nat.repr destinationPort.toNat ++ "\r\n"
    MatchesV1Line line ∧ IsAscii line ∧ (utf8Bytes line).length ≤ 104 := by
  intro line
  have ascii : IsAscii line := by
    have space : IsAscii " " := by unfold IsAscii; decide
    simp only [line, isAscii_append, and_assoc]
    exact ⟨by unfold IsAscii; decide, isAscii_of_family tagged, space,
      isAscii_of_isAddressText sourceText, space, isAscii_of_isAddressText destinationText,
      space, isAscii_repr _, space, isAscii_repr _, by unfold IsAscii; decide⟩
  refine ⟨⟨family, source.data, destination.data, (Nat.repr sourcePort.toNat).data,
    (Nat.repr destinationPort.toNat).data, tagged, data_ne_nil_of_isAddressText sourceText,
    space_not_mem_of_isAddressText sourceText, data_ne_nil_of_isAddressText destinationText,
    space_not_mem_of_isAddressText destinationText, toDigits_ne_nil 10 _, repr_isDigit _,
    toDigits_ne_nil 10 _, repr_isDigit _, ?_⟩, ascii, ?_⟩
  · simp only [line, String.data_append, List.append_assoc, List.cons_append]
    rfl
  · rw [length_utf8Bytes_of_isAscii ascii]
    have := length_repr_port_le sourcePort
    have := length_repr_port_le destinationPort
    have pieces : "PROXY TCP".length = 9 ∧ family.toString.length = 1 ∧ " ".length = 1 ∧
        "\r\n".length = 2 := ⟨rfl, rfl, rfl, rfl⟩
    simp only [line, String.length_append]
    omega

/-! ## Reading a line back -/

/-- A line read back as its record: after the tag `PROXY`, the family, two addresses of
that family and two ports, separated by single spaces and ended by `\r\n`. -/
def Addresses.parse (line : List Char) : Option Addresses :=
  match line.splitOn ' ' with
  | [tag, family, source, destination, sourcePort, ending] =>
    match ending.reverse with
    | '\n' :: '\r' :: destinationPort =>
      if tag = "PROXY".data then do
        let sourcePort ← readPort sourcePort
        let destinationPort ← readPort destinationPort.reverse
        if family = "TCP4".data then
          pure (.Tcp4 (← parseIpv4 source) (← parseIpv4 destination) sourcePort destinationPort)
        else if family = "TCP6".data then
          pure (.Tcp6 (← parseIpv6 source) (← parseIpv6 destination) sourcePort destinationPort)
        else none
      else none
    | _ => none
  | _ => none

theorem Addresses.toString_data_eq (family : String) (source destination : String)
    (sourcePort destinationPort : UInt16) :
    ("PROXY " ++ family ++ " " ++ source ++ " " ++ destination ++ " " ++
        Nat.repr sourcePort.toNat ++ " " ++ Nat.repr destinationPort.toNat ++ "\r\n").data =
      [' '].intercalate ["PROXY".data, family.data, source.data, destination.data,
        (Nat.repr sourcePort.toNat).data, (Nat.repr destinationPort.toNat).data ++ ['\r', '\n']] := by
  simp [List.intercalate]

/-- Reading back a line of a family tag, two address texts that read back and two
ports. -/
theorem Addresses.parse_line {family : String} {source destination : String}
    {sourcePort destinationPort : UInt16}
    (familySpace : ' ' ∉ family.data) (sourceSpace : ' ' ∉ source.data)
    (destinationSpace : ' ' ∉ destination.data) :
    Addresses.parse ("PROXY " ++ family ++ " " ++ source ++ " " ++ destination ++ " " ++
        Nat.repr sourcePort.toNat ++ " " ++ Nat.repr destinationPort.toNat ++ "\r\n").data =
      if family.data = "TCP4".data then do
        pure (.Tcp4 (← parseIpv4 source.data) (← parseIpv4 destination.data) sourcePort
          destinationPort)
      else if family.data = "TCP6".data then do
        pure (.Tcp6 (← parseIpv6 source.data) (← parseIpv6 destination.data) sourcePort
          destinationPort)
      else none := by
  have digits : ∀ port : UInt16, ' ' ∉ (Nat.repr port.toNat).data := fun _ =>
    separator_not_mem_toDigits (by decide) (by decide) (by decide)
  rw [Addresses.parse, Addresses.toString_data_eq, List.splitOn_intercalate]
  · simp only [List.reverse_append, List.reverse_cons, List.reverse_nil, List.nil_append,
      List.cons_append, List.singleton_append, List.reverse_reverse, if_true, readPort_repr,
      Option.bind_eq_bind, Option.some_bind]
  · simp only [List.mem_cons, List.mem_singleton, List.not_mem_nil, or_false]
    rintro _ (rfl | rfl | rfl | rfl | rfl | rfl)
    · decide
    · exact familySpace
    · exact sourceSpace
    · exact destinationSpace
    · exact digits sourcePort
    · simp only [List.mem_append, List.mem_cons, List.not_mem_nil, or_false, not_or]
      exact ⟨digits destinationPort, by decide, by decide⟩
  · simp

/-- **A v1 line reads back as the record it was written from.** -/
theorem Addresses.parse_toString (addresses : Addresses) :
    Addresses.parse addresses.toString.data = some addresses := by
  cases addresses with
  | Tcp4 source destination sourcePort destinationPort =>
    rw [Addresses.toString, show "PROXY TCP4 " = "PROXY " ++ "TCP4" ++ " " from rfl,
      Addresses.parse_line (by decide)
        (space_not_mem_of_isAddressText (ipv4_isAddressText source))
        (space_not_mem_of_isAddressText (ipv4_isAddressText destination)),
      if_pos rfl, parseIpv4_toString, parseIpv4_toString]
    rfl
  | Tcp6 source destination sourcePort destinationPort =>
    rw [Addresses.toString, show "PROXY TCP6 " = "PROXY " ++ "TCP6" ++ " " from rfl,
      Addresses.parse_line (by decide)
        (space_not_mem_of_isAddressText (ipv6_isAddressText source))
        (space_not_mem_of_isAddressText (ipv6_isAddressText destination)),
      if_neg (by decide), if_pos rfl, parseIpv6_toString, parseIpv6_toString]
    rfl

/-! ## Reading a line off a stream -/

/-- The first line of a stream, up to and including its first `\r\n`, and what follows
it. -/
def splitLine : List UInt8 → Option (List UInt8 × List UInt8)
  | [] => none
  | byte :: rest =>
    if byte = 13 ∧ rest.head? = some 10 then some ([13, 10], rest.drop 1)
    else (splitLine rest).map fun split => (byte :: split.1, split.2)

/-- Modelled from the spec: a receiver of the v1 format reads the line at the front of
a stream, the first line within the protocol's 107 bytes, as a record; what follows
the line belongs to the application. -/
def read (stream : List UInt8) : Option (Addresses × List UInt8) :=
  (splitLine (stream.take 107)).bind fun split =>
    (Addresses.parse (asciiChars split.1)).map fun addresses =>
      (addresses, stream.drop split.1.length)

theorem splitLine_append {body : List UInt8} (noCr : (13 : UInt8) ∉ body) (rest : List UInt8) :
    splitLine (body ++ 13 :: 10 :: rest) = some (body ++ [13, 10], rest) := by
  induction body with
  | nil => simp [splitLine]
  | cons byte body ih =>
    rw [List.mem_cons, not_or] at noCr
    rw [List.cons_append, splitLine, if_neg fun ended => noCr.1 ended.1.symm, ih noCr.2]
    rfl

theorem utf8Bytes_append (first second : String) :
    utf8Bytes (first ++ second) = utf8Bytes first ++ utf8Bytes second := by
  simp only [utf8Bytes, String.data_append, List.flatMap_append]

/-- An ASCII text with no carriage return has no byte 13. -/
theorem cr_not_mem_utf8Bytes {text : String} (ascii : IsAscii text) (noCr : '\r' ∉ text.data) :
    (13 : UInt8) ∉ utf8Bytes text := fun mem =>
  noCr (asciiChars_utf8Bytes ascii ▸ List.mem_map_of_mem (fun byte : UInt8 => Char.ofNat byte.toNat) mem)

/-- **A line reads off the front of a stream whatever follows it**, when its only
carriage return is the one that ends it and it fits the protocol's 107 bytes. -/
theorem read_append {text : String} (ascii : IsAscii text) (noCr : '\r' ∉ text.data)
    (short : (utf8Bytes text).length + 2 ≤ 107) (rest : List UInt8) :
    read (utf8Bytes (text ++ "\r\n") ++ rest) =
      (Addresses.parse (text ++ "\r\n").data).map fun addresses => (addresses, rest) := by
  have line : utf8Bytes (text ++ "\r\n") = utf8Bytes text ++ [13, 10] := by
    rw [utf8Bytes_append]
    rfl
  have fits : (utf8Bytes (text ++ "\r\n")).length ≤ 107 := by
    rw [line, List.length_append]
    exact short
  have split : splitLine ((utf8Bytes (text ++ "\r\n") ++ rest).take 107) =
      some (utf8Bytes (text ++ "\r\n"), rest.take (107 - (utf8Bytes (text ++ "\r\n")).length)) := by
    rw [List.take_append_eq_append_take, List.take_of_length_le fits, line, List.append_assoc]
    exact splitLine_append (cr_not_mem_utf8Bytes ascii noCr) _
  have asciiLine : IsAscii (text ++ "\r\n") :=
    (isAscii_append _ _).mpr ⟨ascii, by unfold IsAscii; decide⟩
  rw [read, split, Option.some_bind, asciiChars_utf8Bytes asciiLine, List.drop_left]

end Rama.Proxy.V1
