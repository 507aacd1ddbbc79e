import Rama.Net.Address
import Mathlib.Data.Nat.Digits
import Mathlib.Data.List.GetD

/-!
# The text of an address

The PROXY v1 line writes each address with `Display`: a version four address in
dotted-quad form, a version six address in the form of RFC 5952 that `std` writes.
That form prints the eight segments in lowercase hexadecimal without leading zeros,
separated by colons; replaces the longest run of two or more zero segments, the
first such run on a tie, by `::`; and prints an IPv4-mapped address as
`::ffff:a.b.c.d`. The run is found by one scan over the segments (`longestZeroSpan`),
kept here as the loop `std` runs. The scan keeps an invariant over the segments it has
read (`ScanInvariant`): the longest run it holds is made of zeros, no run of zeros is
longer, none as long starts before it, and it lies inside the segments read; the run
being read is the run of zeros those segments end with. Reading one segment keeps it
(`ScanInvariant.step_zero`, `ScanInvariant.step_nonzero`), so the scan finds the first
longest run (`longestZeroSpan_longest`).

Every text written here is non-empty and made of hexadecimal digits, colons and
dots only (`IsAddressText`), and its length is bounded: fifteen characters for a
version four address (`length_ipv4_toString_le`) and thirty-nine for a version six
address (`length_ipv6_toString_le`), which needs the run the scan finds to lie inside
the segments (`longestZeroSpan_end_le`).
-/

set_option autoImplicit false

namespace Rama.Net

/-! ## Digits -/

/-- Every character `toDigitsCore` adds is a digit below the base. -/
theorem mem_toDigitsCore {base : Nat} (positive : 0 < base) :
    ∀ (fuel n : Nat) (digits : List Char) (c : Char),
      c ∈ Nat.toDigitsCore base fuel n digits →
        c ∈ digits ∨ ∃ d < base, c = Nat.digitChar d
  | 0, _, _, _, mem => .inl mem
  | fuel + 1, n, digits, c, mem => by
    have digit : n % base < base := Nat.mod_lt n positive
    simp only [Nat.toDigitsCore] at mem
    split at mem
    · rcases List.mem_cons.mp mem with rfl | mem
      · exact .inr ⟨_, digit, rfl⟩
      · exact .inl mem
    · rcases mem_toDigitsCore positive fuel _ _ c mem with mem | found
      · rcases List.mem_cons.mp mem with rfl | mem
        · exact .inr ⟨_, digit, rfl⟩
        · exact .inl mem
      · exact .inr found

theorem mem_toDigits {base n : Nat} {c : Char} (positive : 0 < base)
    (mem : c ∈ Nat.toDigits base n) : ∃ d < base, c = Nat.digitChar d :=
  (mem_toDigitsCore positive _ _ _ c mem).resolve_left (List.not_mem_nil c)

theorem toDigitsCore_ne_nil {base : Nat} :
    ∀ (fuel n : Nat) (digit : Char) (digits : List Char),
      Nat.toDigitsCore base fuel n (digit :: digits) ≠ []
  | 0, _, _, _ => List.cons_ne_nil _ _
  | fuel + 1, n, digit, digits => by
    simp only [Nat.toDigitsCore]
    split
    · exact List.cons_ne_nil _ _
    · exact toDigitsCore_ne_nil fuel _ _ _

theorem toDigits_ne_nil (base n : Nat) : Nat.toDigits base n ≠ [] := by
  simp only [Nat.toDigits, Nat.toDigitsCore]
  split
  · exact List.cons_ne_nil _ _
  · exact toDigitsCore_ne_nil _ _ _ _

theorem length_toDigits_le {base n digits : Nat} (two : 2 ≤ base) (small : n < base ^ digits)
    (positive : 0 < digits) : (Nat.toDigits base n).length ≤ digits :=
  Nat.toDigitsCore_length base two (n + 1) n digits small positive

/-- `{:x}`: lowercase hexadecimal, no leading zeros. -/
def hexText (value : Nat) : String := (Nat.toDigits 16 value).asString

/-! ## Address texts -/

/-- The characters an address is written with. -/
def addressChars : List Char := "0123456789abcdef:.".data

/-- A non-empty text of address characters: no space, nothing outside ASCII. -/
def IsAddressText (text : String) : Prop := text ≠ "" ∧ ∀ c ∈ text.data, c ∈ addressChars

theorem digitChar_mem_addressChars : ∀ d, d < 16 → Nat.digitChar d ∈ addressChars := by
  decide

theorem mem_addressChars_of_mem_toDigits {base n : Nat} {c : Char} (small : base ≤ 16)
    (positive : 0 < base) (mem : c ∈ Nat.toDigits base n) : c ∈ addressChars := by
  obtain ⟨d, below, rfl⟩ := mem_toDigits positive mem
  exact digitChar_mem_addressChars d (by omega)

theorem ne_empty_of_length_pos {text : String} (positive : 0 < text.length) : text ≠ "" := by
  rintro rfl
  exact absurd positive (by decide)

/-! ## Version four -/

/-- `Display for Ipv4Addr`: the four octets in decimal, separated by dots. -/
def Ipv4Addr.toString (addr : Ipv4Addr) : String :=
  let octet (index : Nat) := Nat.repr (addr.octets.getD index 0).toNat
  octet 0 ++ "." ++ octet 1 ++ "." ++ octet 2 ++ "." ++ octet 3

theorem length_repr_octet_le (octet : UInt8) : (Nat.repr octet.toNat).length ≤ 3 :=
  Nat.repr_length _ 3 (by decide) (by have := octet.toNat_lt; omega)

theorem length_ipv4_toString_le (addr : Ipv4Addr) : addr.toString.length ≤ 15 := by
  simp only [Ipv4Addr.toString, String.length_append]
  have := length_repr_octet_le (addr.octets.getD 0 0)
  have := length_repr_octet_le (addr.octets.getD 1 0)
  have := length_repr_octet_le (addr.octets.getD 2 0)
  have := length_repr_octet_le (addr.octets.getD 3 0)
  have dot : ".".length = 1 := rfl
  omega

theorem repr_data_mem_addressChars (n : Nat) : ∀ c ∈ (Nat.repr n).data, c ∈ addressChars :=
  fun _ mem => mem_addressChars_of_mem_toDigits (by decide) (by decide) mem

theorem ipv4_isAddressText (addr : Ipv4Addr) : IsAddressText addr.toString := by
  have dot : ".".length = 1 := rfl
  have dotChars : ∀ c ∈ ".".data, c ∈ addressChars := by decide
  refine ⟨ne_empty_of_length_pos ?_, ?_⟩
  · simp only [Ipv4Addr.toString, String.length_append]
    omega
  · simp only [Ipv4Addr.toString, String.data_append, List.forall_mem_append, and_assoc]
    exact ⟨repr_data_mem_addressChars _, dotChars, repr_data_mem_addressChars _, dotChars,
      repr_data_mem_addressChars _, dotChars, repr_data_mem_addressChars _⟩

/-! ## Version six -/

/-- A run of segments: where it starts and how many it holds (`Span` in `std`). -/
structure Span where
  start : Nat
  len : Nat
  deriving DecidableEq

/-- The scan `std` runs for the longest run of zero segments, from position `index` on,
with the longest run found so far and the run being read. A run replaces the longest
one only when it is strictly longer, so the first of two equal runs wins. -/
def longestZeroSpanFrom : Nat → List UInt16 → Span → Span → Span
  | _, [], longest, _ => longest
  | index, segment :: rest, longest, current =>
    if segment = 0 then
      let current : Span := ⟨if current.len = 0 then index else current.start, current.len + 1⟩
      longestZeroSpanFrom (index + 1) rest
        (if current.len > longest.len then current else longest) current
    else longestZeroSpanFrom (index + 1) rest longest ⟨0, 0⟩

/-- The longest run of zero segments, the first on a tie. -/
def longestZeroSpan (segments : List UInt16) : Span :=
  longestZeroSpanFrom 0 segments ⟨0, 0⟩ ⟨0, 0⟩

/-! ### The scan finds the first longest run -/

/-- The `len` segments from `start` on are all zero. A position past the end counts
as non-zero, so a run lies inside the list. -/
def ZeroRun (segments : List UInt16) (start len : Nat) : Prop :=
  ∀ i, start ≤ i → i < start + len → segments.getD i 1 = 0

theorem ZeroRun.end_le {segments : List UInt16} {start len : Nat}
    (run : ZeroRun segments start len) (positive : 0 < len) : start + len ≤ segments.length := by
  by_contra outside
  have last := run (start + len - 1) (by omega) (by omega)
  rw [List.getD_eq_default _ _ (by omega)] at last
  exact absurd last (by decide)

theorem ZeroRun.append {segments : List UInt16} {start len : Nat}
    (run : ZeroRun segments start len) (segment : UInt16) :
    ZeroRun (segments ++ [segment]) start len := by
  intro i low high
  have inside := run.end_le (by omega)
  rw [List.getD_append _ _ _ _ (by omega)]
  exact run i low high

theorem getD_append_length (segments : List UInt16) (segment : UInt16) :
    (segments ++ [segment]).getD segments.length 1 = segment := by
  rw [List.getD_append_right _ _ _ _ (le_refl _), Nat.sub_self]
  rfl

/-- A run after one more segment lies in the segments before, or ends with that
segment, which is then zero, after a run that ends the segments before. -/
theorem ZeroRun.cases_append {segments : List UInt16} {segment : UInt16} {start len : Nat}
    (run : ZeroRun (segments ++ [segment]) start len) :
    ZeroRun segments start len ∨
      segment = 0 ∧ start + len = segments.length + 1 ∧
        ZeroRun segments start (segments.length - start) := by
  rcases Nat.eq_zero_or_pos len with rfl | positive
  · exact .inl fun i low high => absurd high (by omega)
  have bound := run.end_le positive
  simp only [List.length_append, List.length_singleton] at bound
  have before : ∀ shorter, start + shorter ≤ segments.length → shorter ≤ len →
      ZeroRun segments start shorter := fun shorter inside le i low high => by
    have := run i low (by omega)
    rwa [List.getD_append _ _ _ _ (by omega)] at this
  by_cases inside : start + len ≤ segments.length
  · exact .inl (before len inside le_rfl)
  · have last := run segments.length (by omega) (by omega)
    rw [getD_append_length] at last
    exact .inr ⟨last, by omega, before _ (by omega) (by omega)⟩

/-- What the scan knows after reading `read`: `longest` is the first longest run of
zeros in it and lies inside it, and `current` is the run of zeros `read` ends with. -/
structure ScanInvariant (read : List UInt16) (longest current : Span) : Prop where
  longest_zero : ZeroRun read longest.start longest.len
  longest_max : ∀ start len, ZeroRun read start len → len ≤ longest.len
  longest_first : ∀ start, 0 < longest.len → ZeroRun read start longest.len →
    longest.start ≤ start
  longest_inside : longest.start + longest.len ≤ read.length
  current_zero : 0 < current.len →
    ZeroRun read current.start current.len ∧ current.start + current.len = read.length
  current_max : ∀ start, start ≤ read.length → ZeroRun read start (read.length - start) →
    read.length - start ≤ current.len

theorem ScanInvariant.nil : ScanInvariant [] ⟨0, 0⟩ ⟨0, 0⟩ where
  longest_zero := fun _ _ high => by simp at high
  longest_max := fun start len run => by
    rcases Nat.eq_zero_or_pos len with rfl | positive
    · exact le_rfl
    · exact absurd (run.end_le positive) (by simp; omega)
  longest_first := fun _ positive => absurd positive (by decide)
  longest_inside := le_rfl
  current_zero := fun positive => absurd positive (by decide)
  current_max := fun _ _ _ => by simp

/-- Reading a non-zero segment ends the current run and keeps the longest. -/
theorem ScanInvariant.step_nonzero {read : List UInt16} {longest current : Span}
    {segment : UInt16} (inv : ScanInvariant read longest current) (nonzero : segment ≠ 0) :
    ScanInvariant (read ++ [segment]) longest ⟨0, 0⟩ where
  longest_zero := inv.longest_zero.append segment
  longest_max := fun start len run => by
    rcases run.cases_append with before | ⟨zero, -⟩
    · exact inv.longest_max start len before
    · exact absurd zero nonzero
  longest_first := fun start positive run => by
    rcases run.cases_append with before | ⟨zero, -⟩
    · exact inv.longest_first start positive before
    · exact absurd zero nonzero
  longest_inside := by simpa using Nat.le_succ_of_le inv.longest_inside
  current_zero := fun positive => absurd positive (by decide)
  current_max := fun start within run => by
    simp only [List.length_append, List.length_singleton] at within run ⊢
    by_contra longer
    have last := run read.length (by omega) (by omega)
    rw [getD_append_length] at last
    exact nonzero last

/-- After a zero segment the current run grows by one, from where it started or, if
there was none, from that segment. -/
theorem ScanInvariant.next_zero {read : List UInt16} {longest current : Span}
    (inv : ScanInvariant read longest current) :
    ZeroRun (read ++ [0]) (if current.len = 0 then read.length else current.start)
        (current.len + 1) ∧
      (if current.len = 0 then read.length else current.start) + (current.len + 1) =
        read.length + 1 := by
  by_cases empty : current.len = 0
  · rw [if_pos empty]
    refine ⟨fun i low high => ?_, by omega⟩
    rw [show i = read.length by omega, getD_append_length]
  · rw [if_neg empty]
    obtain ⟨run, ends⟩ := inv.current_zero (by omega)
    refine ⟨fun i low high => ?_, by omega⟩
    by_cases last : i = read.length
    · rw [last, getD_append_length]
    · exact run.append 0 i low (by omega)

/-- A run of zeros that ends with a new zero segment is at most one longer than the
run the segments before it end with. -/
theorem ScanInvariant.trailing_le {read : List UInt16} {longest current : Span}
    (inv : ScanInvariant read longest current) {start len : Nat}
    (run : ZeroRun (read ++ [0]) start len) (ends : start + len = read.length + 1) :
    len ≤ current.len + 1 := by
  rcases Nat.eq_zero_or_pos len with rfl | positive
  · omega
  rcases run.cases_append with before | ⟨-, -, leading⟩
  · have := before.end_le positive
    omega
  · have := inv.current_max start (by omega) leading
    omega

/-- Reading a zero segment extends the current run, which replaces the longest one
when it is strictly longer. -/
theorem ScanInvariant.step_zero {read : List UInt16} {longest current : Span}
    (inv : ScanInvariant read longest current) :
    ScanInvariant (read ++ [0])
      (if current.len + 1 > longest.len then
        ⟨if current.len = 0 then read.length else current.start, current.len + 1⟩ else longest)
      ⟨if current.len = 0 then read.length else current.start, current.len + 1⟩ := by
  obtain ⟨nextZero, nextEnds⟩ := inv.next_zero
  generalize (if current.len = 0 then read.length else current.start) = nextStart
    at nextZero nextEnds ⊢
  have currentZero : 0 < current.len + 1 → ZeroRun (read ++ [0]) nextStart (current.len + 1) ∧
      nextStart + (current.len + 1) = (read ++ [0]).length := fun _ => by
    simpa only [List.length_append, List.length_singleton] using And.intro nextZero nextEnds
  have currentMax : ∀ start, start ≤ (read ++ [0]).length →
      ZeroRun (read ++ [0]) start ((read ++ [0]).length - start) →
        (read ++ [0]).length - start ≤ current.len + 1 := by
    intro start within run
    simp only [List.length_append, List.length_singleton] at within run ⊢
    exact inv.trailing_le run (by omega)
  by_cases longer : current.len + 1 > longest.len
  · rw [if_pos longer]
    refine ⟨nextZero, fun start len run => ?_, fun start _ run => ?_,
      (currentZero (Nat.succ_pos _)).2.le, currentZero, currentMax⟩
    · rcases run.cases_append with before | ⟨-, ends, -⟩
      · have := inv.longest_max start len before
        dsimp only
        omega
      · exact inv.trailing_le run ends
    · dsimp only at run ⊢
      rcases run.cases_append with before | ⟨-, ends, -⟩
      · have := inv.longest_max _ _ before
        omega
      · omega
  · rw [if_neg longer]
    refine ⟨inv.longest_zero.append 0, fun start len run => ?_, fun start positive run => ?_,
      by simpa using Nat.le_succ_of_le inv.longest_inside, currentZero, currentMax⟩
    · rcases run.cases_append with before | ⟨-, ends, -⟩
      · exact inv.longest_max start len before
      · have := inv.trailing_le run ends
        omega
    · rcases run.cases_append with before | ⟨-, ends, -⟩
      · exact inv.longest_first start positive before
      · have := inv.trailing_le run ends
        have := inv.longest_zero.end_le positive
        omega

/-- **The scan keeps the invariant over every segment it reads.** -/
theorem scanInvariant_longestZeroSpanFrom :
    ∀ (rest read : List UInt16) (longest current : Span), ScanInvariant read longest current →
      ∃ last, ScanInvariant (read ++ rest)
        (longestZeroSpanFrom read.length rest longest current) last
  | [], read, longest, current, inv =>
    ⟨current, by simpa only [List.append_nil, longestZeroSpanFrom] using inv⟩
  | segment :: rest, read, longest, current, inv => by
    have grown : read.length + 1 = (read ++ [segment]).length := by simp
    simp only [longestZeroSpanFrom, grown]
    rw [show read ++ segment :: rest = read ++ [segment] ++ rest by simp]
    by_cases zero : segment = 0
    · subst zero
      rw [if_pos rfl]
      exact scanInvariant_longestZeroSpanFrom rest _ _ _ inv.step_zero
    · rw [if_neg zero]
      exact scanInvariant_longestZeroSpanFrom rest _ _ _ (inv.step_nonzero zero)

theorem scanInvariant_longestZeroSpan (segments : List UInt16) :
    ∃ current, ScanInvariant segments (longestZeroSpan segments) current :=
  scanInvariant_longestZeroSpanFrom segments [] _ _ ScanInvariant.nil

/-- **The scan finds the first longest run of zero segments.** The run it returns is
made of zeros; no run of zeros is longer; and no run of zeros as long starts before
it. -/
theorem longestZeroSpan_longest (segments : List UInt16) :
    ZeroRun segments (longestZeroSpan segments).start (longestZeroSpan segments).len ∧
      (∀ start len, ZeroRun segments start len → len ≤ (longestZeroSpan segments).len) ∧
      ∀ start, 0 < (longestZeroSpan segments).len →
        ZeroRun segments start (longestZeroSpan segments).len →
          (longestZeroSpan segments).start ≤ start :=
  (scanInvariant_longestZeroSpan segments).elim fun _ inv =>
    ⟨inv.longest_zero, inv.longest_max, inv.longest_first⟩

/-- The longest run wins, and the first of two equal runs. -/
example : longestZeroSpan [0x2001, 0xdb8, 0, 0, 1, 0, 0, 0] = ⟨5, 3⟩ := by decide

example : longestZeroSpan [1, 0, 0, 2, 0, 0, 3, 4] = ⟨1, 2⟩ := by decide

theorem longestZeroSpan_end_le (segments : List UInt16) :
    (longestZeroSpan segments).start + (longestZeroSpan segments).len ≤ segments.length :=
  (scanInvariant_longestZeroSpan segments).elim fun _ inv => inv.longest_inside

/-- `fmt_subslice`: the segments in hexadecimal, separated by colons. -/
def fmtSubslice : List UInt16 → String
  | [] => ""
  | first :: tail =>
    tail.foldl (fun text segment => text ++ ":" ++ hexText segment.toNat) (hexText first.toNat)

theorem data_foldl_hexText (tail : List UInt16) (text : String) :
    (tail.foldl (fun text segment => text ++ ":" ++ hexText segment.toNat) text).data =
      text.data ++ tail.flatMap (fun segment => ':' :: (hexText segment.toNat).data) := by
  induction tail generalizing text with
  | nil => simp
  | cons segment rest ih =>
    simp only [List.foldl, ih, String.data_append, List.flatMap_cons, List.append_assoc]
    rfl

theorem length_hexText_le (segment : UInt16) : (hexText segment.toNat).length ≤ 4 :=
  length_toDigits_le (by decide) (by have := segment.toNat_lt; omega) (by decide)

theorem length_flatMap_hexText_le (tail : List UInt16) :
    (tail.flatMap (fun segment => ':' :: (hexText segment.toNat).data)).length ≤
      5 * tail.length := by
  induction tail with
  | nil => simp
  | cons segment rest ih =>
    have := length_hexText_le segment
    simp only [List.flatMap_cons, List.length_append, List.length_cons] at *
    simp only [String.length] at this
    omega

theorem length_fmtSubslice_le (segments : List UInt16) :
    (fmtSubslice segments).length ≤ 5 * segments.length - 1 := by
  cases segments with
  | nil => exact Nat.zero_le _
  | cons first tail =>
    have := length_hexText_le first
    have := length_flatMap_hexText_le tail
    simp only [fmtSubslice, String.length, data_foldl_hexText, List.length_append,
      List.length_cons] at *
    omega

theorem length_fmtSubslice_pos {segments : List UInt16} (nonempty : segments ≠ []) :
    0 < (fmtSubslice segments).length := by
  obtain ⟨first, tail, rfl⟩ := List.exists_cons_of_ne_nil nonempty
  have := toDigits_ne_nil 16 first.toNat
  simp only [fmtSubslice, String.length, data_foldl_hexText, List.length_append]
  have := List.length_pos.mpr this
  simp only [hexText, List.asString] at *
  omega

theorem fmtSubslice_mem_addressChars (segments : List UInt16) :
    ∀ c ∈ (fmtSubslice segments).data, c ∈ addressChars := by
  have hex : ∀ (segment : UInt16), ∀ c ∈ (hexText segment.toNat).data, c ∈ addressChars :=
    fun _ _ mem => mem_addressChars_of_mem_toDigits (le_refl _) (by decide) mem
  cases segments with
  | nil => intro c mem; exact absurd mem (List.not_mem_nil c)
  | cons first tail =>
    simp only [fmtSubslice, data_foldl_hexText, List.mem_append, List.mem_flatMap,
      List.mem_cons]
    rintro c (mem | ⟨segment, -, rfl | mem⟩)
    · exact hex first c mem
    · decide
    · exact hex segment c mem

/-- `Display for Ipv6Addr`. -/
def Ipv6Addr.toString (addr : Ipv6Addr) : String :=
  match addr.toIpv4Mapped with
  | some ipv4 => "::ffff:" ++ ipv4.toString
  | none =>
    let segments := addr.segments
    let zeroes := longestZeroSpan segments
    if zeroes.len > 1 then
      fmtSubslice (segments.take zeroes.start) ++ "::" ++
        fmtSubslice (segments.drop (zeroes.start + zeroes.len))
    else fmtSubslice segments

theorem length_ipv6_toString_le (addr : Ipv6Addr) : addr.toString.length ≤ 39 := by
  unfold Ipv6Addr.toString
  split
  · have := length_ipv4_toString_le ‹Ipv4Addr›
    simp only [String.length_append]
    have lead : "::ffff:".length = 7 := rfl
    omega
  · have inside := longestZeroSpan_end_le addr.segments
    simp only [Ipv6Addr.length_segments] at inside
    dsimp only
    split
    · have := length_fmtSubslice_le (addr.segments.take (longestZeroSpan addr.segments).start)
      have := length_fmtSubslice_le
        (addr.segments.drop ((longestZeroSpan addr.segments).start +
          (longestZeroSpan addr.segments).len))
      have colons : "::".length = 2 := rfl
      simp only [String.length_append, List.length_take, List.length_drop,
        Ipv6Addr.length_segments] at *
      omega
    · have := length_fmtSubslice_le addr.segments
      simp only [Ipv6Addr.length_segments] at this
      omega

theorem ipv6_isAddressText (addr : Ipv6Addr) : IsAddressText addr.toString := by
  unfold Ipv6Addr.toString
  split
  · obtain ⟨-, inner⟩ := ipv4_isAddressText ‹Ipv4Addr›
    have lead : "::ffff:".length = 7 := rfl
    refine ⟨ne_empty_of_length_pos (by simp only [String.length_append]; omega), ?_⟩
    simp only [String.data_append, List.forall_mem_append]
    exact ⟨by decide, inner⟩
  · dsimp only
    split
    · have colons : "::".length = 2 := rfl
      refine ⟨ne_empty_of_length_pos (by simp only [String.length_append]; omega), ?_⟩
      simp only [String.data_append, List.forall_mem_append]
      exact ⟨⟨fmtSubslice_mem_addressChars _, by decide⟩, fmtSubslice_mem_addressChars _⟩
    · refine ⟨ne_empty_of_length_pos (length_fmtSubslice_pos ?_),
        fmtSubslice_mem_addressChars _⟩
      intro empty
      simpa [empty] using addr.length_segments

/-! ## Either version -/

/-- `Display for IpAddr`. -/
def IpAddr.toString : IpAddr → String
  | .V4 addr => addr.toString
  | .V6 addr => addr.toString

theorem ip_isAddressText : ∀ addr : IpAddr, IsAddressText addr.toString
  | .V4 addr => ipv4_isAddressText addr
  | .V6 addr => ipv6_isAddressText addr

theorem length_ip_toString_le : ∀ addr : IpAddr, addr.toString.length ≤ 39
  | .V4 addr => by have := length_ipv4_toString_le addr; simp only [IpAddr.toString]; omega
  | .V6 addr => length_ipv6_toString_le addr

end Rama.Net
