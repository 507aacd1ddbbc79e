import Rama.Net.Text

/-!
# Reading an address back

The text `std` writes for an address determines the address: reading it back gives the
address it was written from. The reader here is the inverse the PROXY v1 line is
checked against; it accepts the forms `Display` writes and nothing else it does not
need.

A number is read from its digits most significant first, and reading the digits
`Nat.toDigits` writes gives the number back (`readNumber_toDigits`). A dotted quad
splits at its dots into the four octets (`parseIpv4_toString`). A version six address
splits at its colons into groups; a text with `::` is read as the groups before it,
the groups after it, and as many zero segments between them as make eight, so that
reading back the compressed form gives the segments because the run `::` stands for
is made of zeros (`longestZeroSpan_longest`); the IPv4-mapped form is read after its
prefix `::ffff:` (`parseIpv6_toString`).
-/

set_option autoImplicit false

namespace Rama.Net

/-! ## Numbers -/

/-- The value of a digit below `base`, as `Nat.digitChar` writes it. -/
def digitValue (base : Nat) (c : Char) : Option Nat :=
  (List.range base).find? (Nat.digitChar · = c)

theorem digitValue_digitChar :
    ∀ base ≤ 16, ∀ d < base, digitValue base (Nat.digitChar d) = some d := by
  decide

/-- The number a non-empty list of digits below `base` writes, most significant first. -/
def readNumber (base : Nat) (digits : List Char) : Option Nat :=
  if digits = [] then none
  else digits.foldlM (fun value c => (digitValue base c).map (value * base + ·)) 0

/-- `toDigitsCore` writes the digits of the number in front of the ones it is given. -/
theorem toDigitsCore_eq_append (base : Nat) :
    ∀ (fuel n : Nat) (digits : List Char),
      Nat.toDigitsCore base fuel n digits = Nat.toDigitsCore base fuel n [] ++ digits
  | 0, _, _ => rfl
  | fuel + 1, n, digits => by
    simp only [Nat.toDigitsCore]
    split
    · rfl
    · rw [toDigitsCore_eq_append base fuel _ (_ :: digits),
        toDigitsCore_eq_append base fuel _ [_], List.append_assoc, List.singleton_append]

theorem foldlM_toDigitsCore {base : Nat} (two : 2 ≤ base) (small : base ≤ 16) :
    ∀ (fuel n : Nat), n < fuel →
      (Nat.toDigitsCore base fuel n []).foldlM
        (fun value c => (digitValue base c).map (value * base + ·)) 0 = some n
  | 0, _, below => absurd below (Nat.not_lt_zero _)
  | fuel + 1, n, below => by
    have digit := digitValue_digitChar base small (n % base) (Nat.mod_lt n (by omega))
    simp only [Nat.toDigitsCore]
    split
    · rename_i last
      simp only [List.foldlM_cons, List.foldlM_nil, digit, Option.map_some', Option.bind_eq_bind,
        Option.some_bind, Option.pure_def, Nat.zero_mul, Nat.zero_add]
      rw [Nat.mod_eq_of_lt ((Nat.div_eq_zero_iff (by omega)).mp last)]
    · rename_i more
      have positive : 0 < n := Nat.pos_of_ne_zero fun zero => more (by rw [zero, Nat.zero_div])
      have shorter : n / base < fuel := by
        have := Nat.div_lt_self positive (by omega : 1 < base)
        omega
      rw [toDigitsCore_eq_append, List.foldlM_append,
        foldlM_toDigitsCore two small fuel _ shorter]
      simp only [List.foldlM_cons, List.foldlM_nil, digit, Option.map_some', Option.bind_eq_bind,
        Option.some_bind, Option.pure_def, Nat.div_add_mod']

/-- **Reading the digits `Nat.toDigits` writes gives the number back.** -/
theorem readNumber_toDigits {base : Nat} (two : 2 ≤ base) (small : base ≤ 16) (n : Nat) :
    readNumber base (Nat.toDigits base n) = some n := by
  rw [readNumber, if_neg (toDigits_ne_nil base n)]
  exact foldlM_toDigitsCore two small (n + 1) n (Nat.lt_succ_self n)

/-- An octet in decimal. -/
def readOctet (digits : List Char) : Option UInt8 :=
  ((readNumber 10 digits).filter (· < 256)).map Nat.toUInt8

/-- A segment in hexadecimal. -/
def readSegment (digits : List Char) : Option UInt16 :=
  ((readNumber 16 digits).filter (· < 65536)).map Nat.toUInt16

/-- A port in decimal. -/
def readPort (digits : List Char) : Option UInt16 :=
  ((readNumber 10 digits).filter (· < 65536)).map Nat.toUInt16

/-- A number below the bound, written in `base`, reads back through the bound's filter:
the one fact behind the three readers below. -/
theorem readNumber_toDigits_filter {base bound n : Nat} (two : 2 ≤ base) (small : base ≤ 16)
    (below : n < bound) : (readNumber base (Nat.toDigits base n)).filter (· < bound) = some n := by
  rw [readNumber_toDigits two small, Option.filter, if_pos (decide_eq_true below)]

theorem readOctet_repr (octet : UInt8) : readOctet (Nat.repr octet.toNat).data = some octet :=
  (congrArg (Option.map Nat.toUInt8)
    (readNumber_toDigits_filter (by decide) (by decide) octet.toNat_lt)).trans
      (congrArg some (Nat.toUInt8_toNat octet))

theorem readSegment_hexText (segment : UInt16) :
    readSegment (hexText segment.toNat).data = some segment :=
  (congrArg (Option.map Nat.toUInt16)
    (readNumber_toDigits_filter (by decide) (by decide) segment.toNat_lt)).trans
      (congrArg some (Nat.toUInt16_toNat segment))

theorem readPort_repr (port : UInt16) : readPort (Nat.repr port.toNat).data = some port :=
  (congrArg (Option.map Nat.toUInt16)
    (readNumber_toDigits_filter (by decide) (by decide) port.toNat_lt)).trans
      (congrArg some (Nat.toUInt16_toNat port))

/-- No digit is a separator: not a dot, a colon or a space. -/
theorem separator_not_mem_toDigits {base n : Nat} (positive : 0 < base) (small : base ≤ 16)
    {separator : Char} (notDigit : separator ∈ [' ', '.', ':']) :
    separator ∉ Nat.toDigits base n := by
  intro mem
  obtain ⟨d, below, rfl⟩ := mem_toDigits positive mem
  have : ∀ d < 16, Nat.digitChar d ∉ [' ', '.', ':'] := by decide
  exact this d (by omega) notDigit

/-! ## Version four -/

/-- A dotted quad. -/
def parseIpv4 (text : List Char) : Option Ipv4Addr :=
  match text.splitOn '.' with
  | [a, b, c, d] => do
    pure (Ipv4Addr.new (← readOctet a) (← readOctet b) (← readOctet c) (← readOctet d))
  | _ => none

theorem Ipv4Addr.new_getD (addr : Ipv4Addr) :
    Ipv4Addr.new (addr.octets.getD 0 0) (addr.octets.getD 1 0) (addr.octets.getD 2 0)
      (addr.octets.getD 3 0) = addr := by
  obtain ⟨octets, length⟩ := addr
  match octets, length with
  | [_, _, _, _], _ => rfl

theorem Ipv4Addr.toString_data (addr : Ipv4Addr) :
    addr.toString.data = ['.'].intercalate
      [(Nat.repr (addr.octets.getD 0 0).toNat).data, (Nat.repr (addr.octets.getD 1 0).toNat).data,
        (Nat.repr (addr.octets.getD 2 0).toNat).data,
        (Nat.repr (addr.octets.getD 3 0).toNat).data] := by
  simp [Ipv4Addr.toString, List.intercalate]

/-- **A dotted quad reads back as its address.** -/
theorem parseIpv4_toString (addr : Ipv4Addr) : parseIpv4 addr.toString.data = some addr := by
  rw [parseIpv4, Ipv4Addr.toString_data, List.splitOn_intercalate]
  · simp only [readOctet_repr]
    exact congrArg some addr.new_getD
  · simp only [List.mem_cons, List.mem_singleton, List.not_mem_nil, or_false]
    rintro _ (rfl | rfl | rfl | rfl) <;>
      exact separator_not_mem_toDigits (by decide) (by decide) (by decide)
  · simp

/-! ## Groups and separators -/

theorem intercalate_cons_eq {α : Type} (separator : α) (first : List α) :
    ∀ more : List (List α),
      [separator].intercalate (first :: more) = first ++ more.flatMap (separator :: ·)
  | [] => by simp [List.intercalate]
  | next :: more => by
    have := intercalate_cons_eq separator next more
    simp only [List.intercalate, List.intersperse_cons_cons, List.flatten_cons,
      List.flatMap_cons] at this ⊢
    rw [this]
    simp

/-- The hexadecimal groups of segments. -/
def hexGroups (segments : List UInt16) : List (List Char) :=
  segments.map fun segment => (hexText segment.toNat).data

theorem fmtSubslice_data (segments : List UInt16) :
    (fmtSubslice segments).data = [':'].intercalate (hexGroups segments) := by
  cases segments with
  | nil => rfl
  | cons first tail =>
    rw [fmtSubslice, data_foldl_hexText, hexGroups, List.map_cons, intercalate_cons_eq,
      List.flatMap_map]

theorem hexGroups_ne_nil {group : List Char} {segments : List UInt16}
    (mem : group ∈ hexGroups segments) : group ≠ [] := by
  obtain ⟨segment, -, rfl⟩ := List.mem_map.mp mem
  exact toDigits_ne_nil 16 segment.toNat

theorem separator_not_mem_hexGroups {group : List Char} {segments : List UInt16}
    {separator : Char} (notDigit : separator ∈ [' ', '.', ':'])
    (mem : group ∈ hexGroups segments) : separator ∉ group := by
  obtain ⟨segment, -, rfl⟩ := List.mem_map.mp mem
  exact separator_not_mem_toDigits (by decide) (by decide) notDigit

/-- The segments of colon-separated groups; none for the empty text. -/
def readGroups (text : List Char) : Option (List UInt16) :=
  if text = [] then some [] else (text.splitOn ':').mapM readSegment

theorem mapM_readSegment_hexGroups (segments : List UInt16) :
    (hexGroups segments).mapM readSegment = some segments := by
  induction segments with
  | nil => rfl
  | cons segment rest ih =>
    simp only [hexGroups, List.map_cons, List.mapM_cons, readSegment_hexText] at ih ⊢
    rw [ih]
    rfl

theorem readGroups_intercalate (segments : List UInt16) :
    readGroups ([':'].intercalate (hexGroups segments)) = some segments := by
  cases segments with
  | nil => rfl
  | cons first tail =>
    have nonempty : [':'].intercalate (hexGroups (first :: tail)) ≠ [] := by
      rw [hexGroups, List.map_cons, intercalate_cons_eq]
      exact List.append_ne_nil_of_left_ne_nil (toDigits_ne_nil 16 first.toNat) _
    rw [readGroups, if_neg nonempty, List.splitOn_intercalate _ _
      (fun _ mem => separator_not_mem_hexGroups (by decide) mem) (by simp [hexGroups]),
      mapM_readSegment_hexGroups]

/-- The text before the first `::` and the text after it. -/
def splitDoubleColon : List Char → Option (List Char × List Char)
  | ':' :: ':' :: rest => some ([], rest)
  | c :: rest => (splitDoubleColon rest).map fun (left, right) => (c :: left, right)
  | [] => none

theorem splitDoubleColon_cons {c : Char} (notColon : c ≠ ':') (rest : List Char) :
    splitDoubleColon (c :: rest) =
      (splitDoubleColon rest).map fun (left, right) => (c :: left, right) :=
  splitDoubleColon.eq_2 c rest fun _ same _ => notColon same

theorem splitDoubleColon_colon_cons {c : Char} (notColon : c ≠ ':') (rest : List Char) :
    splitDoubleColon (':' :: c :: rest) =
      (splitDoubleColon (c :: rest)).map fun (left, right) => (':' :: left, right) :=
  splitDoubleColon.eq_2 ':' (c :: rest) fun _ _ same => notColon (List.cons.inj same).1

/-- A group without colons is passed over. -/
theorem splitDoubleColon_group_append {group : List Char} (noColon : ':' ∉ group)
    (rest : List Char) :
    splitDoubleColon (group ++ rest) =
      (splitDoubleColon rest).map fun (left, right) => (group ++ left, right) := by
  induction group with
  | nil => simp
  | cons c group ih =>
    rw [List.cons_append, splitDoubleColon_cons (fun same => noColon (same ▸ List.mem_cons_self _ _)),
      ih (fun mem => noColon (List.mem_cons_of_mem _ mem)), Option.map_map]
    rfl

/-- Non-empty groups without colons, each after a colon, are passed over. -/
theorem splitDoubleColon_flatMap_append {groups : List (List Char)}
    (nonempty : ∀ group ∈ groups, group ≠ []) (noColon : ∀ group ∈ groups, ':' ∉ group)
    (rest : List Char) :
    splitDoubleColon (groups.flatMap (':' :: ·) ++ rest) =
      (splitDoubleColon rest).map fun (left, right) => (groups.flatMap (':' :: ·) ++ left, right) := by
  induction groups with
  | nil => simp
  | cons group more ih =>
    obtain ⟨c, tail, rfl⟩ := List.exists_cons_of_ne_nil (nonempty _ (List.mem_cons_self _ _))
    have groupColon := noColon _ (List.mem_cons_self _ _)
    have notColon : c ≠ ':' := fun same => groupColon (same ▸ List.mem_cons_self _ _)
    have tailColon : ':' ∉ tail := fun mem => groupColon (List.mem_cons_of_mem _ mem)
    rw [List.flatMap_cons, List.append_assoc, List.cons_append, List.cons_append,
      splitDoubleColon_colon_cons notColon, splitDoubleColon_cons notColon,
      splitDoubleColon_group_append tailColon,
      ih (fun g mem => nonempty g (List.mem_cons_of_mem _ mem))
        (fun g mem => noColon g (List.mem_cons_of_mem _ mem)),
      Option.map_map, Option.map_map, Option.map_map]
    congr 1
    funext ⟨left, right⟩
    simp

/-- **Single colons between non-empty groups are passed over**: the first `::` after
such a text is where the text ends. -/
theorem splitDoubleColon_intercalate_append {groups : List (List Char)}
    (nonempty : ∀ group ∈ groups, group ≠ []) (noColon : ∀ group ∈ groups, ':' ∉ group)
    (rest : List Char) :
    splitDoubleColon ([':'].intercalate groups ++ rest) =
      (splitDoubleColon rest).map fun (left, right) => ([':'].intercalate groups ++ left, right) := by
  cases groups with
  | nil => simp [List.intercalate]
  | cons first more =>
    rw [intercalate_cons_eq, List.append_assoc,
      splitDoubleColon_group_append (noColon first (List.mem_cons_self _ _)),
      splitDoubleColon_flatMap_append (fun g mem => nonempty g (List.mem_cons_of_mem _ mem))
        (fun g mem => noColon g (List.mem_cons_of_mem _ mem)), Option.map_map]
    congr 1
    funext ⟨left, right⟩
    simp

theorem not_mem_intercalate {c separator : Char} (different : c ≠ separator)
    {groups : List (List Char)} (absent : ∀ group ∈ groups, c ∉ group) :
    c ∉ [separator].intercalate groups := by
  cases groups with
  | nil => exact List.not_mem_nil c
  | cons first more =>
    rw [intercalate_cons_eq, List.mem_append, List.mem_flatMap]
    rintro (mem | ⟨group, inMore, mem⟩)
    · exact absent first (List.mem_cons_self _ _) mem
    · rcases List.mem_cons.mp mem with same | mem
      · exact different same
      · exact absent group (List.mem_cons_of_mem _ inMore) mem

/-! ## Version six -/

/-- An address from its eight segments. -/
def Ipv6Addr.ofSegments (segments : List UInt16) : Option Ipv6Addr :=
  if length : (segments.flatMap UInt16.toBeBytes).length = 16 then some ⟨_, length⟩ else none

theorem Ipv6Addr.ofSegments_segments (addr : Ipv6Addr) :
    Ipv6Addr.ofSegments addr.segments = some addr := by
  obtain ⟨octets, length⟩ := addr
  have bytes := flatMap_toBeBytes_pairSegments octets (by omega)
  rw [Ipv6Addr.ofSegments, dif_pos (by rw [Ipv6Addr.segments, bytes, length])]
  simp only [Option.some.injEq, Ipv6Addr.mk.injEq, Ipv6Addr.segments, bytes]

/-- Putting a run of zeros back where it was taken out gives the segments. -/
theorem take_append_replicate_drop {segments : List UInt16} {start len : Nat}
    (run : ZeroRun segments start len) (inside : start + len ≤ segments.length) :
    segments.take start ++ List.replicate len 0 ++ segments.drop (start + len) = segments := by
  have zeros : (segments.drop start).take len = List.replicate len 0 := by
    rw [List.eq_replicate_iff]
    refine ⟨by simp only [List.length_take, List.length_drop]; omega, fun b mem => ?_⟩
    obtain ⟨i, below, rfl⟩ := List.mem_iff_getElem.mp mem
    simp only [List.length_take, List.length_drop] at below
    have zero := run (start + i) (by omega) (by omega)
    rwa [List.getD_eq_getElem _ _ (by omega), ← List.getElem_drop, ← List.getElem_take] at zero
  calc segments.take start ++ List.replicate len 0 ++ segments.drop (start + len)
      = segments.take start ++
          ((segments.drop start).take len ++ (segments.drop start).drop len) := by
        rw [zeros, List.drop_drop, List.append_assoc]
    _ = segments := by rw [List.take_append_drop, List.take_append_drop]

/-- The IPv4-mapped address `::ffff:a.b.c.d`. -/
def Ipv4Addr.toIpv6Mapped (addr : Ipv4Addr) : Ipv6Addr :=
  ⟨[0, 0, 0, 0, 0, 0, 0, 0, 0, 0, 0xff, 0xff] ++ addr.octets, by simp [addr.length_octets]⟩

/-- An address `to_ipv4_mapped` reads as `a.b.c.d` is `::ffff:a.b.c.d`. The match on the
sixteen octets is taken apart test by test: each of the twelve leading octets is the
constant its pattern asks for. -/
theorem Ipv6Addr.octets_of_toIpv4Mapped {addr : Ipv6Addr} {ipv4 : Ipv4Addr}
    (mapped : addr.toIpv4Mapped = some ipv4) :
    addr.octets = [0, 0, 0, 0, 0, 0, 0, 0, 0, 0, 0xff, 0xff] ++ ipv4.octets := by
  obtain ⟨octets, length⟩ := addr
  match octets, length, mapped with
  | [_, _, _, _, _, _, _, _, _, _, _, _, _, _, _, _], _, mapped =>
    unfold Ipv6Addr.toIpv4Mapped at mapped
    delta Ipv6Addr.toIpv4Mapped.match_1 at mapped
    dsimp only at mapped
    iterate 12
      obtain ⟨rfl, mapped⟩ := Option.dite_none_right_eq_some.mp mapped
      dsimp only at mapped
    cases mapped
    rfl

theorem Ipv4Addr.toIpv6Mapped_of_toIpv4Mapped {addr : Ipv6Addr} {ipv4 : Ipv4Addr}
    (mapped : addr.toIpv4Mapped = some ipv4) : ipv4.toIpv6Mapped = addr := by
  have octets := Ipv6Addr.octets_of_toIpv4Mapped mapped
  obtain ⟨octets, length⟩ := addr
  simp only [Ipv4Addr.toIpv6Mapped, Ipv6Addr.mk.injEq]
  exact octets.symm

/-- The groups of a version six address, with at most one `::` standing for as many
zero segments as make eight. -/
def parseIpv6Groups (text : List Char) : Option Ipv6Addr :=
  match splitDoubleColon text with
  | some (left, right) => do
    let left ← readGroups left
    let right ← readGroups right
    if left.length + right.length < 8 then
      Ipv6Addr.ofSegments (left ++ List.replicate (8 - left.length - right.length) 0 ++ right)
    else none
  | none => readGroups text >>= Ipv6Addr.ofSegments

/-- The text of the IPv4-mapped form before its dotted quad. -/
def mappedPrefix : List Char := "::ffff:".data

/-- The text of a version six address: the IPv4-mapped form if it has a dot, its
groups otherwise. -/
def parseIpv6 (text : List Char) : Option Ipv6Addr :=
  if '.' ∈ text then
    if mappedPrefix.isPrefixOf text then
      (parseIpv4 (text.drop mappedPrefix.length)).map Ipv4Addr.toIpv6Mapped
    else none
  else parseIpv6Groups text

theorem parseIpv6_of_dot_not_mem {text : List Char} (noDot : '.' ∉ text) :
    parseIpv6 text = parseIpv6Groups text :=
  if_neg noDot

theorem parseIpv6Groups_intercalate (segments : List UInt16) :
    parseIpv6Groups ([':'].intercalate (hexGroups segments)) =
      readGroups ([':'].intercalate (hexGroups segments)) >>= Ipv6Addr.ofSegments := by
  have split := @splitDoubleColon_intercalate_append (hexGroups segments)
    (fun _ mem => hexGroups_ne_nil mem) (fun _ mem => separator_not_mem_hexGroups (by decide) mem) []
  rw [List.append_nil] at split
  rw [parseIpv6Groups, split]
  rfl

theorem parseIpv6Groups_compressed {left right : List UInt16}
    (fewer : left.length + right.length < 8) :
    parseIpv6Groups ([':'].intercalate (hexGroups left) ++ ':' :: ':' ::
        [':'].intercalate (hexGroups right)) =
      Ipv6Addr.ofSegments
        (left ++ List.replicate (8 - left.length - right.length) 0 ++ right) := by
  rw [parseIpv6Groups, splitDoubleColon_intercalate_append (fun _ mem => hexGroups_ne_nil mem)
    (fun _ mem => separator_not_mem_hexGroups (by decide) mem)]
  simp only [splitDoubleColon, Option.map_some', List.append_nil, readGroups_intercalate,
    Option.bind_eq_bind, Option.some_bind, if_pos fewer]

/-- **The text `std` writes for a version six address reads back as the address.** -/
theorem parseIpv6_toString (addr : Ipv6Addr) : parseIpv6 addr.toString.data = some addr := by
  unfold Ipv6Addr.toString
  cases mapped : addr.toIpv4Mapped with
  | some ipv4 =>
    have dot : '.' ∈ ipv4.toString.data := by
      rw [Ipv4Addr.toString_data]
      simp [List.intercalate]
    rw [String.data_append, show "::ffff:".data = mappedPrefix from rfl, parseIpv6,
      if_pos (List.mem_append_right _ dot),
      if_pos (List.isPrefixOf_iff_prefix.mpr (List.prefix_append mappedPrefix _)),
      List.drop_left, parseIpv4_toString, Option.map_some',
      ipv4.toIpv6Mapped_of_toIpv4Mapped mapped]
  | none =>
    have inside := longestZeroSpan_end_le addr.segments
    have zeros := (longestZeroSpan_longest addr.segments).1
    simp only [Ipv6Addr.length_segments] at inside
    dsimp only
    split
    · rename_i compressed
      simp only [String.data_append, fmtSubslice_data]
      rw [List.append_assoc, List.cons_append, List.cons_append, List.nil_append,
        parseIpv6_of_dot_not_mem, parseIpv6Groups_compressed]
      · rw [List.length_take, List.length_drop, Ipv6Addr.length_segments,
          show 8 - min (longestZeroSpan addr.segments).start 8 -
              (8 - ((longestZeroSpan addr.segments).start + (longestZeroSpan addr.segments).len)) =
            (longestZeroSpan addr.segments).len by omega,
          take_append_replicate_drop zeros (by rw [Ipv6Addr.length_segments]; exact inside),
          Ipv6Addr.ofSegments_segments]
      · simp only [List.length_take, List.length_drop, Ipv6Addr.length_segments]
        omega
      · simp only [List.mem_append, List.mem_cons, not_or]
        exact ⟨not_mem_intercalate (by decide) fun _ mem => separator_not_mem_hexGroups
            (by decide) mem, by decide, by decide,
          not_mem_intercalate (by decide) fun _ mem => separator_not_mem_hexGroups
            (by decide) mem⟩
    · rw [fmtSubslice_data, parseIpv6_of_dot_not_mem (not_mem_intercalate (by decide)
          fun _ mem => separator_not_mem_hexGroups (by decide) mem),
        parseIpv6Groups_intercalate, readGroups_intercalate]
      exact Ipv6Addr.ofSegments_segments addr

end Rama.Net
