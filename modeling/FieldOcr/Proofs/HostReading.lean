import FieldOcr.Proofs.Ipv6Reading
import FieldOcr.Proofs.PathReading

/-!
# Reading hosts

A host that was read is in canonical form: a name in its ASCII form, an IPv4
address in dotted decimal notation, or an IPv6 address in its shortest form in
square brackets.  Reading a host in canonical form again changes nothing, if
the conversion of names keeps what is promised of it.
-/

namespace FieldOcr

namespace Text

/-- The digits of numbers are in the first half of a byte. -/
theorem toNat_lt_of_digitValue?
    {character : Char}
    (digit : (digitValue? 16 character).isSome = true) :
    character.toNat < 0x7F := by
  obtain ⟨value, read⟩ := Option.isSome_iff_exists.mp digit
  unfold digitValue? at read
  have read := (Option.filter_eq_some_iff.mp read).1
  simp only [Bool.and_eq_true, decide_eq_true_eq] at read
  split at read
  · omega
  split at read
  · omega
  split at read
  · omega
  · cases read

/-- What holds of the first characters holds of every one among them. -/
theorem of_ascii
    (property : Char -> Prop)
    (checked : ∀ code : Fin 0x7F, property (Char.ofNat code))
    {character : Char}
    (ascii : character.toNat < 0x7F) :
    property character := by
  have known := checked ⟨character.toNat, ascii⟩
  rwa [Char.ofNat_toNat] at known

end Text

namespace Url

/-! ## Characters of names -/

theorem toNat_lt_of_permitted
    {character : Char}
    (permitted : forbiddenInName character = false) :
    character.toNat < 0x7F := by
  simp only [forbiddenInName, Bool.or_eq_false_iff,
    decide_eq_false_iff_not] at permitted
  omega

/-- No byte of a character that may stand in a name is a percent sign. -/
theorem percent_notMem_encodeChar
    {character : Char}
    (permitted : forbiddenInName character = false) :
    0x25 ∉ Text.Utf8.encodeChar character := by
  have ascii := toNat_lt_of_permitted permitted
  revert permitted
  exact
    Text.of_ascii
      (fun character =>
        forbiddenInName character = false ->
          0x25 ∉ Text.Utf8.encodeChar character)
      (by decide +kernel) ascii

theorem percentDecode_of_notMem
    {bytes : List UInt8}
    (plain : 0x25 ∉ bytes) :
    percentDecode bytes = bytes := by
  induction bytes with
  | nil => rfl
  | cons byte bytes inductionHypothesis =>
      rw [List.mem_cons, not_or] at plain
      rw [percentDecode_cons (Ne.symm plain.1), inductionHypothesis plain.2]

theorem permitted_of_isDigit
    {character : Char}
    (digit : character.isDigit = true) :
    forbiddenInName character = false := by
  have code := Text.isDigit_iff.mp digit
  revert digit
  exact
    Text.of_ascii
      (fun character =>
        character.isDigit = true -> forbiddenInName character = false)
      (by decide +kernel) (by omega)

/-! ## The extent of a host -/

/-- A character can stand in a host. -/
def IsHostCharacter (character : Char) : Prop :=
  0x20 < character.toNat ∧ character ∉ "/?#@\\".toList

instance (character : Char) : Decidable (IsHostCharacter character) :=
  inferInstanceAs (Decidable (_ ∧ _))

/-- Text that may follow a host: a port or the rest of an address. -/
def Stops (behind : List Char) : Prop :=
  ∀ character ∈ behind.head?,
    character = ':' ∨ endsAuthority true character = true

theorem IsHostCharacter.endsAuthority_eq
    {character : Char}
    (plain : IsHostCharacter character) :
    endsAuthority true character = false := by
  have other := plain.2
  simp [endsAuthority] at other ⊢
  tauto

theorem splitHost_of_stops
    {behind : List Char}
    (stops : Stops behind)
    (taken : List Char) :
    splitHost true false taken behind = (taken.reverse, behind) := by
  cases behind with
  | nil => rfl
  | cons character behind =>
      have ends := stops character rfl
      simp [splitHost, ends]

/-- A host without colons and brackets ends where it stops. -/
theorem splitHost_of_forall
    {host behind : List Char}
    (plain :
      ∀ character ∈ host,
        IsHostCharacter character ∧ character ≠ ':' ∧ character ≠ '[')
    (stops : Stops behind)
    (taken : List Char) :
    splitHost true false taken (host ++ behind) =
      (taken.reverse ++ host, behind) := by
  induction host generalizing taken with
  | nil => simpa using splitHost_of_stops stops taken
  | cons character host inductionHypothesis =>
      rw [List.forall_mem_cons] at plain
      obtain ⟨⟨first, colon, bracket⟩, plain⟩ := plain
      have apart : (character == '[') = false := by simpa using bracket
      rw [List.cons_append, splitHost]
      simp only [first.endsAuthority_eq, colon, apart, beq_iff_eq, Bool.false_and,
        Bool.or_false, Bool.not_false, Bool.and_true, if_false]
      rw [inductionHypothesis plain, List.reverse_cons, List.append_assoc,
        List.singleton_append]

/-- Colons between brackets belong to the host. -/
theorem splitHost_inside
    {body : List Char}
    (plain :
      ∀ character ∈ body, IsHostCharacter character ∧ character ≠ ']')
    (taken behind : List Char) :
    splitHost true true taken (body ++ ']' :: behind) =
      splitHost true false (']' :: (body.reverse ++ taken)) behind := by
  induction body generalizing taken with
  | nil => simp [splitHost, endsAuthority]
  | cons character body inductionHypothesis =>
      rw [List.forall_mem_cons] at plain
      obtain ⟨⟨first, bracket⟩, plain⟩ := plain
      have apart : (character != ']') = true := by simpa using bracket
      rw [List.cons_append, splitHost]
      simp only [first.endsAuthority_eq, apart, Bool.not_true, Bool.and_false,
        Bool.or_false, Bool.and_true, Bool.or_true, Bool.false_eq_true,
        if_false]
      rw [inductionHypothesis plain, List.reverse_cons, List.append_assoc,
        List.singleton_append]

theorem isHostCharacter_of_permitted
    {character : Char}
    (permitted : forbiddenInName character = false) :
    IsHostCharacter character ∧ character ≠ ':' ∧ character ≠ '[' := by
  simp only [forbiddenInName, Bool.or_eq_false_iff,
    decide_eq_false_iff_not] at permitted
  obtain ⟨⟨visible, -⟩, other⟩ := permitted
  refine ⟨⟨by omega, ?_⟩, ?_⟩ <;>
  · simp at other ⊢
    tauto

theorem isHostCharacter_of_digit
    {character : Char}
    (digit : (Text.digitValue? 16 character).isSome = true) :
    IsHostCharacter character ∧ character ≠ ']' := by
  have ascii := Text.toNat_lt_of_digitValue? digit
  revert digit
  exact
    Text.of_ascii
      (fun character =>
        (Text.digitValue? 16 character).isSome = true ->
          IsHostCharacter character ∧ character ≠ ']')
      (by decide +kernel) ascii

/-- The characters of an IPv6 address can stand in a host, and none of them is
its closing bracket. -/
theorem isHostCharacter_of_mem_ipv6Body
    {groups : List Nat}
    {character : Char}
    (member : character ∈ ipv6Body groups) :
    IsHostCharacter character ∧ character ≠ ']' := by
  rcases mem_ipv6Body member with rfl | digit
  · decide
  · exact isHostCharacter_of_digit digit

/-! ## IPv4 addresses -/

/-- The four parts of an IPv4 address. -/
def ipv4Parts (address : Nat) : List Nat :=
  [24, 16, 8, 0].map fun shift => address / Nat.pow 2 shift % 256

theorem renderIpv4_eq (address : Nat) :
    renderIpv4 address =
      ['.'].intercalate ((ipv4Parts address).map Text.decimal) := by
  simp [renderIpv4, ipv4Parts, List.intercalate]

theorem ipv4Number?_decimal {number : Nat} (below : number < 256) :
    ipv4Number? (Text.decimal number) = some (some number) := by
  have checked :
      ∀ number : Fin 256,
        ipv4Number? (Text.decimal number) = some (some number.val) := by
    decide +kernel
  exact checked ⟨number, below⟩

theorem ipv4Parts_below (address : Nat) :
    ∀ part ∈ ipv4Parts address, part < 256 := by
  intro part among
  obtain ⟨shift, -, rfl⟩ := List.mem_map.mp among
  exact Nat.mod_lt _ (by decide)

theorem decimal_ne_nil (number : Nat) : Text.decimal number ≠ [] := by
  rw [Text.decimal]
  split <;> simp

/-- The parts of an IPv4 address are read from between its dots. -/
theorem splitAll_renderIpv4 (address : Nat) :
    Text.splitAll '.' (renderIpv4 address) =
      (ipv4Parts address).map Text.decimal := by
  rw [renderIpv4_eq, Text.splitAll_intercalate _ (by simp [ipv4Parts])]
  intro part among dot
  obtain ⟨number, -, rfl⟩ := List.mem_map.mp among
  exact absurd (Text.isDigit_of_mem_decimal dot) (by decide)

theorem nameParts_renderIpv4 (address : Nat) :
    nameParts (renderIpv4 address) =
      (ipv4Parts address).map Text.decimal := by
  unfold nameParts
  rw [splitAll_renderIpv4]
  simp [ipv4Parts, decimal_ne_nil]

/-- An IPv4 address is written in digits and dots. -/
theorem mem_renderIpv4
    {address : Nat}
    {character : Char}
    (member : character ∈ renderIpv4 address) :
    character = '.' ∨ character.isDigit = true := by
  rw [renderIpv4_eq] at member
  apply (Text.mem_intercalate member).imp_right
  rintro ⟨part, among, within⟩
  obtain ⟨number, -, rfl⟩ := List.mem_map.mp among
  exact Text.isDigit_of_mem_decimal within

theorem endsInNumber_renderIpv4 (address : Nat) :
    endsInNumber (renderIpv4 address) = true := by
  unfold endsInNumber
  rw [nameParts_renderIpv4]
  simp [ipv4Parts, allDigits, decimal_ne_nil]
  left
  exact fun _ => Text.isDigit_of_mem_decimal

/-- The number that bytes make up, the first one being the most significant. -/
def ofBytes (bytes : List Nat) : Nat :=
  bytes.foldl (fun value number => value * 256 + number) 0

theorem ofBytes_concat (bytes : List Nat) (last : Nat) :
    ofBytes (bytes ++ [last]) = ofBytes bytes * 256 + last := by
  rw [ofBytes, List.foldl_append]
  rfl

theorem ofBytes_lt
    {bytes : List Nat}
    (small : ∀ byte ∈ bytes, byte ≤ 255) :
    ofBytes bytes < Nat.pow 256 bytes.length := by
  induction bytes using List.reverseRecOn with
  | nil => decide
  | append_singleton bytes last inductionHypothesis =>
      rw [List.forall_mem_append, List.forall_mem_singleton] at small
      have below := inductionHypothesis small.1
      rw [ofBytes_concat, List.length_append, List.length_singleton]
      change _ < 256 ^ (_ + 1)
      change _ < 256 ^ _ at below
      rw [Nat.pow_succ]
      omega

/-- A name is read as an IPv4 address if it has at most four parts, all of them
but the last one being bytes, and the last one fits what is left of 32 bits. -/
theorem readIpv4_eq_ok_iff {name : List Char} {address : Nat} :
    readIpv4 name = .ok address ↔
      (nameParts name).length ≤ 4 ∧
        ∃ numbers,
          (nameParts name).mapM (fun part => (ipv4Number? part).join) =
              some numbers ∧
            (numbers.getLast?.getD 0 <
              Nat.pow 2 (8 * (4 - numbers.dropLast.length)) ∧
            (∀ number ∈ numbers.dropLast, number ≤ 255) ∧
            ofBytes numbers.dropLast *
                Nat.pow 2 (8 * (4 - numbers.dropLast.length)) +
              numbers.getLast?.getD 0 = address) := by
  unfold readIpv4
  dsimp only
  by_cases many : 4 < (nameParts name).length
  · simp [many]
  rw [if_neg many]
  cases (nameParts name).mapM fun part => (ipv4Number? part).join with
  | none => simp
  | some numbers =>
      dsimp only
      by_cases large :
          Nat.pow 2 (8 * (4 - numbers.dropLast.length)) ≤
            numbers.getLast?.getD 0
      · rw [if_pos large]
        refine iff_of_false (by simp) ?_
        rintro ⟨-, _, ⟨⟩, small, -⟩
        omega
      rw [if_neg large]
      by_cases wide : numbers.dropLast.any (255 < ·) = true
      · rw [if_pos wide]
        refine iff_of_false (by simp) ?_
        rintro ⟨-, _, ⟨⟩, -, narrow, -⟩
        simp only [List.any_eq_true, decide_eq_true_eq] at wide
        obtain ⟨number, among, great⟩ := wide
        have := narrow number among
        omega
      · rw [if_neg wide, Except.ok.injEq]
        simp only [List.any_eq_true, decide_eq_true_eq, not_exists, not_and,
          not_lt] at wide
        constructor
        · rintro rfl
          exact ⟨by omega, numbers, rfl, by omega, wide, rfl⟩
        · rintro ⟨-, _, ⟨⟩, -, -, rfl⟩
          rfl

/-- An IPv4 address is read back from its notation. -/
theorem readIpv4_renderIpv4 {address : Nat} (below : address < Nat.pow 2 32) :
    readIpv4 (renderIpv4 address) = .ok address := by
  have numbers :
      ((ipv4Parts address).map Text.decimal).mapM
          (fun part => (ipv4Number? part).join) =
        some (ipv4Parts address) := by
    rw [Text.mapM_eq_some_iff, List.map_map]
    apply List.map_congr_left
    intro part among
    rw [Function.comp_apply,
      ipv4Number?_decimal (ipv4Parts_below address part among)]
    rfl
  rw [readIpv4_eq_ok_iff, nameParts_renderIpv4]
  refine ⟨by simp [ipv4Parts], ipv4Parts address, numbers, ?_⟩
  have whole : Nat.pow 2 32 = 4294967296 := rfl
  rw [whole] at below
  simp [ipv4Parts, ofBytes]
  omega

/-- An IPv4 address that was read fits 32 bits. -/
theorem readIpv4_lt
    {name : List Char}
    {address : Nat}
    (read : readIpv4 name = .ok address) :
    address < Nat.pow 2 32 := by
  obtain ⟨few, numbers, mapped, last, narrow, rfl⟩ :=
    readIpv4_eq_ok_iff.mp read
  have same := congrArg List.length (Text.mapM_eq_some_iff.mp mapped)
  have short : numbers.dropLast.length ≤ 3 := by
    rw [List.length_map, List.length_map] at same
    rw [List.length_dropLast]
    omega
  have high := ofBytes_lt narrow
  generalize numbers.dropLast.length = count at *
  generalize ofBytes numbers.dropLast = value at *
  generalize numbers.getLast?.getD 0 = rest at *
  interval_cases count <;> simp at * <;> omega

/-! ## Names -/

/-- What is promised of a conversion of names to ASCII. -/
structure NameConversion.Lawful (conversion : NameConversion) : Prop where
  /-- The ASCII form of a name holds only characters that a name may hold. -/
  permitted :
    ∀ bytes name,
      conversion.toAscii? bytes = some name ->
        ∀ character ∈ name, forbiddenInName character = false
  /-- The ASCII form of a name is its own ASCII form. -/
  stable :
    ∀ bytes name,
      conversion.toAscii? bytes = some name ->
        conversion.toAscii? (Text.Utf8.encode name) = some name
  /-- An IPv4 address in dotted decimal notation stands for itself. -/
  numeric :
    ∀ address,
      conversion.toAscii? (Text.Utf8.encode (renderIpv4 address)) =
        some (renderIpv4 address)

variable [conversion : NameConversion]

/-- A name as it stands in an address that was read. -/
structure IsCanonicalName (name : List Char) : Prop where
  /-- There is some of it. -/
  nonempty : name ≠ []
  /-- Its characters may stand in a name. -/
  permitted : ∀ character ∈ name, forbiddenInName character = false
  /-- It is its own ASCII form. -/
  stable : conversion.toAscii? (Text.Utf8.encode name) = some name

theorem readName_isCanonicalName
    (lawful : conversion.Lawful)
    {text name : List Char}
    (read : readName text = .ok name) :
    IsCanonicalName name := by
  unfold readName at read
  split at read
  · cases read
  next converted =>
  split at read
  · cases read
  next nonempty =>
  cases read
  exact
    ⟨by simpa using nonempty, lawful.permitted _ _ converted,
      lawful.stable _ _ converted⟩

/-- A name in canonical form is read as itself. -/
theorem IsCanonicalName.readName_eq
    {name : List Char}
    (canonical : IsCanonicalName name) :
    readName name = .ok name := by
  have undecoded : 0x25 ∉ Text.Utf8.encode name := by
    intro sign
    obtain ⟨character, member, sign⟩ := List.mem_flatMap.mp sign
    exact
      percent_notMem_encodeChar (canonical.permitted character member) sign
  unfold readName
  rw [percentDecode_of_notMem undecoded, canonical.stable]
  dsimp only
  rw [if_neg (by simpa using canonical.nonempty)]

/-! ## Hosts in canonical form -/

/-- A host as it stands in an address that was read. -/
structure IsCanonicalHost (host : List Char) : Prop where
  /-- There is some of it. -/
  nonempty : host ≠ []
  /-- Its characters can stand in a host. -/
  plain : ∀ character ∈ host, IsHostCharacter character
  /-- It is split from what follows it. -/
  split :
    ∀ behind,
      Stops behind -> splitHost true false [] (host ++ behind) = (host, behind)
  /-- It is read as itself. -/
  read : readHost host = .ok host

/-- A name in canonical form is a host in canonical form if it is read as
one. -/
theorem IsCanonicalName.isCanonicalHost
    {name : List Char}
    (canonical : IsCanonicalName name)
    (read : readHost name = .ok name) :
    IsCanonicalHost name where
  nonempty := canonical.nonempty
  plain := fun character member =>
    (isHostCharacter_of_permitted (canonical.permitted character member)).1
  split := fun _ stops =>
    splitHost_of_forall
      (fun character member =>
        isHostCharacter_of_permitted (canonical.permitted character member))
      stops []
  read := read

/-- A name in canonical form is read as a host: as an IPv4 address if it ends in
a number, and else as itself. -/
theorem IsCanonicalName.readHost_eq
    {name : List Char}
    (canonical : IsCanonicalName name) :
    readHost name =
      if endsInNumber name then (readIpv4 name).map renderIpv4
      else .ok name := by
  unfold readHost
  split
  · exact absurd (canonical.permitted '[' List.mem_cons_self) (by decide)
  · rw [canonical.readName_eq]

theorem isCanonicalName_renderIpv4
    (lawful : conversion.Lawful)
    (address : Nat) :
    IsCanonicalName (renderIpv4 address) where
  nonempty := by simp [renderIpv4]
  permitted := by
    intro character member
    rcases mem_renderIpv4 member with rfl | digit
    · decide
    · exact permitted_of_isDigit digit
  stable := lawful.numeric address

theorem isCanonicalHost_renderIpv4
    (lawful : conversion.Lawful)
    {address : Nat}
    (below : address < Nat.pow 2 32) :
    IsCanonicalHost (renderIpv4 address) := by
  have canonical := isCanonicalName_renderIpv4 lawful address
  apply canonical.isCanonicalHost
  rw [canonical.readHost_eq, if_pos (endsInNumber_renderIpv4 address),
    readIpv4_renderIpv4 below]
  rfl

theorem isCanonicalHost_renderIpv6
    {groups : List Nat}
    (valid : IsIpv6 groups) :
    IsCanonicalHost (renderIpv6 groups) where
  nonempty := by
    rw [renderIpv6_eq]
    exact List.cons_ne_nil _ _
  plain := by
    intro character member
    rw [renderIpv6_eq, List.cons_append, List.mem_cons, List.mem_append,
      List.mem_singleton] at member
    rcases member with rfl | inside | rfl
    · decide
    · exact (isHostCharacter_of_mem_ipv6Body inside).1
    · decide
  split := by
    intro behind stops
    have inside :
        ∀ character ∈ ipv6Body groups,
          IsHostCharacter character ∧ character ≠ ']' :=
      fun _ => isHostCharacter_of_mem_ipv6Body
    have opening :
        splitHost true false [] ('[' :: (ipv6Body groups ++ ']' :: behind)) =
          splitHost true true ['['] (ipv6Body groups ++ ']' :: behind) := rfl
    rw [renderIpv6_eq, List.append_assoc, List.cons_append,
      List.singleton_append, opening, splitHost_inside inside,
      splitHost_of_stops stops]
    simp
  read := by
    have closed : (ipv6Body groups ++ [']']).getLast? = some ']' :=
      List.getLast?_concat
    rw [renderIpv6_eq, List.cons_append, readHost, closed,
      List.dropLast_concat, readIpv6_ipv6Body valid]
    rfl

/-- A host that was read is in canonical form. -/
theorem readHost_isCanonicalHost
    (lawful : conversion.Lawful)
    {text host : List Char}
    (read : readHost text = .ok host) :
    IsCanonicalHost host := by
  unfold readHost at read
  split at read
  · split at read
    · obtain ⟨groups, valid, rfl⟩ := exists_of_map_eq_ok read
      exact isCanonicalHost_renderIpv6 (readIpv6_isIpv6 valid)
    · cases read
  · split at read
    · cases read
    · next name named =>
        have canonical := readName_isCanonicalName lawful named
        split at read
        · obtain ⟨address, valid, rfl⟩ := exists_of_map_eq_ok read
          exact isCanonicalHost_renderIpv4 lawful (readIpv4_lt valid)
        · next ordinary =>
            cases read
            apply canonical.isCanonicalHost
            rw [canonical.readHost_eq, if_neg ordinary]

end Url
end FieldOcr
