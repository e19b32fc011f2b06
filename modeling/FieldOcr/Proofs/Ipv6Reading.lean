import FieldOcr.Proofs.FormReading
import FieldOcr.Proofs.RegionReading
import FieldOcr.Url.Host
import Mathlib.Tactic.IntervalCases

/-!
# Reading IPv6 addresses

An IPv6 address that was read has eight groups of 16 bits.  Its notation, in
which the longest run of zeros is left out, is read back as these groups.
-/

namespace FieldOcr

namespace Text

/-! ## Digits of numbers -/

theorem mem_intercalate
    {separator character : Char}
    {parts : List (List Char)}
    (member : character ∈ [separator].intercalate parts) :
    character = separator ∨ ∃ part ∈ parts, character ∈ part := by
  induction parts with
  | nil => exact absurd member List.not_mem_nil
  | cons first parts inductionHypothesis =>
      cases parts with
      | nil =>
          right
          exact ⟨first, List.mem_cons_self, by simpa using member⟩
      | cons second parts =>
          rw [List.intercalate_cons_cons, List.mem_append, List.mem_append,
            List.mem_singleton] at member
          rcases member with (within | separates) | behind
          · exact Or.inr ⟨first, List.mem_cons_self, within⟩
          · exact Or.inl separates
          · apply (inductionHypothesis behind).imp_right
            rintro ⟨part, among, within⟩
            exact ⟨part, List.mem_cons_of_mem _ among, within⟩

theorem digitValue?_digitChar
    {base digit : Nat}
    (small : base ≤ 16)
    (below : digit < base) :
    digitValue? base digit.digitChar = some digit := by
  have bounded : digit < 16 := by omega
  interval_cases digit <;> simp [digitValue?, Nat.digitChar, below]

/-- The digits of a number stand for it. -/
theorem numeralFrom?_toDigits
    {base : Nat}
    (several : 1 < base)
    (small : base ≤ 16)
    (number : Nat) :
    numeralFrom? base 0 (Nat.toDigits base number) = some number := by
  induction number using Nat.strongRecOn with
  | ind number inductionHypothesis =>
      by_cases single : number < base
      · rw [Nat.toDigits_of_lt_base single, numeralFrom?_cons,
          digitValue?_digitChar small single]
        simp
      · rw [not_lt] at single
        have less : number / base < number :=
          Nat.div_lt_self (by omega) several
        rw [Nat.toDigits_of_base_le several single, numeralFrom?_append,
          inductionHypothesis _ less, Option.bind_some, numeralFrom?_cons,
          digitValue?_digitChar small (Nat.mod_lt _ (by omega)),
          Option.bind_some, numeralFrom?_nil, Nat.div_add_mod']

/-- The digits of a number are read as it. -/
theorem readDigits_toDigits
    {base limit number : Nat}
    {overflow : NumeralFault}
    (several : 1 < base)
    (small : base ≤ 16)
    (below : number ≤ limit) :
    readDigits base limit overflow 0 (Nat.toDigits base number) =
      .ok number :=
  (readDigits_eq_ok_iff (by omega) (Nat.zero_le _)).mpr
    ⟨numeralFrom?_toDigits several small number, below⟩

/-- Digits are read as a number up to the limit. -/
theorem le_of_readDigits
    {base limit number : Nat}
    {overflow : NumeralFault}
    {text : List Char}
    (positive : 0 < base)
    (read : readDigits base limit overflow 0 text = .ok number) :
    number ≤ limit :=
  ((readDigits_eq_ok_iff positive (Nat.zero_le _)).mp read).2

/-- Text that stands for a number holds digits only. -/
theorem isSome_digitValue?_of_numeralFrom?
    {base value number : Nat}
    {text : List Char}
    (stands : numeralFrom? base value text = some number) :
    ∀ character ∈ text, (digitValue? base character).isSome = true := by
  induction text generalizing value with
  | nil => exact fun _ member => absurd member List.not_mem_nil
  | cons digit text inductionHypothesis =>
      rw [numeralFrom?_cons, Option.bind_eq_some_iff] at stands
      obtain ⟨read, first, rest⟩ := stands
      rw [List.forall_mem_cons, first]
      exact ⟨rfl, inductionHypothesis rest⟩

/-- A list is read exactly if each of its members is. -/
theorem mapM_eq_some_iff
    {α β : Type}
    {read : α -> Option β}
    {sources : List α}
    {values : List β} :
    sources.mapM read = some values ↔ sources.map read = values.map some := by
  induction sources generalizing values with
  | nil => cases values <;> simp
  | cons source sources inductionHypothesis =>
      cases values with
      | nil =>
          cases source? : read source <;>
            cases rest? : sources.mapM read <;> simp [source?, rest?]
      | cons value values =>
          rw [List.map_cons, List.map_cons, List.cons.injEq,
            ← inductionHypothesis, List.mapM_cons]
          cases read source <;> cases sources.mapM read <;> simp

/-- What was read from a list was read from its members. -/
theorem exists_of_mapM_eq_some
    {α β : Type}
    {read : α -> Option β}
    {sources : List α}
    {values : List β}
    (mapped : sources.mapM read = some values) :
    ∀ value ∈ values, ∃ source ∈ sources, read source = some value := by
  intro value among
  rw [← List.mem_map, mapM_eq_some_iff.mp mapped]
  exact List.mem_map_of_mem among

end Text

namespace Url

/-! ## Groups -/

/-- The eight groups of an IPv6 address. -/
structure IsIpv6 (groups : List Nat) : Prop where
  /-- There are eight of them. -/
  count : groups.length = 8
  /-- Each fits 16 bits. -/
  below : ∀ group ∈ groups, group < Nat.pow 2 16

theorem ipv6Group?_lt
    {text : List Char}
    {group : Nat}
    (read : ipv6Group? text = some group) :
    group < Nat.pow 2 16 := by
  unfold ipv6Group? at read
  split at read
  · cases read
  · split at read
    · next value digits =>
        cases read
        exact Nat.lt_succ_of_le (Text.le_of_readDigits (by decide) digits)
    · cases read

theorem embeddedPart?_lt
    {text : List Char}
    {part : Nat}
    (read : embeddedPart? text = some part) :
    part < 256 := by
  unfold embeddedPart? at read
  split at read
  · cases read
  split at read
  · cases read
  split at read
  · next value digits =>
      cases read
      exact Nat.lt_succ_of_le (Text.le_of_readDigits (by decide) digits)
  · cases read

/-- Groups that were read fit 16 bits. -/
theorem ipv6Groups?_lt
    {text : List Char}
    {groups : List Nat}
    (read : ipv6Groups? text = some groups) :
    ∀ group ∈ groups, group < Nat.pow 2 16 := by
  have mapped
      {parts : List (List Char)}
      {groups : List Nat}
      (read : parts.mapM ipv6Group? = some groups) :
      ∀ group ∈ groups, group < Nat.pow 2 16 := by
    intro group among
    obtain ⟨part, -, single⟩ := Text.exists_of_mapM_eq_some read group among
    exact ipv6Group?_lt single
  unfold ipv6Groups? at read
  split at read
  · cases read
    exact fun _ among => absurd among List.not_mem_nil
  dsimp only at read
  split at read
  · cases read
  split at read
  · split at read
    · next front first second third fourth leading embedded =>
        cases read
        have bytes :
            ∀ part ∈ [first, second, third, fourth], part < 256 := by
          intro part among
          obtain ⟨_, -, single⟩ :=
            Text.exists_of_mapM_eq_some embedded part among
          exact embeddedPart?_lt single
        have whole : Nat.pow 2 16 = 65536 := rfl
        rw [List.forall_mem_append]
        refine ⟨mapped leading, ?_⟩
        simp only [List.forall_mem_cons, List.not_mem_nil, IsEmpty.forall_iff,
          implies_true, and_true, whole] at bytes ⊢
        omega
    · cases read
  · exact mapped read

theorem readIpv6_isIpv6
    {text : List Char}
    {groups : List Nat}
    (read : readIpv6 text = .ok groups) :
    IsIpv6 groups := by
  unfold readIpv6 at read
  dsimp only at read
  split at read
  · next found =>
      cases read
      split at found
      · next before behind gap =>
          split at found
          · next left right leftRead rightRead =>
              split at found
              · cases found
              · next few =>
                  cases found
                  simp only [Bool.or_eq_true, decide_eq_true_eq, not_or,
                    not_lt] at few
                  refine ⟨?_, ?_⟩
                  · simp only [List.length_append, List.length_replicate]
                    omega
                  · rw [List.forall_mem_append, List.forall_mem_append]
                    refine ⟨⟨ipv6Groups?_lt leftRead, ?_⟩,
                      ipv6Groups?_lt rightRead⟩
                    intro group among
                    rw [List.eq_of_mem_replicate among]
                    decide
          · cases found
      · obtain ⟨groupsRead, eight⟩ := Option.filter_eq_some_iff.mp found
        exact ⟨by simpa using eight, ipv6Groups?_lt groupsRead⟩
  · cases read

/-- The hexadecimal digits of a group are read as it. -/
theorem ipv6Group?_toDigits {group : Nat} (below : group < Nat.pow 2 16) :
    ipv6Group? (Nat.toDigits 16 group) = some group := by
  have short : (Nat.toDigits 16 group).length ≤ 4 :=
    (Nat.length_toDigits_le_iff (by decide) (by decide)).mpr below
  have digits :
      Text.readDigits 16 0xFFFF .tooLarge 0 (Nat.toDigits 16 group) =
        .ok group :=
    Text.readDigits_toDigits (by decide) (by decide) (Nat.le_of_lt_succ below)
  unfold ipv6Group?
  rw [if_neg (by simp [Nat.toDigits_ne_nil, short]), digits]

/-- A character in the notation of groups. -/
theorem mem_toDigits_sixteen
    {group : Nat}
    {character : Char}
    (member : character ∈ Nat.toDigits 16 group) :
    (Text.digitValue? 16 character).isSome = true :=
  Text.isSome_digitValue?_of_numeralFrom?
    (Text.numeralFrom?_toDigits (by decide) (by decide) group) character member

theorem colon_not_mem_toDigits (group : Nat) : ':' ∉ Nat.toDigits 16 group :=
  fun member => absurd (mem_toDigits_sixteen member) (by decide)

theorem renderGroups_singleton (group : Nat) :
    renderGroups [group] = Nat.toDigits 16 group := by
  simp [renderGroups]

theorem renderGroups_cons_cons (first second : Nat) (groups : List Nat) :
    renderGroups (first :: second :: groups) =
      Nat.toDigits 16 first ++ ':' :: renderGroups (second :: groups) := by
  rw [renderGroups, List.map_cons, List.map_cons, List.intercalate_cons_cons,
    List.append_assoc, List.singleton_append]
  rfl

/-- The notation of groups starts with a digit. -/
theorem exists_cons_renderGroups (first : Nat) (groups : List Nat) :
    ∃ digit rest,
      renderGroups (first :: groups) = digit :: rest ∧ digit ≠ ':' := by
  obtain ⟨digit, digits, shape⟩ :=
    List.exists_cons_of_ne_nil (Nat.toDigits_ne_nil (n := first) (b := 16))
  have plain : digit ≠ ':' := by
    rintro rfl
    apply colon_not_mem_toDigits first
    rw [shape]
    exact List.mem_cons_self
  cases groups with
  | nil => exact ⟨digit, digits, by rw [renderGroups_singleton, shape], plain⟩
  | cons second groups =>
      rw [renderGroups_cons_cons, shape]
      exact ⟨digit, _, rfl, plain⟩

theorem mem_renderGroups
    {groups : List Nat}
    {character : Char}
    (member : character ∈ renderGroups groups) :
    character = ':' ∨ (Text.digitValue? 16 character).isSome = true := by
  apply (Text.mem_intercalate member).imp_right
  rintro ⟨part, among, within⟩
  obtain ⟨group, -, rfl⟩ := List.mem_map.mp among
  exact mem_toDigits_sixteen within

theorem dot_not_mem_toDigits (group : Nat) : '.' ∉ Nat.toDigits 16 group :=
  fun member => absurd (mem_toDigits_sixteen member) (by decide)

theorem dot_not_mem_renderGroups (groups : List Nat) :
    '.' ∉ renderGroups groups := by
  intro member
  rcases mem_renderGroups member with colon | digit
  · exact absurd colon (by decide)
  · exact absurd digit (by decide)

/-- Groups are read back from their notation. -/
theorem ipv6Groups?_renderGroups
    {groups : List Nat}
    (below : ∀ group ∈ groups, group < Nat.pow 2 16) :
    ipv6Groups? (renderGroups groups) = some groups := by
  cases groups with
  | nil => rfl
  | cons first groups =>
      have parts :
          Text.splitAll ':' (renderGroups (first :: groups)) =
            (first :: groups).map (Nat.toDigits 16) := by
        apply Text.splitAll_intercalate _ (by simp)
        intro part among
        obtain ⟨group, -, rfl⟩ := List.mem_map.mp among
        exact colon_not_mem_toDigits group
      have mapped :
          ((first :: groups).map (Nat.toDigits 16)).mapM ipv6Group? =
            some (first :: groups) := by
        rw [Text.mapM_eq_some_iff, List.map_map]
        exact List.map_congr_left fun group among =>
          ipv6Group?_toDigits (below group among)
      obtain ⟨digit, digits, shape, -⟩ := exists_cons_renderGroups first groups
      obtain ⟨last, ends⟩ :
          ∃ last,
            ((first :: groups).map (Nat.toDigits 16)).getLast? = some last :=
        ⟨_, List.getLast?_eq_some_getLast (by simp)⟩
      have undotted : last.contains '.' = false := by
        obtain ⟨group, -, rfl⟩ := List.mem_map.mp (List.mem_of_getLast? ends)
        simpa using dot_not_mem_toDigits group
      unfold ipv6Groups?
      dsimp only
      rw [if_neg (by simp [shape]), parts, ends]
      dsimp only
      rw [undotted, if_neg Bool.false_ne_true, mapped]

/-! ## The gap -/

/-- Only colons are looked at for a gap. -/
theorem splitAtGap_append
    {part rest : List Char}
    (clean : ':' ∉ part)
    (nonempty : rest ≠ [])
    (taken : List Char) :
    splitAtGap taken (part ++ rest) =
      splitAtGap (part.reverse ++ taken) rest := by
  induction part generalizing taken with
  | nil => rfl
  | cons first part inductionHypothesis =>
      rw [List.mem_cons, not_or] at clean
      have more : part ++ rest ≠ [] := by simp [nonempty]
      obtain ⟨second, behind, shape⟩ := List.exists_cons_of_ne_nil more
      have plain : (first == ':') = false := by simpa using Ne.symm clean.1
      rw [List.cons_append, shape, splitAtGap, plain, Bool.false_and,
        if_neg Bool.false_ne_true, ← shape, inductionHypothesis clean.2,
        List.reverse_cons, List.append_assoc, List.singleton_append]

theorem splitAtGap_of_notMem
    {part : List Char}
    (clean : ':' ∉ part)
    (taken : List Char) :
    splitAtGap taken part = none := by
  rcases List.eq_nil_or_concat part with rfl | ⟨front, last, rfl⟩
  · rfl
  · rw [List.concat_eq_append] at clean ⊢
    rw [List.mem_append, not_or] at clean
    rw [splitAtGap_append clean.1 (List.cons_ne_nil _ _)]
    rfl

/-- A single colon is no gap. -/
theorem splitAtGap_colon
    {second : Char}
    (apart : second ≠ ':')
    (taken rest : List Char) :
    splitAtGap taken (':' :: second :: rest) =
      splitAtGap (':' :: taken) (second :: rest) := by
  simp [splitAtGap, apart]

/-- There is no gap in the notation of groups. -/
theorem splitAtGap_renderGroups (groups : List Nat) (taken : List Char) :
    splitAtGap taken (renderGroups groups) = none := by
  induction groups generalizing taken with
  | nil => rfl
  | cons first groups inductionHypothesis =>
      cases groups with
      | nil =>
          rw [renderGroups_singleton]
          exact splitAtGap_of_notMem (colon_not_mem_toDigits first) taken
      | cons second groups =>
          obtain ⟨digit, digits, shape, plain⟩ :=
            exists_cons_renderGroups second groups
          rw [renderGroups_cons_cons,
            splitAtGap_append (colon_not_mem_toDigits first)
              (List.cons_ne_nil _ _),
            shape, splitAtGap_colon plain, ← shape, inductionHypothesis]

/-- The gap is found behind the groups in front of it. -/
theorem splitAtGap_renderGroups_append
    (groups : List Nat)
    (taken rest : List Char) :
    splitAtGap taken (renderGroups groups ++ ':' :: ':' :: rest) =
      some (taken.reverse ++ renderGroups groups, rest) := by
  induction groups generalizing taken with
  | nil => simp [renderGroups, splitAtGap]
  | cons first groups inductionHypothesis =>
      cases groups with
      | nil =>
          rw [renderGroups_singleton,
            splitAtGap_append (colon_not_mem_toDigits first)
              (List.cons_ne_nil _ _)]
          simp [splitAtGap]
      | cons second groups =>
          obtain ⟨digit, digits, shape, plain⟩ :=
            exists_cons_renderGroups second groups
          have behind :
              renderGroups (second :: groups) ++ ':' :: ':' :: rest =
                digit :: (digits ++ ':' :: ':' :: rest) := by
            rw [shape, List.cons_append]
          rw [renderGroups_cons_cons, List.append_assoc,
            splitAtGap_append (colon_not_mem_toDigits first) (by simp),
            List.cons_append, behind, splitAtGap_colon plain, ← behind,
            inductionHypothesis]
          simp

/-! ## The longest run of zeros -/

/-- The longest run of zeros is a run of zeros. -/
theorem longestZeros_spec (groups : List Nat) :
    (longestZeros groups).2 ≤
      ((groups.drop (longestZeros groups).1).takeWhile (· == 0)).length := by
  unfold longestZeros
  dsimp only
  apply List.foldlRecOn (motive := fun best : Nat × Nat =>
    best.2 ≤ ((groups.drop best.1).takeWhile (· == 0)).length)
  · exact Nat.zero_le _
  · intro best kept start _
    split
    · exact Nat.le_refl _
    · exact kept

/-- Groups are those in front of the longest run of zeros, the zeros, and those
behind them. -/
theorem longestZeros_split (groups : List Nat) :
    groups =
      groups.take (longestZeros groups).1 ++
        (List.replicate (longestZeros groups).2 0 ++
          groups.drop ((longestZeros groups).1 + (longestZeros groups).2)) := by
  have run := longestZeros_spec groups
  generalize longestZeros groups = best at *
  have zeros :
      (groups.drop best.1).take best.2 = List.replicate best.2 0 := by
    obtain ⟨behind, whole⟩ :=
      List.takeWhile_prefix (l := groups.drop best.1) (· == 0)
    rw [← whole, List.take_append_of_le_length run, List.eq_replicate_iff]
    refine ⟨List.length_take_of_le run, ?_⟩
    intro group among
    simpa using List.mem_takeWhile_imp (List.mem_of_mem_take among)
  rw [← zeros, ← List.drop_drop, List.take_append_drop,
    List.take_append_drop]

theorem readIpv6_of_no_gap
    {text : List Char}
    {groups : List Nat}
    (gap : splitAtGap [] text = none)
    (read : ipv6Groups? text = some groups)
    (eight : groups.length = 8) :
    readIpv6 text = .ok groups := by
  have kept : (some groups).filter (·.length == 8) = some groups :=
    Option.filter_eq_some_iff.mpr ⟨rfl, by simpa using eight⟩
  unfold readIpv6
  rw [gap, read]
  dsimp only
  rw [kept]

theorem readIpv6_of_gap
    {text before behind : List Char}
    {left right : List Nat}
    (gap : splitAtGap [] text = some (before, behind))
    (leftRead : ipv6Groups? before = some left)
    (rightRead : ipv6Groups? behind = some right)
    (undotted : '.' ∉ before)
    (few : left.length + right.length ≤ 7) :
    readIpv6 text =
      .ok (left ++ List.replicate (8 - left.length - right.length) 0 ++
        right) := by
  unfold readIpv6
  rw [gap]
  dsimp only
  rw [leftRead, rightRead]
  simp [undotted, Nat.not_lt.mpr few]

/-- An IPv6 address in its notation, without the brackets. -/
def ipv6Body (groups : List Nat) : List Char :=
  let (start, length) := longestZeros groups
  if length < 2 then renderGroups groups
  else
    renderGroups (groups.take start) ++ [':', ':'] ++
      renderGroups (groups.drop (start + length))

theorem renderIpv6_eq (groups : List Nat) :
    renderIpv6 groups = '[' :: ipv6Body groups ++ [']'] := rfl

theorem mem_ipv6Body
    {groups : List Nat}
    {character : Char}
    (member : character ∈ ipv6Body groups) :
    character = ':' ∨ (Text.digitValue? 16 character).isSome = true := by
  unfold ipv6Body at member
  dsimp only at member
  split at member
  · exact mem_renderGroups member
  · rw [List.mem_append, List.mem_append] at member
    rcases member with (front | gap) | behind
    · exact mem_renderGroups front
    · left
      simpa using gap
    · exact mem_renderGroups behind

/-- An IPv6 address is read back from its notation. -/
theorem readIpv6_ipv6Body
    {groups : List Nat}
    (valid : IsIpv6 groups) :
    readIpv6 (ipv6Body groups) = .ok groups := by
  have split := longestZeros_split groups
  unfold ipv6Body
  dsimp only
  generalize (longestZeros groups).1 = start at *
  generalize (longestZeros groups).2 = length at *
  have below := valid.below
  split
  · exact readIpv6_of_no_gap (splitAtGap_renderGroups groups [])
      (ipv6Groups?_renderGroups below) valid.count
  · next long =>
      have counted := congrArg List.length split
      rw [valid.count, List.length_append, List.length_append,
        List.length_replicate] at counted
      have front :=
        ipv6Groups?_renderGroups fun group among =>
          below group (List.mem_of_mem_take (i := start) among)
      have behind :=
        ipv6Groups?_renderGroups fun group among =>
          below group (List.mem_of_mem_drop (i := start + length) among)
      rw [List.append_assoc, List.cons_append, List.cons_append,
        List.nil_append,
        readIpv6_of_gap (splitAtGap_renderGroups_append _ [] _) front behind
          (dot_not_mem_renderGroups _) (by omega)]
      have zeros :
          8 - (groups.take start).length -
              (groups.drop (start + length)).length =
            length := by
        omega
      rw [zeros, List.append_assoc, ← split]

end Url
end FieldOcr
