import FieldOcr.Proofs.HostReading

/-!
# The text of an address

The parts of an address that was read are in their written form: each
character that has to be encoded in its part is.  So an address of the web is
read back from its text, if the conversion of names keeps what is promised of
it.
-/

namespace FieldOcr
namespace Url

/-! ## Encoded parts -/

/-- A part of an address is in its written form. -/
def IsWritten (encoded : Char -> Bool) (part : List Char) : Prop :=
  ∀ character ∈ part, encoded character = false

/-- What is encoded is in its written form, if the characters that write a byte
stand for themselves. -/
theorem isWritten_percentEncode
    {encoded : Char -> Bool}
    (sign : encoded '%' = false)
    (digits : ∀ value < 16, encoded (hexDigit value) = false)
    (text : List Char) :
    IsWritten encoded (percentEncode encoded text) :=
  forall_mem_percentEncode sign digits fun _ _ => id

/-- A mark that has to be encoded in a part is not in its written form. -/
theorem IsWritten.unmarked
    {encoded : Char -> Bool}
    {part : List Char}
    {mark : Char}
    (written : IsWritten encoded part)
    (marks : encoded mark = true) :
    ∀ character ∈ part, (character != mark) = true := by
  intro character member
  rw [bne_iff_ne]
  rintro rfl
  exact absurd ((written _ member).symm.trans marks) Bool.false_ne_true

/-- A part that is there starts with its mark. -/
theorem head?_renderPart (mark : Char) (part : Option (List Char)) :
    ∀ character ∈ (renderPart mark part).head?, (character != mark) = false := by
  cases part with
  | none => exact nofun
  | some text =>
      rintro _ ⟨⟩
      exact bne_self_eq_false _

theorem isWritten_userinfo (text : List Char) :
    IsWritten encodedInUserinfo (percentEncode encodedInUserinfo text) :=
  isWritten_percentEncode (by decide) (by decide) text

theorem isWritten_query (text : List Char) :
    IsWritten (encodedInQuery true)
      (percentEncode (encodedInQuery true) text) :=
  isWritten_percentEncode (by decide) (by decide) text

theorem isWritten_fragment (text : List Char) :
    IsWritten encodedInFragment (percentEncode encodedInFragment text) :=
  isWritten_percentEncode (by decide) (by decide) text

/-- A user name and a password as they stand in an address that was read. -/
structure IsUserinfo
    (username : List Char)
    (password : Option (List Char)) : Prop where
  /-- The user name is in its written form. -/
  username : IsWritten encodedInUserinfo username
  /-- So is the password, of which there is some. -/
  password :
    ∀ text ∈ password, text ≠ [] ∧ IsWritten encodedInUserinfo text

/-- A port as it stands in an address that was read: it is a number of 16 bits
and not the one that the scheme implies. -/
def IsPort (scheme : List Char) (port : Nat) : Prop :=
  port < Nat.pow 2 16 ∧ impliedPort? scheme ≠ some port

/-! ## Reading parts -/

theorem encodeChar_ne_nil (character : Char) :
    Text.Utf8.encodeChar character ≠ [] := by
  unfold Text.Utf8.encodeChar
  dsimp only
  repeat' split
  all_goals exact List.cons_ne_nil _ _

/-- Something is left of a text that is encoded. -/
theorem percentEncode_cons_ne_nil
    (encoded : Char -> Bool)
    (first : Char)
    (rest : List Char) :
    percentEncode encoded (first :: rest) ≠ [] := by
  obtain ⟨byte, bytes, shape⟩ :=
    List.exists_cons_of_ne_nil (encodeChar_ne_nil first)
  rw [percentEncode, List.flatMap_cons, shape]
  split <;> simp [percentByte]

theorem readUserinfo_isUserinfo (text : List Char) :
    IsUserinfo (readUserinfo text).1 (readUserinfo text).2 := by
  unfold readUserinfo
  dsimp only
  split
  · refine ⟨isWritten_userinfo _, ?_⟩
    rintro _ ⟨⟩
    exact ⟨percentEncode_cons_ne_nil _ _ _, isWritten_userinfo _⟩
  · exact ⟨isWritten_userinfo _, nofun⟩

/-- What passes a test was computed behind it. -/
theorem of_ite_error_eq_ok
    {α ε : Type}
    {test : Prop}
    [Decidable test]
    {fault : ε}
    {result : Except ε α}
    {value : α}
    (passed : (if test then .error fault else result) = .ok value) :
    result = .ok value := by
  split at passed
  · cases passed
  · exact passed

theorem readPort_isPort
    {scheme text rest : List Char}
    {port : Option Nat}
    (read : readPort scheme text = .ok (port, rest)) :
    ∀ number ∈ port, IsPort scheme number := by
  unfold readPort at read
  dsimp only at read
  split at read
  · cases read
  next number digits =>
  have read := of_ite_error_eq_ok read
  split at read
  · cases read
    exact nofun
  · next unsaid =>
      cases read
      rintro _ ⟨⟩
      simp only [Bool.or_eq_true, not_or, beq_iff_eq] at unsaid
      exact
        ⟨Nat.lt_succ_of_le (Text.le_of_readDigits (by decide) digits),
          unsaid.2⟩

/-- Some segment is left when segments are resolved. -/
theorem resolveSegments_ne_nil
    {resolved segments : List (List Char)}
    (nonempty : resolved ≠ [] ∨ segments ≠ []) :
    resolveSegments false resolved segments ≠ [] := by
  induction segments generalizing resolved with
  | nil => simpa [resolveSegments] using nonempty
  | cons segment segments inductionHypothesis =>
      have marked (shorter : List (List Char)) :
          (if segments.isEmpty = true then [] :: shorter else shorter) ≠ [] ∨
            segments ≠ [] := by
        cases segments with
        | nil => exact Or.inl (List.cons_ne_nil _ _)
        | cons second segments => exact Or.inr (List.cons_ne_nil _ _)
      unfold resolveSegments
      dsimp only
      split
      · exact inductionHypothesis (marked _)
      split
      · exact inductionHypothesis (marked _)
      · simp only [Bool.false_and, Bool.false_eq_true, if_false]
        exact inductionHypothesis (Or.inl (List.cons_ne_nil _ _))

/-- A path that was read starts with a slash. -/
theorem exists_cons_readPath (text : List Char) :
    ∃ rest, readPath true false text = '/' :: rest := by
  have nonempty : segmentsOf true text ≠ [] := by
    rw [segmentsOf, ne_eq, List.map_eq_nil_iff, Text.splitAll_eq_splitOn]
    exact List.splitOn_ne_nil _ _
  have resolved : resolveSegments false [] (segmentsOf true text) ≠ [] :=
    resolveSegments_ne_nil (Or.inr nonempty)
  change
    ∃ rest,
      joinSegments (resolveSegments false [] (segmentsOf true text)) =
        '/' :: rest
  rw [joinSegments_eq_intercalate resolved]
  exact ⟨_, rfl⟩

theorem takeWhile_append_stop
    {test : Char -> Bool}
    (front behind : List Char)
    (kept : ∀ character ∈ front, test character = true)
    (stops : ∀ character ∈ behind.head?, test character = false) :
    (front ++ behind).takeWhile test = front ∧
      (front ++ behind).dropWhile test = behind := by
  rw [List.takeWhile_append_of_pos kept, List.dropWhile_append_of_pos kept]
  cases behind with
  | nil => simp
  | cons character behind =>
      have stop := stops character rfl
      simp [stop]

theorem splitLastAt_of_notMem
    {text : List Char}
    (unmarked : '@' ∉ text) :
    splitLastAt text = none := by
  unfold splitLastAt
  rw [if_neg (by simpa using unmarked)]

/-- A text is split at an at-sign that none follows. -/
theorem splitLastAt_append
    {behind : List Char}
    (unmarked : '@' ∉ behind)
    (front : List Char) :
    splitLastAt (front ++ '@' :: behind) = some (front, behind) := by
  have kept :
      ∀ character ∈ behind.reverse, (character != '@') = true := by
    intro character member
    rw [bne_iff_ne]
    rintro rfl
    exact unmarked (List.mem_reverse.mp member)
  have backwards :
      (front ++ '@' :: behind).reverse =
        behind.reverse ++ '@' :: front.reverse := by
    simp
  obtain ⟨taken, left⟩ :=
    takeWhile_append_stop _ ('@' :: front.reverse) kept (by simp)
  unfold splitLastAt
  rw [if_pos (by simp), backwards, taken, left]
  simp

/-! ## Texts of parts -/

/-- A user name and a password between a colon. -/
def userinfoText
    (username : List Char)
    (password : Option (List Char)) : List Char :=
  username ++ renderPart ':' password

theorem readUserinfo_userinfoText
    {username : List Char}
    {password : Option (List Char)}
    (written : IsUserinfo username password) :
    readUserinfo (userinfoText username password) = (username, password) := by
  have unmarked : ∀ character ∈ username, (character != ':') = true :=
    written.username.unmarked rfl
  obtain ⟨taken, left⟩ :=
    takeWhile_append_stop _ _ unmarked (head?_renderPart ':' password)
  unfold readUserinfo userinfoText
  dsimp only
  rw [taken, left, percentEncode_of_forall written.username]
  cases password with
  | none => rfl
  | some password =>
      obtain ⟨nonempty, passwordWritten⟩ := written.password password rfl
      obtain ⟨first, rest, rfl⟩ := List.exists_cons_of_ne_nil nonempty
      change (username, some (percentEncode encodedInUserinfo (first :: rest))) = _
      rw [percentEncode_of_forall passwordWritten]

theorem isDigit_of_mem_toDigits
    {number : Nat}
    {character : Char}
    (member : character ∈ Nat.toDigits 10 number) :
    character.isDigit = true :=
  (Text.numeralFrom?_ten_eq_some_iff.mp
    (Text.numeralFrom?_toDigits (by decide) (by decide) number)).1 character
      member

/-- A port is read from behind its colon. -/
theorem readPort_toDigits
    {scheme rest : List Char}
    {port : Nat}
    (valid : IsPort scheme port)
    (slashed : rest.head? = some '/') :
    readPort scheme (Nat.toDigits 10 port ++ rest) = .ok (some port, rest) := by
  obtain ⟨behind, rfl⟩ : ∃ behind, rest = '/' :: behind := by
    cases rest with
    | nil => cases slashed
    | cons first behind =>
        cases slashed
        exact ⟨behind, rfl⟩
  have digits :
      ∀ character ∈ Nat.toDigits 10 port, character.isDigit = true :=
    fun _ => isDigit_of_mem_toDigits
  obtain ⟨taken, left⟩ :=
    takeWhile_append_stop _ ('/' :: behind) digits (by simp)
  have number :
      Text.readDigits 10 (Text.wordLimit 16) .tooLarge 0
          (Nat.toDigits 10 port) =
        .ok port :=
    Text.readDigits_toDigits (by decide) (by decide)
      (Nat.le_of_lt_succ valid.1)
  unfold readPort
  dsimp only
  rw [taken, left, number]
  simp [Nat.toDigits_ne_nil, valid.2]

theorem renderUserinfo_cases (url : Url) :
    (url.username = [] ∧ url.password = none ∧ url.renderUserinfo = []) ∨
      url.renderUserinfo =
        userinfoText url.username url.password ++ ['@'] := by
  unfold renderUserinfo userinfoText
  cases url.username <;> cases url.password <;> simp [renderPart]

/-- The text of a port behind its colon. -/
def portText (port : Option Nat) : List Char :=
  renderPart ':' (port.map (Nat.toDigits 10))

theorem renderAuthority_eq
    {url : Url}
    {host : List Char}
    (hosted : url.host = some host) :
    url.renderAuthority =
      '/' :: '/' :: (url.renderUserinfo ++ host ++ portText url.port) := by
  unfold renderAuthority portText
  rw [hosted]
  dsimp only
  cases url.port <;> simp [renderPart]

/-- A port, or none, is read from behind a host. -/
theorem readPort_portText
    {scheme rest : List Char}
    {port : Option Nat}
    (valid : ∀ number ∈ port, IsPort scheme number)
    (slashed : rest.head? = some '/') :
    ((portText port ++ rest).head? ≠ some ':' ∧
        port = none ∧ rest = portText port ++ rest) ∨
      ∃ digits,
        portText port ++ rest = ':' :: digits ∧
          readPort scheme digits = .ok (port, rest) := by
  cases port with
  | none =>
      left
      change rest.head? ≠ some ':' ∧ _
      rw [slashed]
      exact ⟨by decide, rfl, rfl⟩
  | some port =>
      right
      exact ⟨_, rfl, readPort_toDigits (valid port rfl) slashed⟩

theorem stops_portText
    {rest : List Char}
    (slashed : rest.head? = some '/')
    (port : Option Nat) :
    Stops (portText port ++ rest) := by
  intro character first
  cases port with
  | none =>
      change character ∈ rest.head? at first
      rw [slashed] at first
      cases first
      exact Or.inr rfl
  | some port =>
      cases first
      exact Or.inl rfl

/-- The query and the fragment behind their marks. -/
def tailText (url : Url) : List Char :=
  renderPart '?' url.query ++ renderPart '#' url.fragment

/-- A fragment is read from behind its mark. -/
theorem withTail_fragment
    (url : Url)
    {fragment : Option (List Char)}
    (written : ∀ part ∈ fragment, IsWritten encodedInFragment part) :
    url.withTail true (renderPart '#' fragment) = { url with fragment } := by
  cases fragment with
  | none => rfl
  | some fragment =>
      change
        { url with
          fragment := some (percentEncode encodedInFragment fragment) } = _
      rw [percentEncode_of_forall (written fragment rfl)]

/-- A query and a fragment are read from behind their marks. -/
theorem withTail_parts
    {url : Url}
    (unqueried : url.query = none)
    {query fragment : Option (List Char)}
    (queryWritten : ∀ part ∈ query, IsWritten (encodedInQuery true) part)
    (fragmentWritten : ∀ part ∈ fragment, IsWritten encodedInFragment part) :
    url.withTail true (renderPart '?' query ++ renderPart '#' fragment) =
      { url with query, fragment } := by
  cases query with
  | none =>
      change url.withTail true (renderPart '#' fragment) = _
      rw [withTail_fragment url fragmentWritten, ← unqueried]
  | some query =>
      have written := queryWritten query rfl
      have unmarked : ∀ character ∈ query, (character != '#') = true :=
        written.unmarked rfl
      obtain ⟨taken, left⟩ :=
        takeWhile_append_stop _ _ unmarked (head?_renderPart '#' fragment)
      change url.withTail true ('?' :: (query ++ renderPart '#' fragment)) = _
      unfold Url.withTail
      dsimp only
      split
      · next same =>
          cases same
          rw [taken, left, percentEncode_of_forall written]
          cases fragment with
          | none => rfl
          | some fragment =>
              change
                { url with
                  query := some query
                  fragment :=
                    some (percentEncode encodedInFragment fragment) } = _
              rw [percentEncode_of_forall (fragmentWritten fragment rfl)]
      · next other => exact absurd rfl (other _)

theorem IsNormalPath.plain
    {path : List Char}
    (normal : IsNormalPath path) :
    ∀ character ∈ path,
      character = '/' ∨ encodedInPath character = false := by
  obtain ⟨segments, rfl, normal⟩ := normal
  intro character member
  obtain ⟨segment, among, within⟩ := List.mem_flatMap.mp member
  apply (List.mem_cons.mp within).imp_right
  intro within
  exact ((normal segment among).plain character within).2.2

theorem IsNormalPath.head?_eq
    {path : List Char}
    (normal : IsNormalPath path)
    (nonempty : path ≠ []) :
    path.head? = some '/' := by
  obtain ⟨segments, rfl, -⟩ := normal
  cases segments with
  | nil => exact absurd rfl nonempty
  | cons segment segments => rfl

/-- What stands behind the slashes of an address. -/
def innerText (url : Url) (host : List Char) : List Char :=
  url.renderUserinfo ++ (host ++ portText url.port) ++
    (url.path ++ url.tailText)

theorem toText_eq
    {url : Url}
    {host : List Char}
    (hosted : url.host = some host) :
    url.toText = url.scheme ++ ':' :: '/' :: '/' :: url.innerText host := by
  unfold toText innerText tailText
  rw [renderAuthority_eq hosted]
  simp

theorem splitScheme_of_isWeb
    {url : Url}
    (web : url.isWeb = true)
    (rest : List Char) :
    splitScheme (url.scheme ++ ':' :: rest) = some (url.scheme, rest) := by
  rcases isWeb_iff.mp web with http | https
  · rw [http]
    rfl
  · rw [https]
    rfl

/-! ## Characters of parts -/

/-- A character that is never encoded can be seen. -/
theorem visible_of_plain
    {character : Char}
    (plain : isControl character = false)
    (space : character ≠ ' ') :
    0x20 < character.toNat := by
  have other : character.toNat ≠ 0x20 := by
    intro same
    apply space
    rw [← Char.ofNat_toNat character, same]
  simp only [isControl, Bool.or_eq_false_iff, decide_eq_false_iff_not] at plain
  omega

theorem visible_of_fragment
    {character : Char}
    (written : encodedInFragment character = false) :
    0x20 < character.toNat := by
  rw [encodedInFragment, Bool.or_eq_false_iff] at written
  apply visible_of_plain written.1
  rintro rfl
  exact absurd written.2 (by decide)

theorem visible_of_path
    {character : Char}
    (written : encodedInPath character = false) :
    0x20 < character.toNat := by
  rw [encodedInPath, Bool.or_eq_false_iff] at written
  exact visible_of_fragment written.1

theorem visible_of_query
    {character : Char}
    (written : encodedInQuery true character = false) :
    0x20 < character.toNat := by
  rw [encodedInQuery, Bool.or_eq_false_iff, Bool.or_eq_false_iff] at written
  apply visible_of_plain written.1.1
  rintro rfl
  exact absurd written.1.2 (by decide)

theorem isHostCharacter_of_userinfo
    {character : Char}
    (written : encodedInUserinfo character = false) :
    IsHostCharacter character := by
  have visible : 0x20 < character.toNat := by
    rw [encodedInUserinfo, Bool.or_eq_false_iff] at written
    exact visible_of_path written.1
  refine ⟨visible, ?_⟩
  intro mark
  simp at mark
  rcases mark with rfl | rfl | rfl | rfl | rfl <;>
    exact absurd written (by decide)

theorem isHostCharacter_of_mem_userinfoText
    {username : List Char}
    {password : Option (List Char)}
    (written : IsUserinfo username password) :
    ∀ character ∈ userinfoText username password,
      IsHostCharacter character := by
  intro character member
  rcases List.mem_append.mp member with inName | inPassword
  · exact isHostCharacter_of_userinfo (written.username character inName)
  · cases password with
    | none => cases inPassword
    | some text =>
        rcases List.mem_cons.mp inPassword with rfl | inPassword
        · decide
        · exact isHostCharacter_of_userinfo
            ((written.password text rfl).2 character inPassword)

theorem isHostCharacter_of_isDigit
    {character : Char}
    (digit : character.isDigit = true) :
    IsHostCharacter character :=
  (isHostCharacter_of_permitted (permitted_of_isDigit digit)).1

theorem isHostCharacter_of_mem_portText
    (port : Option Nat) :
    ∀ character ∈ portText port, IsHostCharacter character := by
  intro character member
  cases port with
  | none => cases member
  | some port =>
      rcases List.mem_cons.mp member with rfl | member
      · decide
      · exact isHostCharacter_of_isDigit (isDigit_of_mem_toDigits member)

theorem visible_of_mem_renderPart
    {mark : Char}
    {encoded : Char -> Bool}
    {part : Option (List Char)}
    (seen : 0x20 < mark.toNat)
    (visible :
      ∀ character, encoded character = false -> 0x20 < character.toNat)
    (written : ∀ text ∈ part, IsWritten encoded text) :
    ∀ character ∈ renderPart mark part, 0x20 < character.toNat := by
  cases part with
  | none => exact nofun
  | some text =>
      change ∀ character ∈ mark :: text, 0x20 < character.toNat
      rw [List.forall_mem_cons]
      exact
        ⟨seen, fun character member =>
          visible character (written text rfl character member)⟩

/-- What stands in front of a path is taken up to it. -/
theorem takeWhile_extent
    {front rest : List Char}
    (plain :
      ∀ character ∈ front, character = '@' ∨ IsHostCharacter character)
    (slashed : rest.head? = some '/') :
    ((front ++ rest).takeWhile fun character =>
      !endsAuthority true character) =
      front := by
  refine (takeWhile_append_stop front rest ?_ ?_).1
  · intro character member
    rw [Bool.not_eq_true']
    rcases plain character member with rfl | plain
    · rfl
    · exact plain.endsAuthority_eq
  · rw [slashed]
    rintro _ ⟨⟩
    rfl

theorem cleanInput_of_visible
    {text : List Char}
    (visible : ∀ character ∈ text, 0x20 < character.toNat) :
    cleanInput text = text := by
  have kept :
      Text.trimWhile (fun character => character.toNat ≤ 0x20) text =
        text := by
    have untouched
        {text : List Char}
        (visible : ∀ character ∈ text, 0x20 < character.toNat) :
        text.dropWhile (fun character => character.toNat ≤ 0x20) = text :=
      (takeWhile_append_stop [] text nofun fun character first => by
        have large := visible character (List.mem_of_mem_head? first)
        simpa using large).2
    rw [Text.trimWhile, untouched visible, Text.dropWhileEnd, untouched,
      List.reverse_reverse]
    exact fun character member =>
      visible character (List.mem_reverse.mp member)
  unfold cleanInput
  rw [kept, List.filter_eq_self]
  intro character member
  have large := visible character member
  rw [Bool.not_eq_true']
  by_contra blank
  rw [Bool.not_eq_false, Bool.or_eq_true, Bool.or_eq_true, beq_iff_eq,
    beq_iff_eq, beq_iff_eq] at blank
  rcases blank with (rfl | rfl) | rfl <;> exact absurd large (by decide)

/-! ## Addresses in canonical form -/

variable [conversion : NameConversion]

/-- An address of the web as it was read. -/
structure IsCanonical (url : Url) : Prop where
  /-- It is an address of the web. -/
  web : url.isWeb = true
  /-- The user name and the password are in their written form. -/
  userinfo : IsUserinfo url.username url.password
  /-- There is a host, in canonical form. -/
  host : ∃ host, url.host = some host ∧ IsCanonicalHost host
  /-- The port is none that goes without saying. -/
  port : ∀ port ∈ url.port, IsPort url.scheme port
  /-- The path is in normal form. -/
  path : IsNormalPath url.path
  /-- There is a path. -/
  nonempty : url.path ≠ []
  /-- The query is in its written form. -/
  query : ∀ query ∈ url.query, IsWritten (encodedInQuery true) query
  /-- The fragment is in its written form. -/
  fragment : ∀ fragment ∈ url.fragment, IsWritten encodedInFragment fragment

/-- The parts of an authority that was read are in canonical form. -/
theorem readAuthority_spec
    (lawful : conversion.Lawful)
    {scheme text rest : List Char}
    {authority : Authority}
    (read : readAuthority scheme true text = .ok (authority, rest)) :
    IsUserinfo authority.username authority.password ∧
      IsCanonicalHost authority.host ∧
      ∀ port ∈ authority.port, IsPort scheme port := by
  unfold readAuthority at read
  dsimp only at read
  split at read
  · cases read
  next host hostRead =>
  simp only [Bool.true_or, if_true] at hostRead
  have canonical :=
    readHost_isCanonicalHost lawful (of_ite_error_eq_ok hostRead)
  split at read
  · split at read
    · cases read
    · next port behind portRead =>
        cases read
        exact ⟨readUserinfo_isUserinfo _, canonical, readPort_isPort portRead⟩
  · cases read
    exact ⟨readUserinfo_isUserinfo _, canonical, nofun⟩

/-- The query and the fragment behind a path are read in their written form. -/
theorem IsCanonical.withTail
    {url : Url}
    (canonical : url.IsCanonical)
    (unqueried : url.query = none)
    (text : List Char) :
    (url.withTail true text).IsCanonical := by
  unfold Url.withTail
  dsimp only
  split
  · refine { canonical with query := ?_, fragment := ?_ }
    · rintro _ ⟨⟩
      exact isWritten_query _
    · split
      · rintro _ ⟨⟩
        exact isWritten_fragment _
      · exact nofun
  · refine { canonical with query := ?_, fragment := ?_ }
    · rw [unqueried]
      exact nofun
    · split
      · rintro _ ⟨⟩
        exact isWritten_fragment _
      · exact nofun

/-- The parts of an address that was read are in canonical form. -/
theorem readWithAuthority_isCanonical
    (lawful : conversion.Lawful)
    {scheme text : List Char}
    {url : Url}
    (read : readWithAuthority scheme true text = .ok url)
    (web : url.isWeb = true) :
    url.IsCanonical := by
  have same := readWithAuthority_scheme read
  unfold readWithAuthority at read
  dsimp only at read
  split at read
  · cases read
  next authority rest authorityRead =>
  obtain ⟨userinfo, host, port⟩ := readAuthority_spec lawful authorityRead
  cases read
  simp only [Bool.not_true, Bool.and_false, Bool.false_eq_true, if_false]
    at same web ⊢
  obtain ⟨behind, slashed⟩ :=
    exists_cons_readPath
      (dropSlash true (rest.takeWhile fun character => !endsPath character))
  apply IsCanonical.withTail _ rfl
  exact
    { web := by rwa [isWeb, withTail_scheme] at web
      userinfo
      host := ⟨_, rfl, host⟩
      port
      path := readPath_isNormalPath _
      nonempty := by
        rw [slashed]
        exact List.cons_ne_nil _ _
      query := nofun
      fragment := nofun }

theorem parse_isCanonical
    (lawful : conversion.Lawful)
    {text : List Char}
    {url : Url}
    (read : parse text = .ok url)
    (web : url.isWeb = true) :
    url.IsCanonical := by
  obtain ⟨rest, read⟩ := exists_readWithAuthority_of_parse read web
  exact readWithAuthority_isCanonical lawful read web

/-! ## Reading the text of an address -/

/-- An authority is read from its parts: the userinfo up to the last at-sign,
the host behind it, and what follows the host. -/
theorem readAuthority_of_parts
    {scheme text userinfo remaining username host behind rest : List Char}
    {password : Option (List Char)}
    {port : Option Nat}
    (split :
      (splitLastAt
            (text.takeWhile fun character => !endsAuthority true character) =
          none ∧
        userinfo = [] ∧ text = remaining) ∨
      ∃ after,
        splitLastAt
            (text.takeWhile fun character => !endsAuthority true character) =
          some (userinfo, after) ∧
        text.drop (userinfo.length + 1) = remaining)
    (userinfoRead : readUserinfo userinfo = (username, password))
    (hostSplit : splitHost true false [] remaining = (host, behind))
    (canonical : IsCanonicalHost host)
    (portRead :
      (behind.head? ≠ some ':' ∧ port = none ∧ rest = behind) ∨
      ∃ portText,
        behind = ':' :: portText ∧
          readPort scheme portText = .ok (port, rest)) :
    readAuthority scheme true text =
      .ok (⟨username, password, host, port⟩, rest) := by
  have nonempty : host.isEmpty = false := by
    simpa using canonical.nonempty
  unfold readAuthority
  dsimp only
  generalize
    splitLastAt
      (text.takeWhile fun character => !endsAuthority true character) =
    found at *
  obtain ⟨rfl, rfl, rfl⟩ | ⟨after, rfl, rfl⟩ := split
  all_goals
    dsimp only [Option.map, Option.getD]
    rw [hostSplit]
    dsimp only
    rw [nonempty, if_neg Bool.false_ne_true, if_pos rfl, canonical.read]
    dsimp only
    rw [userinfoRead]
    obtain ⟨plain, rfl, rfl⟩ | ⟨portText, rfl, portRead⟩ := portRead
    · split
      · exact absurd rfl plain
      · rfl
    · split
      · next same =>
          cases same
          rw [portRead]
      · next other => exact absurd rfl (other portText)

/-- The characters in front of a path are those of hosts and at-signs. -/
theorem IsCanonical.isHostCharacter
    {url : Url}
    {host : List Char}
    (canonical : url.IsCanonical)
    (hostCanonical : IsCanonicalHost host) :
    ∀ character ∈ url.renderUserinfo ++ (host ++ portText url.port),
      character = '@' ∨ IsHostCharacter character := by
  have behind :
      ∀ character ∈ host ++ portText url.port,
        character = '@' ∨ IsHostCharacter character :=
    List.forall_mem_append.mpr
      ⟨fun character member => Or.inr (hostCanonical.plain character member),
        fun character member =>
          Or.inr (isHostCharacter_of_mem_portText url.port character member)⟩
  rw [List.forall_mem_append]
  refine ⟨?_, behind⟩
  rcases renderUserinfo_cases url with ⟨-, -, nothing⟩ | text
  · rw [nothing]
    exact nofun
  · rw [text, List.forall_mem_append, List.forall_mem_singleton]
    exact
      ⟨fun character member =>
          Or.inr
            (isHostCharacter_of_mem_userinfoText canonical.userinfo character
              member),
        Or.inl rfl⟩

/-- The authority of an address is read back from its text. -/
theorem IsCanonical.readAuthority_eq
    {url : Url}
    {host rest : List Char}
    (canonical : url.IsCanonical)
    (hostCanonical : IsCanonicalHost host)
    (slashed : rest.head? = some '/') :
    readAuthority url.scheme true
        (url.renderUserinfo ++ (host ++ portText url.port) ++ rest) =
      .ok (⟨url.username, url.password, host, url.port⟩, rest) := by
  have extent :
      ((url.renderUserinfo ++ (host ++ portText url.port) ++ rest).takeWhile
          fun character => !endsAuthority true character) =
        url.renderUserinfo ++ (host ++ portText url.port) :=
    takeWhile_extent (canonical.isHostCharacter hostCanonical) slashed
  have unmarked : '@' ∉ host ++ portText url.port := fun mark =>
    absurd
      (List.forall_mem_append.mpr
        ⟨hostCanonical.plain, isHostCharacter_of_mem_portText url.port⟩ _ mark)
      (by decide)
  have hostSplit :
      splitHost true false [] (host ++ portText url.port ++ rest) =
        (host, portText url.port ++ rest) := by
    rw [List.append_assoc]
    exact hostCanonical.split _ (stops_portText slashed url.port)
  have portRead := readPort_portText canonical.port slashed
  have userinfoRead := readUserinfo_userinfoText canonical.userinfo
  rcases renderUserinfo_cases url with ⟨unnamed, unkeyed, nothing⟩ | text
  · refine
      readAuthority_of_parts (Or.inl ⟨?_, ?_, ?_⟩) userinfoRead hostSplit
        hostCanonical portRead
    · rw [extent, nothing]
      exact splitLastAt_of_notMem unmarked
    · rw [unnamed, unkeyed]
      rfl
    · rw [nothing, List.nil_append]
  · have marked :
        url.renderUserinfo ++ (host ++ portText url.port) =
          userinfoText url.username url.password ++
            '@' :: (host ++ portText url.port) := by
      rw [text, List.append_assoc, List.singleton_append]
    refine
      readAuthority_of_parts (Or.inr ⟨host ++ portText url.port, ?_, ?_⟩)
        userinfoRead hostSplit hostCanonical portRead
    · rw [extent, marked, splitLastAt_append unmarked]
    · rw [marked, List.append_assoc, List.cons_append]
      simp

/-- What stands behind the slashes of an address is read as it. -/
theorem IsCanonical.readWithAuthority_eq
    {url : Url}
    {host : List Char}
    (canonical : url.IsCanonical)
    (hosted : url.host = some host)
    (hostCanonical : IsCanonicalHost host) :
    readWithAuthority url.scheme true
        (url.renderUserinfo ++ (host ++ portText url.port) ++
          (url.path ++ url.tailText)) =
      .ok url := by
  have slashed : (url.path ++ url.tailText).head? = some '/' := by
    rw [List.head?_append, canonical.path.head?_eq canonical.nonempty]
    rfl
  have whole :
      ∀ character ∈ url.path, (!endsPath character) = true := by
    intro character member
    rcases canonical.path.plain character member with rfl | plain
    · rfl
    · rw [Bool.not_eq_true']
      by_contra ends
      rw [Bool.not_eq_false, endsPath, Bool.or_eq_true, beq_iff_eq,
        beq_iff_eq] at ends
      rcases ends with rfl | rfl <;> exact absurd plain (by decide)
  have stops :
      ∀ character ∈ url.tailText.head?, (!endsPath character) = false := by
    unfold tailText
    cases url.query with
    | some query =>
        rintro _ ⟨⟩
        rfl
    | none =>
        cases url.fragment with
        | some fragment =>
            rintro _ ⟨⟩
            rfl
        | none => exact nofun
  obtain ⟨taken, left⟩ := takeWhile_append_stop _ _ whole stops
  unfold readWithAuthority
  rw [canonical.readAuthority_eq hostCanonical slashed]
  dsimp only
  rw [taken, left]
  simp only [Bool.not_true, Bool.and_false, Bool.false_eq_true, if_false]
  rw [canonical.path.readPath_eq canonical.nonempty, ← hosted]
  rw [tailText, withTail_parts rfl canonical.query canonical.fragment]

/-- All characters of an address can be seen. -/
theorem IsCanonical.visible
    {url : Url}
    {host : List Char}
    (canonical : url.IsCanonical)
    (hostCanonical : IsCanonicalHost host) :
    ∀ character ∈ url.innerText host, 0x20 < character.toNat := by
  unfold innerText tailText
  refine
    List.forall_mem_append.mpr
      ⟨?_, List.forall_mem_append.mpr
        ⟨?_, List.forall_mem_append.mpr ⟨?_, ?_⟩⟩⟩
  · intro character member
    rcases canonical.isHostCharacter hostCanonical character member with
      rfl | plain
    · decide
    · exact plain.1
  · intro character member
    rcases canonical.path.plain character member with rfl | plain
    · decide
    · exact visible_of_path plain
  · exact
      visible_of_mem_renderPart (by decide) (fun _ => visible_of_query)
        canonical.query
  · exact
      visible_of_mem_renderPart (by decide) (fun _ => visible_of_fragment)
        canonical.fragment

/-- An address of the web that was read is read back from its text. -/
theorem IsCanonical.parse_toText
    {url : Url}
    (canonical : url.IsCanonical) :
    parse url.toText = .ok url := by
  obtain ⟨host, hosted, hostCanonical⟩ := canonical.host
  obtain ⟨special, notFile⟩ := isWeb_scheme canonical.web
  have visible : ∀ character ∈ url.toText, 0x20 < character.toNat := by
    rw [toText_eq hosted, List.forall_mem_append, List.forall_mem_cons,
      List.forall_mem_cons, List.forall_mem_cons]
    refine
      ⟨?_, by decide, by decide, by decide, canonical.visible hostCanonical⟩
    rcases isWeb_iff.mp canonical.web with http | https
    · simp [http]
    · simp [https]
  have unslashed :
      (url.innerText host).dropWhile
          (fun character => character == '/' || character == '\\') =
        url.innerText host := by
    refine (takeWhile_append_stop [] (url.innerText host) nofun ?_).2
    intro character first
    have front : url.renderUserinfo ++ (host ++ portText url.port) ≠ [] := by
      simp [hostCanonical.nonempty]
    rw [innerText, List.head?_append_of_ne_nil _ front] at first
    rcases canonical.isHostCharacter hostCanonical character
      (List.mem_of_mem_head? first) with rfl | plain
    · rfl
    · by_contra slash
      rw [Bool.not_eq_false, Bool.or_eq_true, beq_iff_eq, beq_iff_eq] at slash
      rcases slash with rfl | rfl <;> exact absurd plain (by decide)
  unfold parse
  rw [cleanInput_of_visible visible, toText_eq hosted,
    splitScheme_of_isWeb canonical.web]
  dsimp only
  rw [if_neg (by simpa using notFile), if_pos special]
  change readWithAuthority url.scheme true ((url.innerText host).dropWhile _) = _
  rw [unslashed]
  exact canonical.readWithAuthority_eq hosted hostCanonical

end Url
end FieldOcr
