import FieldOcr.Proofs.AddressReading
import FieldOcr.Proofs.Base64Reading
import FieldOcr.Proofs.Utf8Reading

/-!
# The header field of an account

An account can always be sent.  A server reads from the header field what
stands in front of the first colon and what stands behind it: the identifier of
the application and the password, unless the identifier holds a colon.  The
field of such an account is also that of another one.
-/

namespace FieldOcr

namespace Text
namespace Utf8

/-! ## Colons -/

/-- Only a colon has the byte of a colon in its form. -/
theorem colon_mem_encodeChar_iff {character : Char} :
    0x3A ∈ encodeChar character ↔ character = ':' := by
  have valid : character.toNat.isValidChar := character.valid
  unfold Nat.isValidChar at valid
  -- Every byte of a longer form lies above ASCII.
  have other {byte : Nat} (high : 0x80 ≤ byte) (short : byte < 0x100) :
      (0x3A : UInt8) ≠ UInt8.ofNat byte := by
    intro same
    have numbers := congrArg UInt8.toNat same
    rw [UInt8.toNat_ofNat_of_lt' short] at numbers
    exact absurd numbers (by change 0x3A ≠ byte; omega)
  unfold encodeChar
  dsimp only
  by_cases one : character.toNat < 0x80
  · have exact : (UInt8.ofNat character.toNat).toNat = character.toNat :=
      UInt8.toNat_ofNat_of_lt' (show character.toNat < 256 by omega)
    rw [if_pos one, List.mem_singleton, ← UInt8.toNat_inj, exact,
      ← Char.toNat_inj]
    exact eq_comm
  · have colonless : character ≠ ':' := by
      rintro rfl
      exact one (by decide)
    refine iff_of_false ?_ colonless
    split_ifs <;>
      simp only [List.mem_cons, List.not_mem_nil, or_false, not_or]
    · exact ⟨other (by omega) (by omega), other (by omega) (by omega)⟩
    · exact ⟨other (by omega) (by omega), other (by omega) (by omega),
        other (by omega) (by omega)⟩
    · exact ⟨other (by omega) (by omega), other (by omega) (by omega),
        other (by omega) (by omega), other (by omega) (by omega)⟩

/-- A text has the byte of a colon in its form only if it holds a colon. -/
theorem colon_mem_encode_iff {text : List Char} :
    0x3A ∈ encode text ↔ ':' ∈ text := by
  simp only [encode, List.mem_flatMap, colon_mem_encodeChar_iff,
    exists_eq_right]

/-- Texts with the same form are the same. -/
theorem encode_injective : Function.Injective encode := by
  intro first second same
  rw [← decode_encode first, same, decode_encode]

end Utf8
end Text

namespace Service

open Request (Credentials Draft)

/-- The text that the token of an account is made from. -/
def accountText (credentials : Credentials) : List Char :=
  credentials.applicationId.toList ++ ':' :: credentials.password.toList

/-- Bytes in front of the first colon and behind it. -/
def splitAtColon? (bytes : List UInt8) : Option (List UInt8 × List UInt8) :=
  match bytes.dropWhile (· != 0x3A) with
  | [] => none
  | _ :: behind => some (bytes.takeWhile (· != 0x3A), behind)

/-- The user name and the password that a server reads from the value of a
header field with basic credentials. -/
def readAccount? (value : List Char) : Option (List UInt8 × List UInt8) :=
  if "Basic ".toList.isPrefixOf value then
    (Text.Base64.decode? (value.drop 6)).bind splitAtColon?
  else none

/-- Bytes are split at their first colon. -/
theorem splitAtColon?_append
    {front : List UInt8}
    (plain : 0x3A ∉ front)
    (behind : List UInt8) :
    splitAtColon? (front ++ 0x3A :: behind) = some (front, behind) := by
  have passed : ∀ byte ∈ front, (byte != 0x3A) = true := by
    intro byte member
    rw [bne_iff_ne]
    rintro rfl
    exact plain member
  rw [splitAtColon?, List.dropWhile_append_of_pos passed,
    List.takeWhile_append_of_pos passed]
  simp

section

variable (credentials : Credentials)

theorem authorization_value :
    (authorization credentials).value.toList =
      "Basic ".toList ++ token credentials := by
  simp [authorization]

/-- What is read from the token of an account is its text. -/
theorem decode?_token :
    Text.Base64.decode? (token credentials) =
      some (Text.Utf8.encode (accountText credentials)) :=
  Text.Base64.decode?_encode _

/-- A server splits the text of an account. -/
theorem readAccount?_authorization :
    readAccount? (authorization credentials).value.toList =
      splitAtColon? (Text.Utf8.encode (accountText credentials)) := by
  have behind :
      ("Basic ".toList ++ token credentials).drop 6 = token credentials :=
    List.drop_left' (by decide)
  have starts :
      "Basic ".toList.isPrefixOf ("Basic ".toList ++ token credentials) =
        true :=
    List.isPrefixOf_iff_prefix.mpr (List.prefix_append _ _)
  rw [authorization_value, readAccount?, if_pos starts, behind,
    decode?_token, Option.bind_some]

/-- The header field of an account can be sent. -/
theorem authorize_eq_ok :
    authorize credentials = .ok (authorization credentials) := by
  apply if_pos
  rw [List.all_eq_true, authorization_value]
  intro character member
  rcases List.mem_append.mp member with word | digit
  · have plain : "Basic ".toList.all Http.Response.isPlain = true := by decide
    exact List.all_eq_true.mp plain character word
  · have visible := Text.Base64.visible_encode _ character digit
    simp only [Http.Response.isPlain, Bool.or_eq_true, Bool.and_eq_true,
      decide_eq_true_eq]
    omega

end

section

variable {credentials other : Credentials}

/-- Accounts have the same header field exactly if they have the same text. -/
theorem authorization_eq_iff :
    authorization credentials = authorization other ↔
      accountText credentials = accountText other := by
  constructor
  · intro same
    have values := congrArg (·.value.toList) same
    simp only [authorization_value, List.append_cancel_left_eq] at values
    have bytes := congrArg Text.Base64.decode? values
    rw [decode?_token, decode?_token, Option.some.injEq] at bytes
    exact Text.Utf8.encode_injective bytes
  · intro same
    have tokens : token credentials = token other :=
      congrArg (fun text => Text.Base64.encode (Text.Utf8.encode text)) same
    rw [authorization, authorization, tokens]

/-- A server reads what stands in front of the first colon and behind it. -/
theorem readAccount?_of_split
    {front behind : List Char}
    (plain : ':' ∉ front)
    (split : accountText credentials = front ++ ':' :: behind) :
    readAccount? (authorization credentials).value.toList =
      some (Text.Utf8.encode front, Text.Utf8.encode behind) := by
  have form :
      Text.Utf8.encode (front ++ ':' :: behind) =
        Text.Utf8.encode front ++ 0x3A :: Text.Utf8.encode behind := by
    rw [Text.Utf8.encode_append]
    rfl
  have plainForm : 0x3A ∉ Text.Utf8.encode front := by
    rwa [Text.Utf8.colon_mem_encode_iff]
  rw [readAccount?_authorization, split, form, splitAtColon?_append plainForm]

/-- A server reads the account from the header field exactly if the identifier
holds no colon. -/
theorem readAccount?_eq_some_iff :
    readAccount? (authorization credentials).value.toList =
        some
          (Text.Utf8.encode credentials.applicationId.toList,
            Text.Utf8.encode credentials.password.toList) ↔
      ':' ∉ credentials.applicationId.toList := by
  constructor
  · intro read colon
    obtain ⟨front, behind, whole, plain⟩ := List.eq_append_cons_of_mem colon
    have split :
        accountText credentials =
          front ++ ':' :: (behind ++ ':' :: credentials.password.toList) := by
      rw [accountText, whole, List.append_assoc, List.cons_append]
    rw [readAccount?_of_split plain split, Option.some.injEq,
      Prod.mk.injEq] at read
    have lengths :=
      congrArg List.length (Text.Utf8.encode_injective read.1)
    rw [whole, List.length_append, List.length_cons] at lengths
    omega
  · intro plain
    exact readAccount?_of_split plain rfl

/-- Accounts whose identifiers hold no colon have the same header field only if
they are the same. -/
theorem authorization_injective_of_colonless
    (plain : ':' ∉ credentials.applicationId.toList)
    (otherPlain : ':' ∉ other.applicationId.toList)
    (same : authorization credentials = authorization other) :
    credentials = other := by
  have read := readAccount?_eq_some_iff.mpr plain
  rw [same, readAccount?_eq_some_iff.mpr otherPlain, Option.some.injEq,
    Prod.mk.injEq] at read
  have identifiers := Text.Utf8.encode_injective read.1
  have passwords := Text.Utf8.encode_injective read.2
  rw [String.toList_inj] at identifiers passwords
  cases credentials
  cases other
  simp_all

end

/-- Credentials with the same text as an identifier with a colon and its
password: the identifier ends at the colon, and the password starts behind
it. -/
def splitAccount (front behind password : List Char) : Credentials :=
  ⟨String.ofList front, String.ofList (behind ++ ':' :: password)⟩

/-- A draft is built with other credentials as well, if their identifier is not
blank. -/
theorem build_withCredentials
    [Url.NameConversion]
    {draft : Draft}
    {request : Request}
    {credentials : Credentials}
    (built : draft.build = .ok request)
    (known : Text.isBlankString credentials.applicationId = false) :
    { draft with credentials }.build = .ok { request with credentials } := by
  obtain ⟨source, languages, charset, baseUrl, read, -, spoken, labelled, cells,
    trust, proxy, based, rfl⟩ := Draft.build_eq_ok_iff.mp built
  have account :
      Draft.checkApplicationId { draft with credentials } = .ok () :=
    if_neg (Bool.eq_false_iff.mp known)
  exact Draft.build_eq_ok_iff.mpr
    ⟨source, languages, charset, baseUrl, read, account, spoken, labelled,
      cells, trust, proxy, based, rfl⟩

/-- The account of a request that was built can always be sent, and two accounts
are sent alike exactly if they have the same text.  A server reads the account
back exactly if its identifier holds no colon.  If the identifier holds one
behind a text that is not blank, the request with the account that is split at
this colon is built as well, and sends the same header field. -/
theorem authorization_tells
    [Url.NameConversion]
    {draft : Draft}
    {request : Request}
    (built : draft.build = .ok request) :
    authorize request.credentials = .ok (authorization request.credentials) ∧
      (readAccount? (authorization request.credentials).value.toList =
          some
            (Text.Utf8.encode request.credentials.applicationId.toList,
              Text.Utf8.encode request.credentials.password.toList) ↔
        ':' ∉ request.credentials.applicationId.toList) ∧
      (∀ other,
        ':' ∉ request.credentials.applicationId.toList ->
          ':' ∉ other.applicationId.toList ->
            authorization request.credentials = authorization other ->
              request.credentials = other) ∧
      ∀ front behind,
        request.credentials.applicationId.toList = front ++ ':' :: behind ->
          Text.allBlank front = false ->
            let other :=
              splitAccount front behind request.credentials.password.toList
            other ≠ request.credentials ∧
              { draft with credentials := other }.build =
                .ok { request with credentials := other } ∧
              authorization other = authorization request.credentials := by
  refine ⟨authorize_eq_ok _, readAccount?_eq_some_iff, ?_, ?_⟩
  · intro other plain otherPlain
    exact authorization_injective_of_colonless plain otherPlain
  · intro front behind whole filled other
    have identifier : other.applicationId.toList = front :=
      String.toList_ofList
    have password :
        other.password.toList =
          behind ++ ':' :: request.credentials.password.toList :=
      String.toList_ofList
    refine ⟨?_, ?_, ?_⟩
    · intro same
      have lengths := congrArg List.length whole
      rw [← same, identifier, List.length_append, List.length_cons] at lengths
      omega
    · apply build_withCredentials built
      rw [Text.isBlankString, identifier, filled]
    · rw [authorization_eq_iff, accountText, accountText, identifier, password,
        whole, List.append_assoc, List.cons_append]

/-- A draft whose application has a colon in its identifier. -/
def colonDraft : Draft where
  source := some "field.png"
  credentials := ⟨"a:b", "c"⟩

/-- The header field of the draft is read as another account, with which the
draft is built as well. -/
theorem authorization_tells_colonDraft :
    ∃ request,
      colonDraft.build = .ok request ∧
        request.credentials = ⟨"a:b", "c"⟩ ∧
        authorize request.credentials =
          .ok ⟨"authorization", "Basic YTpiOmM=", true⟩ ∧
        readAccount? "Basic YTpiOmM=".toList =
          some (Text.Utf8.encode "a".toList, Text.Utf8.encode "b:c".toList) ∧
        { colonDraft with credentials := ⟨"a", "b:c"⟩ }.build =
          .ok { request with credentials := ⟨"a", "b:c"⟩ } ∧
        authorization ⟨"a", "b:c"⟩ = authorization request.credentials := by
  have known :
      colonDraft.build.toOption.map (·.credentials) =
        some ⟨"a:b", "c"⟩ := by
    decide +kernel
  cases built : colonDraft.build with
  | error fault =>
      rw [built] at known
      exact nomatch known
  | ok request =>
      rw [built] at known
      have account : request.credentials = ⟨"a:b", "c"⟩ :=
        Option.some.inj known
      obtain ⟨authorized, -, -, twins⟩ := authorization_tells built
      obtain ⟨-, twin, same⟩ :=
        twins ['a'] ['b'] (by rw [account]; decide) (by decide)
      have field :
          authorization request.credentials =
            ⟨"authorization", "Basic YTpiOmM=", true⟩ := by
        rw [account]
        decide +kernel
      have other :
          splitAccount ['a'] ['b'] request.credentials.password.toList =
            ⟨"a", "b:c"⟩ := by
        rw [account]
        decide
      rw [other] at twin same
      refine ⟨request, rfl, account, by rw [authorized, field], ?_, twin,
        same⟩
      decide +kernel

end Service
end FieldOcr
