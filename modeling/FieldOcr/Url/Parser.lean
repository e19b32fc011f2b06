import FieldOcr.Url.Basic
import FieldOcr.Url.Host

/-!
# Reading addresses

An absolute address is read part by part: scheme, authority, path, query and
fragment.  Blanks and controls around the text and line breaks and tabs inside
it are ignored.  The path of a hierarchical address is normalised: its dot
segments are resolved and, in special schemes, backslashes count as slashes.
-/

namespace FieldOcr
namespace Url

variable [NameConversion]

/-- Drops controls and spaces at both ends, and tabs and line breaks
everywhere. -/
def cleanInput (text : List Char) : List Char :=
  (Text.trimWhile (fun character => character.toNat ≤ 0x20) text).filter
    fun character =>
      !(character == '\t' || character == '\n' || character == '\r')

/-- Whether a character may stand in a scheme behind its first letter. -/
def isSchemeCharacter (character : Char) : Bool :=
  character.isAlphanum || character == '+' || character == '-' ||
    character == '.'

/-- Splits a text behind the colon of its scheme. -/
def splitScheme (text : List Char) : Option (List Char × List Char) :=
  match text with
  | [] => none
  | first :: _ =>
      if !first.isAlpha then none
      else
        match text.dropWhile isSchemeCharacter with
        | ':' :: rest =>
            some ((text.takeWhile isSchemeCharacter).map Char.toLower, rest)
        | _ => none

/-- Whether a character ends the authority of an address. -/
def endsAuthority (special : Bool) (character : Char) : Bool :=
  character == '/' || character == '?' || character == '#' ||
    (special && character == '\\')

/-- Splits a text at its last at-sign. -/
def splitLastAt (text : List Char) : Option (List Char × List Char) :=
  if text.contains '@' then
    some (((text.reverse.dropWhile (· != '@')).drop 1).reverse,
      (text.reverse.takeWhile (· != '@')).reverse)
  else none

/-- The user name and the password of a userinfo; an empty password is as good
as none. -/
def readUserinfo (text : List Char) : List Char × Option (List Char) :=
  let username := percentEncode encodedInUserinfo (text.takeWhile (· != ':'))
  match text.dropWhile (· != ':') with
  | _ :: first :: rest =>
      (username, some (percentEncode encodedInUserinfo (first :: rest)))
  | _ => (username, none)

/-- Splits the host from what follows it: at the first colon outside square
brackets or where the authority ends. -/
def splitHost
    (special inBrackets : Bool)
    (taken : List Char) : List Char -> List Char × List Char
  | [] => (taken.reverse, [])
  | character :: rest =>
      if (character == ':' && !inBrackets) ||
          endsAuthority special character then
        (taken.reverse, character :: rest)
      else
        let inBrackets :=
          character == '[' || (inBrackets && character != ']')
        splitHost special inBrackets (character :: taken) rest

/-- Reads a port from behind its colon.  The port that the scheme implies is
as good as none. -/
def readPort
    (scheme : List Char)
    (text : List Char) : Except Fault (Option Nat × List Char) :=
  let digits := text.takeWhile Char.isDigit
  let rest := text.dropWhile Char.isDigit
  match Text.readDigits 10 (Text.wordLimit 16) .tooLarge 0 digits with
  | .error _ => .error .invalidPort
  | .ok port =>
      let stops :=
        match rest with
        | [] => true
        | next :: _ =>
            next == '/' || next == '\\' || next == '?' || next == '#'
      if !stops then .error .invalidPort
      else if digits.isEmpty || impliedPort? scheme == some port then
        .ok (none, rest)
      else .ok (some port, rest)

/-- What stands in front of the path. -/
structure Authority where
  /-- The user name. -/
  username : List Char
  /-- The password. -/
  password : Option (List Char)
  /-- The host. -/
  host : List Char
  /-- The port. -/
  port : Option Nat

/-- Reads the authority of an address, and what follows it. -/
def readAuthority
    (scheme : List Char)
    (special : Bool)
    (text : List Char) : Except Fault (Authority × List Char) :=
  let extent := text.takeWhile fun character => !endsAuthority special character
  let split := splitLastAt extent
  let userinfo := (split.map (·.1)).getD []
  let remaining :=
    match split with
    | none => text
    | some (before, _) => text.drop (before.length + 1)
  let (username, password) := readUserinfo userinfo
  let (hostText, behind) := splitHost special false [] remaining
  let host :=
    if hostText.isEmpty then
      if special || behind.head? == some ':' || username ≠ [] ||
          password.isSome || (split.isSome && !behind.isEmpty &&
            userinfo.isEmpty) then
        .error .emptyHost
      else .ok []
    else if special then readHost hostText
    else readOpaqueHost hostText
  match host with
  | .error fault => .error fault
  | .ok host =>
      match behind with
      | ':' :: portText =>
          match readPort scheme portText with
          | .error fault => .error fault
          | .ok (port, rest) => .ok (⟨username, password, host, port⟩, rest)
      | _ => .ok (⟨username, password, host, none⟩, behind)

/-- Whether a segment stands for the one before it. -/
def isDoubleDot (segment : List Char) : Bool :=
  ["..", ".%2e", "%2e.", "%2e%2e"].any fun form =>
    form.toList == segment.map Char.toLower

/-- Whether a segment stands for itself only. -/
def isSingleDot (segment : List Char) : Bool :=
  [".", "%2e"].any fun form => form.toList == segment.map Char.toLower

/-- Whether a segment is a drive letter. -/
def isDriveLetter (segment : List Char) : Bool :=
  match segment with
  | [letter, mark] => letter.isAlpha && (mark == ':' || mark == '|')
  | _ => false

/-- A drive letter with a colon as its mark. -/
def normalDrive (segment : List Char) : List Char :=
  match segment with
  | [letter, _] => [letter, ':']
  | _ => segment

/-- The segments, last one first, without the last one.  The drive letter of a
file address stays. -/
def dropSegment
    (isFile : Bool)
    (segments : List (List Char)) : List (List Char) :=
  match segments with
  | [only] => if isFile && isDriveLetter only then [only] else []
  | _ => segments.tail

/-- Resolves segments onto those resolved so far, the last one first. -/
def resolveSegments
    (isFile : Bool)
    (resolved : List (List Char)) : List (List Char) -> List (List Char)
  | [] => resolved.reverse
  | segment :: rest =>
      let isLast := rest.isEmpty
      if isDoubleDot segment then
        let shorter := dropSegment isFile resolved
        resolveSegments isFile (if isLast then [] :: shorter else shorter) rest
      else if isSingleDot segment then
        resolveSegments isFile (if isLast then [] :: resolved else resolved)
          rest
      else if isFile && resolved.isEmpty && isDriveLetter segment then
        resolveSegments isFile (normalDrive segment :: resolved) rest
      else resolveSegments isFile (segment :: resolved) rest

/-- The first segment of a file address, cut behind a drive letter that
something follows. -/
def cutDrive (segments : List (List Char)) : List (List Char) :=
  match segments with
  | (letter :: ':' :: first :: behind) :: rest =>
      if letter.isAlpha then [letter, ':'] :: (first :: behind) :: rest
      else segments
  | _ => segments

/-- The segments of a path whose leading slash has been dropped. -/
def segmentsOf (special : Bool) (text : List Char) : List (List Char) :=
  let slashes :=
    if special then
      text.map fun character => if character == '\\' then '/' else character
    else text
  (Text.splitAll '/' slashes).map (percentEncode encodedInPath)

/-- Segments behind slashes. -/
def joinSegments (segments : List (List Char)) : List Char :=
  segments.flatMap ('/' :: ·)

/-- Reads a hierarchical path from behind its leading slash. -/
def readPath (special isFile : Bool) (text : List Char) : List Char :=
  let segments := segmentsOf special text
  let segments := if isFile then cutDrive segments else segments
  let path := joinSegments (resolveSegments isFile [] segments)
  if isFile then '/' :: path.dropWhile (· == '/') else path

/-- Drops one leading slash; in special schemes a backslash will do. -/
def dropSlash (special : Bool) (text : List Char) : List Char :=
  match text with
  | '/' :: rest => rest
  | '\\' :: rest => if special then rest else text
  | _ => text

/-- Whether a character ends a path. -/
def endsPath (character : Char) : Bool :=
  character == '?' || character == '#'

/-- Reads the query and the fragment behind a path. -/
def withTail (url : Url) (special : Bool) (text : List Char) : Url :=
  let fragmentOf := fun (text : List Char) =>
    match text with
    | '#' :: rest => some (percentEncode encodedInFragment rest)
    | _ => none
  match text with
  | '?' :: rest =>
      let query := rest.takeWhile (· != '#')
      { url with
        query := some (percentEncode (encodedInQuery special) query)
        fragment := fragmentOf (rest.dropWhile (· != '#')) }
  | _ => { url with fragment := fragmentOf text }

/-- Reads an address with an authority from behind its slashes. -/
def readWithAuthority
    (scheme : List Char)
    (special : Bool)
    (text : List Char) : Except Fault Url :=
  match readAuthority scheme special text with
  | .error fault => .error fault
  | .ok (authority, rest) =>
      let pathText := rest.takeWhile fun character => !endsPath character
      let tail := rest.dropWhile fun character => !endsPath character
      let path :=
        if pathText.isEmpty && !special then []
        else readPath special false (dropSlash special pathText)
      let url : Url := {
        scheme
        username := authority.username
        password := authority.password
        host := some authority.host
        port := authority.port
        path }
      .ok (withTail url special tail)

/-- Reads the host of a file address; the local host is as good as none. -/
def readFileHost (text : List Char) : Except Fault (List Char) :=
  if text.isEmpty then .ok []
  else
    (readHost text).map fun host =>
      if host == "localhost".toList then [] else host

/-- Reads a file address from behind its scheme. -/
def readFile (text : List Char) : Except Fault Url :=
  let scheme := "file".toList
  let isSlash := fun (character : Char) => character == '/' || character == '\\'
  let finish := fun (host rest : List Char) =>
    let pathText := rest.takeWhile fun character => !endsPath character
    let tail := rest.dropWhile fun character => !endsPath character
    let inner := dropSlash true pathText
    let first := ((segmentsOf true inner).head?).getD []
    let host := if isDriveLetter first then [] else host
    let url : Url :=
      { scheme, host := some host, path := readPath true true inner }
    withTail url true tail
  match text with
  | first :: second :: rest =>
      if isSlash first && isSlash second then
        let hostText :=
          rest.takeWhile fun character => !endsAuthority true character
        if isDriveLetter hostText then .ok (finish [] rest)
        else
          (readFileHost hostText).map fun host =>
            finish host (rest.drop hostText.length)
      else .ok (finish [] text)
  | _ => .ok (finish [] text)

/-- Reads an address from behind a scheme that is not special. -/
def readGeneric (scheme : List Char) (text : List Char) : Except Fault Url :=
  match text with
  | '/' :: '/' :: rest => readWithAuthority scheme false rest
  | _ =>
      let pathText := text.takeWhile fun character => !endsPath character
      let tail := text.dropWhile fun character => !endsPath character
      let path :=
        match pathText with
        | '/' :: rest => readPath false false rest
        | _ => percentEncode isControl pathText
      .ok (withTail { scheme, path } false tail)

/-- Reads an absolute address. -/
def parse (text : List Char) : Except Fault Url :=
  match splitScheme (cleanInput text) with
  | none => .error .relativeWithoutBase
  | some (scheme, rest) =>
      if scheme == "file".toList then readFile rest
      else if isSpecialScheme scheme then
        readWithAuthority scheme true
          (rest.dropWhile fun character => character == '/' || character == '\\')
      else readGeneric scheme rest

/-- Reads an absolute address from a string. -/
def parseString (text : String) : Except Fault Url :=
  parse text.toList

end Url
end FieldOcr
