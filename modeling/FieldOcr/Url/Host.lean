import FieldOcr.Text.Blank
import FieldOcr.Text.Numeral
import FieldOcr.Text.Split
import FieldOcr.Url.Fault
import FieldOcr.Url.Percent

/-!
# Hosts

A host is a name, an IPv4 address or an IPv6 address in square brackets.  A
name is brought to ASCII after percent decoding, by a conversion that is given;
a name that ends in a number has to be an IPv4 address.
-/

namespace FieldOcr
namespace Url

/-- Whether a text is a number in decimal notation. -/
def allDigits (text : List Char) : Bool :=
  !text.isEmpty && text.all Char.isDigit

/-- The part of a dotted number that a text denotes: none if it is no number,
and no value if the number does not fit 32 bits. -/
def ipv4Number? (text : List Char) : Option (Option Nat) :=
  let read := fun (base : Nat) (digits : List Char) =>
    if digits.isEmpty then some (some 0)
    else
      match Text.readDigits base (Text.wordLimit 32) .tooLarge 0 digits with
      | .ok value => some (some value)
      | .error _ =>
          if digits.all fun digit => (Text.digitValue? base digit).isSome then
            some none
          else none
  match text with
  | [] => none
  | '0' :: 'x' :: digits => read 16 digits
  | '0' :: 'X' :: digits => read 16 digits
  | '0' :: first :: digits => read 8 (first :: digits)
  | digits => read 10 digits

/-- The parts of a name between its dots, without the empty part behind a
final dot. -/
def nameParts (name : List Char) : List (List Char) :=
  let parts := Text.splitAll '.' name
  if parts.getLast? == some [] then parts.dropLast else parts

/-- Whether a name ends in a number. -/
def endsInNumber (name : List Char) : Bool :=
  match (nameParts name).getLast? with
  | none => false
  | some last => allDigits last || (ipv4Number? last).isSome

/-- Reads an IPv4 address. -/
def readIpv4 (name : List Char) : Except Fault Nat :=
  let parts := nameParts name
  if 4 < parts.length then .error .invalidIpv4
  else
    match parts.mapM fun part => (ipv4Number? part).join with
    | none => .error .invalidIpv4
    | some numbers =>
        let leading := numbers.dropLast
        let last := numbers.getLast?.getD 0
        if Nat.pow 2 (8 * (4 - leading.length)) ≤ last then .error .invalidIpv4
        else if leading.any (255 < ·) then .error .invalidIpv4
        else
          let high := leading.foldl (fun value number => value * 256 + number) 0
          .ok (high * Nat.pow 2 (8 * (4 - leading.length)) + last)

/-- An IPv4 address in dotted decimal notation. -/
def renderIpv4 (address : Nat) : List Char :=
  let part := fun (shift : Nat) => Text.decimal (address / Nat.pow 2 shift % 256)
  part 24 ++ '.' :: part 16 ++ '.' :: part 8 ++ '.' :: part 0

/-- Reads one group of an IPv6 address. -/
def ipv6Group? (text : List Char) : Option Nat :=
  if text.isEmpty || 4 < text.length then none
  else
    match Text.readDigits 16 0xFFFF .tooLarge 0 text with
    | .ok value => some value
    | .error _ => none

/-- Reads one part of an IPv4 address at the end of an IPv6 address. -/
def embeddedPart? (text : List Char) : Option Nat :=
  if text.isEmpty || !text.all Char.isDigit then none
  else if 1 < text.length && text.head? == some '0' then none
  else
    match Text.readDigits 10 255 .tooLarge 0 text with
    | .ok value => some value
    | .error _ => none

/-- Reads groups between colons; the last one may be an IPv4 address. -/
def ipv6Groups? (text : List Char) : Option (List Nat) :=
  if text.isEmpty then some []
  else
    let parts := Text.splitAll ':' text
    match parts.getLast? with
    | none => none
    | some last =>
        if last.contains '.' then
          match parts.dropLast.mapM ipv6Group?,
              (Text.splitAll '.' last).mapM embeddedPart? with
          | some groups, some [first, second, third, fourth] =>
              some (groups ++ [first * 256 + second, third * 256 + fourth])
          | _, _ => none
        else parts.mapM ipv6Group?

/-- Splits a text at the first pair of colons. -/
def splitAtGap
    (taken : List Char) : List Char -> Option (List Char × List Char)
  | [] => none
  | [_] => none
  | first :: second :: rest =>
      if first == ':' && second == ':' then some (taken.reverse, rest)
      else splitAtGap (first :: taken) (second :: rest)

/-- Reads the eight groups of an IPv6 address.  A pair of colons stands for
one group of zeros or more. -/
def readIpv6 (text : List Char) : Except Fault (List Nat) :=
  let groups :=
    match splitAtGap [] text with
    | some (before, behind) =>
        match ipv6Groups? before, ipv6Groups? behind with
        | some left, some right =>
            if before.contains '.' || 7 < left.length + right.length then none
            else
              some (left ++
                List.replicate (8 - left.length - right.length) 0 ++ right)
        | _, _ => none
    | none => (ipv6Groups? text).filter (·.length == 8)
  match groups with
  | some groups => .ok groups
  | none => .error .invalidIpv6

/-- The start and the length of the longest run of zeros, the first one of
several. -/
def longestZeros (groups : List Nat) : Nat × Nat :=
  let lengthAt := fun (start : Nat) =>
    ((groups.drop start).takeWhile (· == 0)).length
  (List.range groups.length).foldl
    (fun best start =>
      if best.2 < lengthAt start then (start, lengthAt start) else best)
    (0, 0)

/-- Groups between colons in hexadecimal notation. -/
def renderGroups (groups : List Nat) : List Char :=
  [':'].intercalate (groups.map (Nat.toDigits 16))

/-- An IPv6 address in square brackets; the longest run of at least two groups
of zeros is left out. -/
def renderIpv6 (groups : List Nat) : List Char :=
  let (start, length) := longestZeros groups
  let body :=
    if length < 2 then renderGroups groups
    else
      renderGroups (groups.take start) ++ [':', ':'] ++
        renderGroups (groups.drop (start + length))
  '[' :: body ++ [']']

/-- The characters that no name in ASCII may hold. -/
def forbiddenInName (character : Char) : Bool :=
  character.toNat ≤ 0x20 || 0x7F ≤ character.toNat ||
    "%#/:<>?@[\\]^|".toList.contains character

/-- How names of hosts are brought to ASCII.  Neither the tables of this
conversion nor its rules are part of the program. -/
class NameConversion where
  /-- The ASCII form of a name that is given in UTF-8, if it has one. -/
  toAscii? : List UInt8 -> Option (List Char)

variable [NameConversion]

/-- Reads a name in its ASCII form. -/
def readName (text : List Char) : Except Fault (List Char) :=
  match NameConversion.toAscii? (percentDecode (Text.Utf8.encode text)) with
  | none => .error .invalidName
  | some name => if name.isEmpty then .error .emptyHost else .ok name

/-- Reads the host of a special address in its canonical form. -/
def readHost (text : List Char) : Except Fault (List Char) :=
  match text with
  | '[' :: rest =>
      if rest.getLast? == some ']' then
        (readIpv6 rest.dropLast).map renderIpv6
      else .error .invalidIpv6
  | _ =>
      match readName text with
      | .error fault => .error fault
      | .ok name =>
          if endsInNumber name then (readIpv4 name).map renderIpv4 else .ok name

/-- Reads the host of an address whose scheme is not special. -/
def readOpaqueHost (text : List Char) : Except Fault (List Char) :=
  match text with
  | '[' :: rest =>
      if rest.getLast? == some ']' then
        (readIpv6 rest.dropLast).map renderIpv6
      else .error .invalidIpv6
  | _ =>
      if text.any fun character =>
          character.toNat == 0 ||
            "\t\n\r #/:<>?@[\\]^|".toList.contains character then
        .error .invalidOpaqueHost
      else .ok (percentEncode isControl text)

end Url
end FieldOcr
