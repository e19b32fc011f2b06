import FieldOcr.Text.Base64

/-!
# Trust bundles

A *trust bundle* is a text of sections.  A section stands between a line that
begins it and a line that ends it under the same label, and its contents are
written in Base64.  Text between sections counts for nothing, and neither do
sections with an unknown label; of the others only certificates are kept.
-/

namespace FieldOcr
namespace Trust

/-- The labels of sections whose contents are read. -/
def knownLabels : List String :=
  ["CERTIFICATE", "PUBLIC KEY", "RSA PRIVATE KEY", "PRIVATE KEY",
    "EC PRIVATE KEY", "X509 CRL", "CERTIFICATE REQUEST", "ECHCONFIG"]

/-- The bytes of a file as characters, one for each byte. -/
def characters (bytes : List UInt8) : List Char :=
  bytes.map fun byte => Char.ofNat byte.toNat

/-- Whether a character ends a line. -/
def endsLine (character : Char) : Bool :=
  character == '\n' || character == '\r'

/-- Splits a text behind each end of a line. -/
def splitLines (line : List Char) : List Char -> List (List Char)
  | [] => if line.isEmpty then [] else [line.reverse]
  | character :: rest =>
      if endsLine character then
        (character :: line).reverse :: splitLines [] rest
      else splitLines (character :: line) rest

/-- How a line begins a section. -/
def beginMark : List Char := "-----BEGIN ".toList

/-- The label of a line that begins a section.  Exactly five dashes have to
stand behind the label. -/
def label? (line : List Char) : Option (List Char) :=
  let trailing := line.reverse.takeWhile fun character =>
    character == '-' || endsLine character || character == ' '
  if trailing.count '-' = 5 then
    let upToDashes :=
      trailing.reverse.dropWhile (· != '-')
    some
      ((line.take (line.length - upToDashes.length)).drop beginMark.length)
  else none

/-- The line that ends a section. -/
def endMark (label : List Char) : List Char :=
  "-----END ".toList ++ label ++ "-----".toList

/-- Whether a character counts for nothing in a section. -/
def isFiller (character : Char) : Bool :=
  endsLine character || character == ' ' || character == '\t'

/-- What was read of a bundle. -/
structure Progress where
  /-- The label of the section that is open. -/
  openLabel : Option (List Char) := none
  /-- The lines of the section, the last one first. -/
  lines : List (List Char) := []
  /-- The certificates read, the last one first. -/
  certificates : List (List UInt8) := []

/-- Ends a section.  There is no result where the contents of a known section
are broken. -/
def Progress.close
    (progress : Progress)
    (label : List Char) : Option Progress :=
  if knownLabels.contains (String.ofList label) then
    let contents := progress.lines.reverse.flatten.filter (!isFiller ·)
    (Text.Base64.decode? contents).map fun bytes =>
      if label == "CERTIFICATE".toList then
        { certificates := bytes :: progress.certificates }
      else { certificates := progress.certificates }
  else some { certificates := progress.certificates }

/-- Reads one line. -/
def Progress.readLine
    (progress : Progress)
    (line : List Char) : Option Progress :=
  if beginMark.isPrefixOf line then
    (label? line).map fun label => { progress with openLabel := some label }
  else
    match progress.openLabel with
    | none => some progress
    | some label =>
        if (endMark label).isPrefixOf line then progress.close label
        else some { progress with lines := line :: progress.lines }

/-- The certificates of a bundle; there is no result for a broken one. -/
def readBundle (bytes : List UInt8) : Option (List (List UInt8)) := do
  let progress ←
    (splitLines [] (characters bytes)).foldlM Progress.readLine { }
  match progress.openLabel with
  | some _ => none
  | none => some progress.certificates.reverse

end Trust
end FieldOcr
