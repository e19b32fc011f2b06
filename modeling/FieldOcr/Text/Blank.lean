/-!
# Blank characters and trimming

A character is *blank* when it has the Unicode property `White_Space`.  Texts
are lists of characters here, so that trimming at either end is ordinary
recursion on lists.  The byte-order mark and the zero-width space are not
blank.
-/

namespace FieldOcr
namespace Text

/-- The characters with the Unicode property `White_Space`. -/
def isBlank (character : Char) : Bool :=
  let code := character.toNat
  (0x09 ≤ code && code ≤ 0x0D) || code == 0x20 || code == 0x85 ||
    code == 0xA0 || code == 0x1680 || (0x2000 ≤ code && code ≤ 0x200A) ||
    code == 0x2028 || code == 0x2029 || code == 0x202F || code == 0x205F ||
    code == 0x3000

/-- The characters that markup treats as white space: space, tab, carriage
return and line feed. -/
def isMarkupSpace (character : Char) : Bool :=
  character == ' ' || character == '\t' || character == '\r' ||
    character == '\n'

/-- Drops the longest suffix whose members all satisfy a test. -/
def dropWhileEnd
    (test : Char -> Bool)
    (text : List Char) : List Char :=
  (text.reverse.dropWhile test).reverse

/-- Drops the longest prefix and suffix whose members all satisfy a test. -/
def trimWhile
    (test : Char -> Bool)
    (text : List Char) : List Char :=
  dropWhileEnd test (text.dropWhile test)

/-- Drops blank characters at both ends. -/
def trim (text : List Char) : List Char :=
  trimWhile isBlank text

/-- A text is blank when all of its characters are. -/
def allBlank (text : List Char) : Bool :=
  text.all isBlank

/-- Drops blank characters at both ends of a string. -/
def trimString (text : String) : String :=
  String.ofList (trim text.toList)

/-- A string is blank when all of its characters are. -/
def isBlankString (text : String) : Bool :=
  allBlank text.toList

/-- The number of bytes of a text in UTF-8. -/
def byteLength (text : List Char) : Nat :=
  text.foldl (fun total character => total + character.utf8Size) 0

end Text
end FieldOcr
