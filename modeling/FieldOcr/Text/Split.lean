/-!
# Splitting texts

A text is split at each occurrence of a separator.  There is always one part
more than there are separators, and parts may be empty.
-/

namespace FieldOcr
namespace Text

/-- Splits a text at each occurrence of a character. -/
def splitAll (separator : Char) : List Char -> List (List Char)
  | [] => [[]]
  | character :: rest =>
      if character == separator then [] :: splitAll separator rest
      else
        match splitAll separator rest with
        | [] => [[character]]
        | part :: parts => (character :: part) :: parts

end Text
end FieldOcr
