import FieldOcr.Text.Split
import FieldOcr.Text.Utf8
import FieldOcr.Url.Host
import FieldOcr.Url.Punycode

/-!
# A conversion of names in ASCII

Names in ASCII are brought to lower case, and those outside ASCII are refused.
Of a label in the ASCII form of international names it is only checked that it
can be decoded.
-/

namespace FieldOcr
namespace Url

/-- Whether a label may stand in a name. -/
def isNameLabel (label : List Char) : Bool :=
  if "xn--".toList.isPrefixOf label then Punycode.isLabel (label.drop 4)
  else true

/-- The lower-case form of a name in ASCII. -/
def lowerName? (bytes : List UInt8) : Option (List Char) :=
  let decoded := Text.Utf8.decode bytes
  if decoded.any forbiddenInName then none
  else
    let lower := decoded.map Char.toLower
    if (Text.splitAll '.' lower).all isNameLabel then some lower else none

/-- The conversion of names in ASCII.  It is used unless another one is
given. -/
instance NameConversion.ascii : NameConversion where
  toAscii? := lowerName?

end Url
end FieldOcr
