import FieldOcr.Charset.CodePage
import FieldOcr.Text.Utf16

/-!
# Charsets

A *charset* tells how a text is written as bytes.
-/

namespace FieldOcr

/-- A charset that has tables of characters which take several bytes. -/
inductive Charset.MultiByte
  | shiftJis
  | eucJp
  | iso2022Jp
  | gbk
  | gb18030
  | big5
  | eucKr
  deriving DecidableEq, Repr

/-- A way to write texts as bytes. -/
inductive Charset
  | utf8
  | utf16 (order : Text.Utf16.ByteOrder)
  | replacement
  | singleByte (page : Charset.CodePage)
  | multiByte (tables : Charset.MultiByte)
  deriving DecidableEq, Repr

namespace Charset

/-- The name of a charset with tables. -/
def MultiByte.name : MultiByte -> String
  | .shiftJis => "Shift_JIS"
  | .eucJp => "EUC-JP"
  | .iso2022Jp => "ISO-2022-JP"
  | .gbk => "GBK"
  | .gb18030 => "gb18030"
  | .big5 => "Big5"
  | .eucKr => "EUC-KR"

/-- The name of a charset. -/
def name : Charset -> String
  | .utf8 => "UTF-8"
  | .utf16 .little => "UTF-16LE"
  | .utf16 .big => "UTF-16BE"
  | .replacement => "replacement"
  | .singleByte page => page.name
  | .multiByte tables => tables.name

end Charset
end FieldOcr
