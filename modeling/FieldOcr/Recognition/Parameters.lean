import FieldOcr.Recognition.Vocabulary

/-!
# Recognition parameters

The parameters of a text field that take their value from a closed set, with
the words that the service uses for them.
-/

namespace FieldOcr
namespace Recognition

/-- A data centre of the service. -/
inductive ServiceLocation
  | europe
  | westernUnitedStates
  deriving DecidableEq, Repr

namespace ServiceLocation

/-- The word for a data centre. -/
def word : ServiceLocation -> String
  | .europe => "cloud-eu"
  | .westernUnitedStates => "cloud-westus"

/-- The data centres. -/
def vocabulary : Vocabulary ServiceLocation where
  parameter := .location
  values := [.europe, .westernUnitedStates]
  word := word
  name
    | .europe => "CloudEu"
    | .westernUnitedStates => "CloudWestUs"

/-- The address of the service in a data centre. -/
def baseUrl (location : ServiceLocation) : String :=
  "https://" ++ location.word ++ ".ocrsdk.com"

end ServiceLocation

/-- The format of a result. -/
inductive ExportFormat
  | xml
  | txt
  deriving DecidableEq, Repr

namespace ExportFormat

/-- The word for a format. -/
def word : ExportFormat -> String
  | .xml => "xml"
  | .txt => "txt"

/-- The formats. -/
def vocabulary : Vocabulary ExportFormat where
  parameter := .exportFormat
  values := [.xml, .txt]
  word := word

/-- Whether results of a format are checked against a schema. -/
def isStructured (format : ExportFormat) : Bool :=
  format = .xml

end ExportFormat

/-- The kind of print in a field. -/
inductive TextType
  | normal
  | typewriter
  | matrix
  | index
  | handprinted
  | ocrA
  | ocrB
  | e13b
  | cmc7
  | gothic
  deriving DecidableEq, Repr

namespace TextType

/-- The word for a kind of print. -/
def word : TextType -> String
  | .normal => "normal"
  | .typewriter => "typewriter"
  | .matrix => "matrix"
  | .index => "index"
  | .handprinted => "handprinted"
  | .ocrA => "ocrA"
  | .ocrB => "ocrB"
  | .e13b => "e13b"
  | .cmc7 => "cmc7"
  | .gothic => "gothic"

/-- The kinds of print. -/
def vocabulary : Vocabulary TextType where
  parameter := .textType
  values :=
    [.normal, .typewriter, .matrix, .index, .handprinted, .ocrA, .ocrB, .e13b,
      .cmc7, .gothic]
  word := word

end TextType

/-- How a field is marked on its form. -/
inductive MarkingType
  | simpleText
  | underlinedText
  | textInFrame
  | greyBoxes
  | charBoxSeries
  | simpleComb
  | combInFrame
  | partitionedFrame
  deriving DecidableEq, Repr

namespace MarkingType

/-- The word for a marking. -/
def word : MarkingType -> String
  | .simpleText => "simpleText"
  | .underlinedText => "underlinedText"
  | .textInFrame => "textInFrame"
  | .greyBoxes => "greyBoxes"
  | .charBoxSeries => "charBoxSeries"
  | .simpleComb => "simpleComb"
  | .combInFrame => "combInFrame"
  | .partitionedFrame => "partitionedFrame"

/-- The markings. -/
def vocabulary : Vocabulary MarkingType where
  parameter := .markingType
  values :=
    [.simpleText, .underlinedText, .textInFrame, .greyBoxes, .charBoxSeries,
      .simpleComb, .combInFrame, .partitionedFrame]
  word := word

/-- Whether a marking splits a field into one cell for each character. -/
def hasCells : MarkingType -> Bool
  | .charBoxSeries | .simpleComb | .combInFrame | .partitionedFrame => true
  | .simpleText | .underlinedText | .textInFrame | .greyBoxes => false

end MarkingType

/-- A convention of handwriting. -/
inductive WritingStyle
  | standard
  | american
  | arabic
  | baltic
  | british
  | bulgarian
  | canadian
  | chinese
  | czech
  | french
  | german
  | greek
  | hungarian
  | italian
  | japanese
  | polish
  | portuguese
  | romanian
  | russian
  | spanish
  | swedish
  | thai
  | turkish
  | ukrainian
  deriving DecidableEq, Repr

namespace WritingStyle

/-- The word for a convention. -/
def word : WritingStyle -> String
  | .standard => "default"
  | .american => "american"
  | .arabic => "arabic"
  | .baltic => "baltic"
  | .british => "british"
  | .bulgarian => "bulgarian"
  | .canadian => "canadian"
  | .chinese => "chinese"
  | .czech => "czech"
  | .french => "french"
  | .german => "german"
  | .greek => "greek"
  | .hungarian => "hungarian"
  | .italian => "italian"
  | .japanese => "japanese"
  | .polish => "polish"
  | .portuguese => "portuguese"
  | .romanian => "romanian"
  | .russian => "russian"
  | .spanish => "spanish"
  | .swedish => "swedish"
  | .thai => "thai"
  | .turkish => "turkish"
  | .ukrainian => "ukrainian"

/-- The conventions. -/
def vocabulary : Vocabulary WritingStyle where
  parameter := .writingStyle
  values :=
    [.standard, .american, .arabic, .baltic, .british, .bulgarian, .canadian,
      .chinese, .czech, .french, .german, .greek, .hungarian, .italian,
      .japanese, .polish, .portuguese, .romanian, .russian, .spanish, .swedish,
      .thai, .turkish, .ukrainian]
  word := word

end WritingStyle
end Recognition
end FieldOcr
