import FieldOcr.CommandLine.Invocation

/-!
# Arguments

The arguments that a command line may have, in the order of the manual.  An
option takes a value; a switch takes none.  Some options may be given by an
environment variable, which is named after the option.
-/

namespace FieldOcr
namespace CommandLine

open Recognition (ExportFormat MarkingType Region ServiceLocation TextType)
open Recognition (Vocabulary WritingStyle)

/-- Why a value is not accepted. -/
inductive ValueFault
  | absent
  | invalid (reason : String)
  deriving DecidableEq, Repr

/-- An argument that takes a value. -/
structure ValueOption where
  /-- The name behind two dashes. -/
  long : String
  /-- The character behind one dash. -/
  short : Option Char := none
  /-- Whether an environment variable may give the value. -/
  fromEnvironment : Bool := false
  /-- Whether the option may be given several times. -/
  repeatable : Bool := false
  /-- Whether an invocation has the value already. -/
  isGiven : Invocation -> Bool
  /-- Gives a value to an invocation. -/
  give : String -> Invocation -> Except ValueFault Invocation

/-- An argument without a value. -/
structure Switch where
  /-- The name behind two dashes. -/
  long : String
  /-- The character behind one dash. -/
  short : Option Char := none
  /-- Whether the switch is set already. -/
  isGiven : Invocation -> Bool
  /-- Sets the switch. -/
  give : Invocation -> Invocation

/-- The name of a value in capitals. -/
def capitalName (long : String) : String :=
  String.ofList <| long.toList.map fun character =>
    if character == '-' then '_' else character.toUpper

/-- An option as messages show it. -/
def ValueOption.shown (option : ValueOption) : String :=
  s!"--{option.long} <{capitalName option.long}>"

/-- The environment variable of an option. -/
def ValueOption.variable? (option : ValueOption) : Option String :=
  if option.fromEnvironment then some ("CLOUD_OCR_" ++ capitalName option.long)
  else none

/-! ## Reading of values -/

/-- Reads any text. -/
def readText (value : String) : Except ValueFault String :=
  .ok value

/-- Reads a path, which must not be empty. -/
def readPath (value : String) : Except ValueFault String :=
  if value.isEmpty then .error .absent else .ok value

/-- Reads a value by the rules of a request. -/
def readBy
    (read : String -> Except Setup.Fault α)
    (value : String) : Except ValueFault α :=
  (read value).mapError fun fault => .invalid fault.message

/-- Reads a word of a vocabulary. -/
def readWord
    (vocabulary : Vocabulary α) : String -> Except ValueFault α :=
  readBy vocabulary.read

/-- Reads a number of 64 bits. -/
def readCount (value : String) : Except ValueFault Nat :=
  (Text.readWord 64 value.toList).mapError fun fault =>
    .invalid fault.message

/-- Reads a number with a limit, which is checked after the number is read. -/
def readLimited (limit : Nat) (value : String) : Except ValueFault Nat :=
  match Text.readSigned (Nat.pow 2 63 - 1) value.toList with
  | .error fault => .error (.invalid fault.message)
  | .ok number =>
      if 0 ≤ number && number ≤ limit then .ok number.toNat
      else .error (.invalid s!"{number} is not in 0..={limit}")

/-- An option that keeps one value. -/
def single
    (long : String)
    (read : String -> Except ValueFault α)
    (get : Invocation -> Option α)
    (set : α -> Invocation -> Invocation) : ValueOption where
  long := long
  isGiven invocation := (get invocation).isSome
  give value invocation := (read value).map fun taken => set taken invocation

/-- An option that an environment variable may give. -/
def ValueOption.orVariable (option : ValueOption) : ValueOption :=
  { option with fromEnvironment := true }

/-- The languages of a value, with commas between them. -/
def splitLanguages (value : String) : List String :=
  (Text.splitAll ',' value.toList).map String.ofList

/-! ## The arguments -/

/-- The option for languages, which may be given several times. -/
def languageOption : ValueOption where
  long := "language"
  repeatable := true
  isGiven invocation := !invocation.languages.isEmpty
  give value invocation :=
    .ok
      { invocation with
        languages := invocation.languages ++ splitLanguages value }

/-- The option for the file of the result. -/
def outputOption : ValueOption :=
  { single "output" readPath (·.output)
      fun value invocation => { invocation with output := some value } with
    short := some 'o'
    fromEnvironment := true }

/-- The option for the identifier of the application. -/
def applicationIdOption : ValueOption :=
  (single "application-id" readText (·.applicationId)
    fun value invocation =>
      { invocation with applicationId := some value }).orVariable

/-- The options in front of those that describe the field. -/
def serviceOptions : List ValueOption :=
  [outputOption, applicationIdOption,
    (single "password" readText (·.password) fun value invocation =>
      { invocation with password := some value }).orVariable,
    (single "location" (readWord ServiceLocation.vocabulary) (·.location)
      fun value invocation =>
        { invocation with location := some value }).orVariable,
    (single "base-url" readText (·.baseUrl) fun value invocation =>
      { invocation with baseUrl := some value }).orVariable,
    (single "export-format" (readWord ExportFormat.vocabulary) (·.exportFormat)
      fun value invocation =>
        { invocation with exportFormat := some value }).orVariable,
    (single "charset" readText (·.charset) fun value invocation =>
      { invocation with charset := some value }).orVariable]

/-- The options that describe the field. -/
def fieldOptions : List ValueOption :=
  [single "region" (readBy Region.read) (·.region) fun value invocation =>
      { invocation with region := some value },
    languageOption,
    single "letter-set" readText (·.letterSet) fun value invocation =>
      { invocation with letterSet := some value },
    single "reg-exp" readText (·.regExp) fun value invocation =>
      { invocation with regExp := some value },
    single "text-type" (readWord TextType.vocabulary) (·.textType)
      fun value invocation => { invocation with textType := some value },
    single "marking-type" (readWord MarkingType.vocabulary) (·.markingType)
      fun value invocation => { invocation with markingType := some value },
    single "placeholders-count" (readLimited (Nat.pow 2 32 - 1))
      (·.placeholdersCount) fun value invocation =>
        { invocation with placeholdersCount := some value },
    single "writing-style" (readWord WritingStyle.vocabulary) (·.writingStyle)
      fun value invocation => { invocation with writingStyle := some value },
    single "description" readText (·.description) fun value invocation =>
      { invocation with description := some value },
    (single "pdf-password" readText (·.pdfPassword) fun value invocation =>
      { invocation with pdfPassword := some value }).orVariable]

/-- The options that describe the run and its connections. -/
def runOptions : List ValueOption :=
  [(single "poll-interval" readCount (·.pollInterval) fun value invocation =>
      { invocation with pollInterval := some value }).orVariable,
    (single "timeout" readCount (·.timeout) fun value invocation =>
      { invocation with timeout := some value }).orVariable,
    single "schema" readPath (·.schema) fun value invocation =>
      { invocation with schema := some value },
    (single "connect-timeout" readCount (·.connectTimeout)
      fun value invocation =>
        { invocation with connectTimeout := some value }).orVariable,
    (single "socket-timeout" readCount (·.socketTimeout)
      fun value invocation =>
        { invocation with socketTimeout := some value }).orVariable,
    single "connections-max-per-route" readCount (·.connectionsMaxPerRoute)
      fun value invocation =>
        { invocation with connectionsMaxPerRoute := some value },
    (single "proxy-host" readText (·.proxyHost) fun value invocation =>
      { invocation with proxyHost := some value }).orVariable,
    (single "proxy-port" (readLimited (Nat.pow 2 16 - 1)) (·.proxyPort)
      fun value invocation =>
        { invocation with proxyPort := some value }).orVariable,
    (single "proxy-username" readText (·.proxyUsername)
      fun value invocation =>
        { invocation with proxyUsername := some value }).orVariable,
    (single "proxy-password" readText (·.proxyPassword)
      fun value invocation =>
        { invocation with proxyPassword := some value }).orVariable,
    (single "trust-bundle" readPath (·.trustBundle) fun value invocation =>
      { invocation with trustBundle := some value }).orVariable]

/-- The options in the order of the manual. -/
def valueOptions : List ValueOption :=
  serviceOptions ++ fieldOptions ++ runOptions

/-- The switches in the order of the manual. -/
def switches : List Switch :=
  [⟨"one-text-line", none, (·.oneTextLine),
      ({ · with oneTextLine := true })⟩,
    ⟨"one-word-per-text-line", none, (·.oneWordPerTextLine),
      ({ · with oneWordPerTextLine := true })⟩,
    ⟨"no-keep-alive", none, (·.noKeepAlive),
      ({ · with noKeepAlive := true })⟩,
    ⟨"trust-all-roots", none, (·.trustAllRoots),
      ({ · with trustAllRoots := true })⟩,
    ⟨"json", none, (·.json), ({ · with json := true })⟩,
    ⟨"no-progress", none, (·.noProgress),
      ({ · with noProgress := true })⟩,
    ⟨"verbose", some 'v', (·.verbose), ({ · with verbose := true })⟩,
    ⟨"quiet", some 'q', (·.quiet), ({ · with quiet := true })⟩]

/-- What the name of an argument refers to. -/
inductive Argument
  | option (option : ValueOption)
  | switch (switch : Switch)
  | help
  | version

namespace Argument

/-- The arguments that only inform. -/
def informing : List (String × Char × Argument) :=
  [("help", 'h', .help), ("version", 'V', .version)]

/-- The argument with a name behind two dashes. -/
def ofLong? (long : String) : Option Argument :=
  ((valueOptions.find? (·.long = long)).map .option).or <|
    ((switches.find? (·.long = long)).map .switch).or <|
      (informing.find? (·.1 = long)).map (·.2.2)

/-- The argument with a character behind one dash. -/
def ofShort? (short : Char) : Option Argument :=
  ((valueOptions.find? (·.short = some short)).map .option).or <|
    ((switches.find? (·.short = some short)).map .switch).or <|
      (informing.find? (·.2.1 = short)).map (·.2.2)

end Argument
end CommandLine
end FieldOcr
