import FieldOcr.CommandLine.Argument

/-!
# Reading of command lines

A command line is read word by word.  A value that stands in a word of its own
is checked only when the next argument begins, so that an unknown argument
behind it is reported first.  Behind the words, environment variables give
what is still missing.
-/

namespace FieldOcr
namespace CommandLine

/-- What is wrong with a command line. -/
inductive Fault
  | unknownArgument (argument : String)
  | repeatedArgument (argument : String)
  | missingValue (argument : String)
  | unexpectedValue (value argument : String)
  | invalidValue (value argument reason : String)
  | missingArguments (arguments : List String)
  deriving DecidableEq, Repr

/-- The wording of a fault. -/
def Fault.message : Fault -> String
  | .unknownArgument argument => s!"unexpected argument '{argument}' found"
  | .repeatedArgument argument =>
      s!"the argument '{argument}' cannot be used multiple times"
  | .missingValue argument =>
      s!"a value is required for '{argument}' but none was supplied"
  | .unexpectedValue value argument =>
      s!"unexpected value '{value}' for '{argument}' found; " ++
        "no more were expected"
  | .invalidValue value argument reason =>
      s!"invalid value '{value}' for '{argument}': " ++ reason
  | .missingArguments arguments =>
      "the following required arguments were not provided:" ++
        String.join (arguments.map ("\n  " ++ ·))

/-- Why a command line does not lead to a run. -/
inductive Stop
  | help
  | version
  | noArguments
  | fault (fault : Fault)
  deriving DecidableEq, Repr

/-- An option whose value is not checked yet. -/
structure Pending where
  /-- The option. -/
  option : ValueOption
  /-- Its value, once there is one. -/
  value : Option String

/-- What was read so far. -/
structure Progress where
  /-- What was accepted. -/
  invocation : Invocation := { }
  /-- What is still to be accepted. -/
  pending : Option Pending := none

/-- Gives the value of an option to an invocation. -/
def accept
    (option : ValueOption)
    (value : String)
    (invocation : Invocation) : Except Stop Invocation :=
  if option.isGiven invocation && !option.repeatable then
    .error (.fault (.repeatedArgument option.shown))
  else
    match option.give value invocation with
    | .ok given => .ok given
    | .error .absent => .error (.fault (.missingValue option.shown))
    | .error (.invalid reason) =>
        .error (.fault (.invalidValue value option.shown reason))

namespace Progress

/-- Accepts what is pending. -/
def settle (progress : Progress) : Except Stop Invocation :=
  match progress.pending with
  | none => .ok progress.invocation
  | some ⟨option, none⟩ =>
      .error (.fault (.missingValue option.shown))
  | some ⟨option, some value⟩ => accept option value progress.invocation

/-- Begins an option, whose value may be attached to it. -/
def beginOption
    (progress : Progress)
    (option : ValueOption) : Option String -> Except Stop Progress
  | none => do
      return ⟨← progress.settle, some ⟨option, none⟩⟩
  | some value => do
      return ⟨← accept option value (← progress.settle), none⟩

/-- Sets a switch. -/
def setSwitch
    (progress : Progress)
    (switch : Switch) : Except Stop Progress := do
  let invocation ← progress.settle
  if switch.isGiven invocation then
    .error (.fault (.repeatedArgument ("--" ++ switch.long)))
  else return ⟨switch.give invocation, none⟩

/-- Stops in order to inform. -/
def inform (progress : Progress) (stop : Stop) : Except Stop Progress :=
  match progress.settle with
  | .error earlier => .error earlier
  | .ok _ => .error stop

/-- Refuses a value that is attached to an argument without values. -/
def refuseValue
    (long : String)
    (result : Except Stop Progress) : Option String -> Except Stop Progress
  | none => result
  | some value =>
      .error (.fault (.unexpectedValue value ("--" ++ long)))

/-- Reads a word with two dashes in front, given the rest of the word. -/
def readLong (progress : Progress) (word : List Char) : Except Stop Progress :=
  let long := String.ofList (word.takeWhile (· != '='))
  let attached :=
    match word.dropWhile (· != '=') with
    | [] => none
    | _ :: value => some (String.ofList value)
  match Argument.ofLong? long with
  | none => .error (.fault (.unknownArgument ("--" ++ long)))
  | some (.option option) => progress.beginOption option attached
  | some (.switch switch) =>
      refuseValue long (progress.setSwitch switch) attached
  | some .help => refuseValue long (progress.inform .help) attached
  | some .version => refuseValue long (progress.inform .version) attached

/-- The value that is attached to a character behind one dash. -/
def attachedValue : List Char -> Option String
  | [] => none
  | '=' :: value => some (String.ofList value)
  | value => some (String.ofList value)

/-- Reads the characters behind one dash. -/
def readShort (progress : Progress) : List Char -> Except Stop Progress
  | [] => .ok progress
  | short :: rest =>
      match Argument.ofShort? short with
      | none =>
          .error (.fault (.unknownArgument (String.ofList ['-', short])))
      | some (.option option) =>
          progress.beginOption option (attachedValue rest)
      | some (.switch switch) =>
          match progress.setSwitch switch with
          | .error stop => .error stop
          | .ok further => readShort further rest
      | some .help => progress.inform .help
      | some .version => progress.inform .version

/-- Reads the source, of which there is only one. -/
def readSource (progress : Progress) (word : String) : Except Stop Progress :=
  if progress.invocation.source.isSome then
    .error (.fault (.unknownArgument word))
  else do
    let invocation ← progress.settle
    return ⟨{ invocation with source := some word }, none⟩

/-- Reads a word without dashes in front: a value that is due, or the
source. -/
def readPlain (progress : Progress) (word : String) : Except Stop Progress :=
  match progress.pending with
  | some ⟨option, none⟩ =>
      .ok { progress with pending := some ⟨option, some word⟩ }
  | _ => progress.readSource word

/-- Reads a word. -/
def readWord (progress : Progress) (word : String) : Except Stop Progress :=
  match word.toList with
  | '-' :: '-' :: rest => progress.readLong rest
  | '-' :: short :: rest => progress.readShort (short :: rest)
  | _ => progress.readPlain word

/-- Reads words.  Behind two lone dashes there are no options any more. -/
def readWords (progress : Progress) : List String -> Except Stop Progress
  | [] => .ok progress
  | word :: rest =>
      if word = "--" then rest.foldlM readSource progress
      else
        match progress.readWord word with
        | .error stop => .error stop
        | .ok further => readWords further rest

end Progress

/-- The value of an environment variable. -/
abbrev Environment := List (String × String)

/-- The value that the environment gives to an option. -/
def Environment.value?
    (environment : Environment)
    (option : ValueOption) : Option String := do
  let name ← option.variable?
  (environment.find? (·.1 = name)).map (·.2)

/-- Gives an option the value of its environment variable, unless it has a
value already. -/
def acceptVariable
    (environment : Environment)
    (invocation : Invocation)
    (option : ValueOption) : Except Stop Invocation :=
  if option.isGiven invocation then .ok invocation
  else
    match environment.value? option with
    | none => .ok invocation
    | some value => accept option value invocation

/-- The required arguments that are missing. -/
def Invocation.missing (invocation : Invocation) : List String :=
  (if invocation.applicationId.isNone then [applicationIdOption.shown]
    else []) ++
    (if invocation.source.isNone then ["<SOURCE>"] else [])

/-- Checks that nothing required is missing. -/
def checkComplete (invocation : Invocation) : Except Stop Invocation :=
  if invocation = { } then .error .noArguments
  else if invocation.missing.isEmpty then .ok invocation
  else .error (.fault (.missingArguments invocation.missing))

/-- Reads a command line. -/
def read
    (environment : Environment)
    (words : List String) : Except Stop Invocation := do
  let progress ← Progress.readWords { } words
  let invocation ← progress.settle
  let complete ←
    valueOptions.foldlM (acceptVariable environment) invocation
  checkComplete complete

end CommandLine
end FieldOcr
