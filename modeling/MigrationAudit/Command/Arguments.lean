import MigrationAudit.Command.Request

/-!
# Arguments

The first argument is a command.  Those of the command that validates are options: a name after two
hyphens, with its value after an equals sign or in the next argument, or a letter after one hyphen,
with its value right behind it, after an equals sign or in the next argument.  Arguments are gone
through in order, so the first one that is not understood is the one that is reported, and what
follows a request for help does not matter.
-/

namespace MigrationAudit

inductive Invocation where
  | validate (request : Request)
  | help
  | version
  deriving DecidableEq, Repr

/-- The options that take no value. -/
inductive FlagOption where
  | json
  | noFailOnError
  | help
  deriving DecidableEq, Repr

def FlagOption.all : List FlagOption := [.json, .noFailOnError, .help]

def FlagOption.name : FlagOption → String
  | .json => "json"
  | .noFailOnError => "no-fail-on-error"
  | .help => "help"

inductive Argument where
  | value (option : ValueOption) (value? : Option String)
  | flag (option : FlagOption)
  /-- A flag with a value. -/
  | overfull
  /-- Two hyphens, after which nothing is an option. -/
  | lastOption
  | other
  deriving DecidableEq, Repr

namespace Argument

def ofName (name : String) (value? : Option String) : Argument :=
  match ValueOption.all.find? (·.name = name), FlagOption.all.find? (·.name = name) with
  | some option, _ => .value option value?
  | none, some option => if value?.isSome then overfull else flag option
  | none, none => other

/-- The value that stands right behind a letter. -/
def attached? : List Char → Option String
  | [] => none
  | '=' :: cs => some (String.ofList cs)
  | cs => some (String.ofList cs)

def ofLetter (letter : Char) (rest : List Char) : Argument :=
  if letter = 'h' then flag .help
  else
    match ValueOption.all.find? (·.letter? = some letter) with
    | some option => .value option (attached? rest)
    | none => other

def ofText (text : String) : Argument :=
  match text.toList with
  | ['-', '-'] => lastOption
  | '-' :: '-' :: cs =>
    match Text.splitAtFirst? '=' cs with
    | some (name, text) => ofName (String.ofList name) (some (String.ofList text))
    | none => ofName (String.ofList cs) none
  | '-' :: letter :: rest => ofLetter letter rest
  | _ => other

end Argument

/-- Whether an argument can be the value of the option before it. -/
def isPlain (text : String) : Bool := text = "-" || text.toList.head? != some '-'

namespace Request

def readFlag (r : Request) : FlagOption → Except Refusal Request
  | .json => if r.asJson then .error (.repeatedOption "json") else .ok { r with asJson := true }
  | .noFailOnError =>
    if r.tolerant then .error (.repeatedOption "no-fail-on-error")
    else .ok { r with tolerant := true }
  | .help => .ok r

/-- What the options after some others ask for. -/
def readOptions (r : Request) : List String → Except Refusal Invocation
  | [] => .ok (.validate r)
  | text :: rest =>
    match Argument.ofText text with
    | .value option (some value) => do
      let r ← r.take option value
      r.readOptions rest
    | .value option none =>
      match rest with
      | [] => .error (.missingValue text)
      | value :: rest =>
        if isPlain value then do
          let r ← r.take option value
          r.readOptions rest
        else .error (.missingValue text)
    | .flag .help => .ok .help
    | .flag option => do
      let r ← r.readFlag option
      r.readOptions rest
    | .overfull => .error (.unexpectedValue text)
    | .lastOption =>
      match rest with
      | [] => .ok (.validate r)
      | other :: _ => .error (.unknownArgument other)
    | .other => .error (.unknownArgument text)

end Request

namespace Invocation

/-- A letter that is a command has priority over those behind it. -/
def ofLetters? : List Char → Option Invocation
  | 'h' :: _ => some help
  | 'V' :: _ => some version
  | _ => none

/-- What arguments ask for. -/
def ofArguments : List String → Except Refusal Invocation
  | [] => .error .noCommand
  | "validate" :: options => Request.empty.readOptions options
  | ["help"] => .ok help
  | ["help", "validate"] => .ok help
  | ["help", "help"] => .ok help
  | "--help" :: _ => .ok help
  | "--version" :: _ => .ok version
  | text :: _ =>
    match text.toList with
    | '-' :: letters =>
      match ofLetters? letters with
      | some invocation => .ok invocation
      | none => .error (.unknownArgument text)
    | _ => .error (.unknownArgument text)

end Invocation

end MigrationAudit
