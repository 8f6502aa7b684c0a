/-
# Screening.CommandLine -- what the words of a command line ask for

The first word names a command; without one the service is started.  After it come
options, each with its value in the next word or after an equals sign, and switches
without a value.  An option whose value is in the next word is looked at only when
the next option, or the end, is reached, so an unknown word after it is noticed
first.  After `--` no word is an option, and neither command takes any other.
-/
import Screening.Keyed
import Screening.Text.Numeral

namespace Screening.CommandLine

open Text

set_option autoImplicit false

/-- Why a command line asks for nothing that can be done. -/
inductive Stop where
  | help
  | version
  | unknownCommand
  | unknownArgument
  | missingArgument
  /-- An option has no value, or a path is empty. -/
  | missingValue
  | invalidValue
  | repeated
  | surplusValue
  deriving DecidableEq, Repr

namespace Stop

/-- Asking for help or the version is no failure. -/
def exitCode : Stop → Nat
  | .help | .version => 0
  | _ => 2

def message : Stop → String
  | .help => "usage: screening [serve | evaluate | help] [options]"
  | .version => "screening"
  | .unknownCommand => "there is no such command"
  | .unknownArgument => "there is no such argument"
  | .missingArgument => "an argument is missing"
  | .missingValue => "an option has no value"
  | .invalidValue => "the value of an option is invalid"
  | .repeated => "an option is given twice"
  | .surplusValue => "a switch takes no value"

end Stop

/-- What an option takes. -/
inductive Takes where
  | nothing
  | text
  | path
  | port
  deriving DecidableEq, Repr

/-- An option or a switch of a command. -/
structure Flag where
  name : String
  takes : Takes
  deriving DecidableEq, Repr

/-- What has been given so far: settled options by name, and one that awaits its value
or has it but is not settled yet. -/
structure Given where
  settled : Keyed String := .empty
  pending : Option (Flag × Option String) := none

/-- The whole number that a word stands for, with perhaps a sign before its digits. -/
def signed? (word : String) : Option Int :=
  let (negative, digits) :=
    match word.toList with
    | '-' :: digits => (true, digits)
    | '+' :: digits => (false, digits)
    | digits => (false, digits)
  if digits.isEmpty || !digits.all Char.isDigit then none
  else some (if negative then -(value digits : Int) else value digits)

/-- A port, as the value of an option. -/
def port? (word : String) : Option UInt16 :=
  match signed? word with
  | none => none
  | some n => if 0 ≤ n ∧ n < UInt16.size then some (UInt16.ofNat n.toNat) else none

/-- Whether an option takes this value. -/
def check (flag : Flag) (value : String) : Except Stop Unit :=
  match flag.takes with
  | .nothing | .text => .ok ()
  | .path => if value.isEmpty then .error .missingValue else .ok ()
  | .port => if (port? value).isNone then .error .invalidValue else .ok ()

namespace Given

/-- Settles an option with its value.  That it was given before is looked at first. -/
def take (given : Given) (flag : Flag) (value : String) : Except Stop Given := do
  if given.settled.contains flag.name then throw .repeated
  check flag value
  return { given with settled := given.settled.insert flag.name value }

/-- Settles the pending option. -/
def settle (given : Given) : Except Stop Given :=
  match given.pending with
  | none => .ok given
  | some (_, none) => .error .missingValue
  | some (flag, some value) => { given with pending := none }.take flag value

end Given

/-- The word after which no word is an option. -/
def dashes : String := "--"

/-- The name of an option and the value after an equals sign. -/
def splitOption (word : List Char) : String × Option String :=
  let name := String.ofList (word.takeWhile (· ≠ '='))
  match word.dropWhile (· ≠ '=') with
  | [] => (name, none)
  | _ :: value => (name, some (String.ofList value))

/-- Takes an option of a command. -/
def readOption (flags : List Flag) (given : Given) (name : String) (value : Option String) :
    Except Stop Given :=
  if name = "help" then
    if value.isSome then .error .surplusValue else given.settle.bind fun _ => .error .help
  else
    match flags.find? (·.name = name) with
    | none => .error .unknownArgument
    | some flag =>
        match flag.takes, value with
        | .nothing, some _ => .error .surplusValue
        | .nothing, none => given.settle.bind fun given => given.take flag ""
        | _, some value => given.settle.bind fun given => given.take flag value
        | _, none => given.settle.map fun given => { given with pending := some (flag, none) }

/-- Takes the words after a command. -/
def read (flags : List Flag) (given : Given) : List String → Except Stop Given
  | [] => given.settle
  | word :: words =>
      if word = dashes then
        if words.isEmpty then given.settle else .error .unknownArgument
      else
        match word.toList with
        | '-' :: '-' :: option =>
            let (name, value) := splitOption option
            (readOption flags given name value).bind fun given => read flags given words
        | '-' :: letter :: _ =>
            if letter = 'h' then given.settle.bind fun _ => .error .help
            else .error .unknownArgument
        | _ =>
            match given.pending with
            | some (flag, none) =>
                read flags { given with pending := some (flag, some word) } words
            | _ => .error .unknownArgument

/-- What a service is started with instead of its settings. -/
structure ServeOptions where
  host : Option String := none
  port : Option UInt16 := none
  data : Option String := none
  deriving DecidableEq, Repr

structure EvaluateOptions where
  answers : String
  data : Option String := none
  showQuestions : Bool := false
  json : Bool := false
  deriving DecidableEq, Repr

inductive Command where
  | serve (options : ServeOptions)
  | evaluate (options : EvaluateOptions)
  deriving DecidableEq, Repr

def serveFlags : List Flag := [⟨"host", .text⟩, ⟨"port", .port⟩, ⟨"data", .path⟩]

def evaluateFlags : List Flag :=
  [⟨"answers", .path⟩, ⟨"data", .path⟩, ⟨"show-questions", .nothing⟩, ⟨"json", .nothing⟩]

def readServe (words : List String) : Except Stop ServeOptions := do
  let given ← read serveFlags {} words
  return {
    host := given.settled.get? "host"
    port := (given.settled.get? "port").bind port?
    data := given.settled.get? "data" }

def readEvaluate (words : List String) : Except Stop EvaluateOptions := do
  let given ← read evaluateFlags {} words
  let some answers := given.settled.get? "answers" | throw .missingArgument
  return {
    answers
    data := given.settled.get? "data"
    showQuestions := given.settled.contains "show-questions"
    json := given.settled.contains "json" }

def commandNames : List String := ["serve", "evaluate", "help"]

/-- Help on a command; a command has none below it. -/
def helpOn : List String → Stop
  | [] => .help
  | [name] => if commandNames.contains name then .help else .unknownCommand
  | _ => .unknownCommand

/-- The command that the words after the name of the program ask for, if any. -/
def parse : List String → Except Stop (Option Command)
  | [] => .ok none
  | "serve" :: words => (readServe words).map fun options => some (.serve options)
  | "evaluate" :: words => (readEvaluate words).map fun options => some (.evaluate options)
  | "help" :: words => .error (helpOn words)
  | "--" :: words =>
      match words with
      | [] => .ok none
      | word :: _ =>
          .error (if commandNames.contains word then .unknownArgument else .unknownCommand)
  | word :: _ =>
      match word.toList with
      | '-' :: '-' :: option =>
          let (name, value) := splitOption option
          if name = "help" ∨ name = "version" then
            .error <|
              if value.isSome then .surplusValue else if name = "help" then .help else .version
          else .error .unknownArgument
      | '-' :: letter :: _ =>
          .error <|
            if letter = 'h' then .help else if letter = 'V' then .version else .unknownArgument
      | _ => .error .unknownCommand

end Screening.CommandLine
