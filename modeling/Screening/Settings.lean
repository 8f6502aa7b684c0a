/-
# Screening.Settings -- settings from the environment

Every setting has a default and may be set by a variable of the environment.  The
port is looked at first, then the flag for log targets, then the path of the
questionnaire.  Whether the host is an address is asked only when it is listened at.
-/
import Screening.Settings.Address
import Screening.Text.Blank

namespace Screening

open Text

set_option autoImplicit false

inductive Environment where
  | development
  | test
  | production
  deriving DecidableEq, Repr

structure Settings where
  environment : Environment
  host : String
  port : UInt16
  logLevel : String
  showTargets : Bool
  dataPath : String
  deriving DecidableEq, Repr

inductive SettingsError where
  | invalidPort
  | invalidHost
  | invalidFlag (name value : String)
  | emptyDataPath
  deriving DecidableEq, Repr

namespace SettingsError

def message : SettingsError → String
  | .invalidPort => "APP_PORT must be a valid u16"
  | .invalidHost => "APP_HOST must parse to an IPv4 or IPv6 address"
  | .invalidFlag name value => name ++ " must be true or false, found '" ++ value ++ "'"
  | .emptyDataPath => "ELIGIBILITY_DATA_PATH must not be empty"

end SettingsError

/-- A word without the blanks around it; letter case counts only beyond ASCII. -/
def plainWord (text : String) : String := String.ofList ((trim text.toList).map Char.toLower)

namespace Environment

def name : Environment → String
  | .development => "development"
  | .test => "test"
  | .production => "production"

/-- The environment that a word means; any other word means development. -/
def ofWord (text : String) : Environment :=
  match plainWord text with
  | "prod" | "production" => .production
  | "test" | "ci" => .test
  | _ => .development

end Environment

namespace Settings

def flag? (text : String) : Option Bool :=
  match plainWord text with
  | "1" | "true" | "yes" | "on" => some true
  | "0" | "false" | "no" | "off" => some false
  | _ => none

/-- A port: digits with perhaps a plus before them. -/
def port? (text : String) : Option UInt16 :=
  let digits :=
    match text.toList with
    | '+' :: digits => digits
    | digits => digits
  if digits.isEmpty || !digits.all Char.isDigit then none
  else if value digits < UInt16.size then some (UInt16.ofNat (value digits))
  else none

def flagName : String := "APP_LOG_TARGETS"

/-- The settings in an environment. -/
def load (lookup? : String → Option String) : Except SettingsError Settings := do
  let some port := port? ((lookup? "APP_PORT").getD "3000") | throw .invalidPort
  let showTargets ←
    match lookup? flagName with
    | none => pure false
    | some text =>
        match flag? text with
        | none => throw (.invalidFlag flagName text)
        | some shown => pure shown
  let dataPath := (lookup? "ELIGIBILITY_DATA_PATH").getD "data/eligibility.json"
  if dataPath.isEmpty then throw .emptyDataPath
  return {
    environment := .ofWord ((lookup? "APP_ENV").getD "development")
    host := (lookup? "APP_HOST").getD "127.0.0.1"
    port
    logLevel := (lookup? "APP_LOG_LEVEL").getD "info"
    showTargets
    dataPath }

/-- The address and port to listen at. -/
def listenAt (settings : Settings) : Except SettingsError String :=
  if String.ofList (settings.host.toList.map Char.toLower) = "localhost" then
    .ok ((Address.four 127 0 0 1).withPort settings.port)
  else
    match Address.ofText? settings.host with
    | none => .error .invalidHost
    | some address => .ok (address.withPort settings.port)

end Settings

end Screening
