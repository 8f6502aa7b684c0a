/-
# Screening.Failure -- why the program gives up

A failure is told with the text of what caused it, and that cause may have one of its
own.  `sources` lists the texts of the causes from the nearest on.
-/
import Screening.Catalog.Load
import Screening.LogFilter
import Screening.Settings

namespace Screening

set_option autoImplicit false

inductive Failure where
  | settings (error : SettingsError)
  | logging (error : LoggingError)
  | io (cause : String)
  /-- The service failed over something that was told to it. -/
  | server (cause : String)
  | catalog (error : Catalog.LoadError)
  | answers (fault : Json.Fault)
  deriving DecidableEq, Repr

namespace Failure

/-- What is told before the text of the cause. -/
def heading : Failure → String
  | .settings _ => "configuration error: "
  | .logging _ => "telemetry error: "
  | .io _ => "io error: "
  | .server _ => "server error: "
  | .catalog _ => "catalog error: "
  | .answers _ => "invalid answers: "

/-- The text of the nearest cause. -/
def cause : Failure → String
  | .settings error => error.message
  | .logging error => error.message
  | .io cause => cause
  | .server cause => cause
  | .catalog error => error.message
  | .answers fault => fault.message

def message (failure : Failure) : String := failure.heading ++ failure.cause

/-- The causes behind the nearest one. -/
def deeperCauses : Failure → List String
  | .logging (.alreadyInstalled cause) => [cause]
  | .logging (.filter _) => ["invalid filter directive"]
  | .server cause => [cause]
  | .catalog (.unreadable cause) => [cause]
  | .catalog (.invalid fault) => [fault.message]
  | .settings .invalidHost => ["invalid IP address syntax"]
  | _ => []

/-- The texts of the causes, from the nearest on. -/
def sources (failure : Failure) : List String := failure.cause :: failure.deeperCauses

/-- What is told up to the text of a fault in a file, whose wording is not fixed. -/
def fixedMessage (failure : Failure) : String :=
  match failure with
  | .answers _ => failure.heading
  | .catalog (.invalid fault) => failure.heading ++ (Catalog.LoadError.invalid fault).heading
  | _ => failure.message

end Failure

end Screening
