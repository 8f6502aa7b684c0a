/-
# Screening.Catalog.Load -- loading a catalog from the text of a document

Loading fails if the document cannot be read at all, if its text is not a
questionnaire, or if it declares an id twice.
-/
import Screening.Catalog.Layout
import Screening.Json.Reading
import Screening.Questionnaire.Codec

namespace Screening

set_option autoImplicit false

namespace Declaration

/-- That the id was declared before. -/
def repeatedMessage : Declaration → String
  | .scholarship id => "scholarship " ++ id ++ " is declared more than once"
  | .tier id => "tier " ++ id ++ " is declared more than once"
  | .question id => "question " ++ id ++ " is declared more than once"

end Declaration

namespace Catalog

inductive LoadError where
  | unreadable (cause : String)
  | invalid (fault : Json.Fault)
  | repeated (declaration : Declaration)
  deriving DecidableEq, Repr

namespace LoadError

/-- What the message says before the text of the cause. -/
def heading : LoadError → String
  | .unreadable _ => "failed to read eligibility data: "
  | .invalid _ => "invalid eligibility data: "
  | .repeated _ => ""

def message (error : LoadError) : String :=
  error.heading ++
    match error with
    | .unreadable cause => cause
    | .invalid fault => fault.message
    | .repeated declaration => declaration.repeatedMessage

end LoadError

def load (text : String) : Except LoadError Catalog := do
  let document ← (Json.decodeText Questionnaire.codec.decode text).mapError .invalid
  let layout ← (Layout.ofQuestionnaire document).mapError .repeated
  return layout.catalog

end Catalog

end Screening
