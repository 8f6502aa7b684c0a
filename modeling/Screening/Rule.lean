/-
# Screening.Rule -- elimination rules

A rule belongs to a question: when its condition holds of the answer, its action
removes scholarships from those still eligible.  The lists of scholarships are
optional, and a list that is missing is not a list that is empty.
-/
import Screening.Condition

namespace Screening

set_option autoImplicit false

/-- What a rule does when it fires; an action of any other name does nothing. -/
inductive RuleAction where
  | eliminate
  | keepOnly
  | eliminateAll
  | addPreference
  | unknown
  deriving DecidableEq, Repr, Inhabited

namespace RuleAction

def label : RuleAction → String
  | .eliminate => "eliminate"
  | .keepOnly => "keep_only"
  | .eliminateAll => "eliminate_all"
  | .addPreference => "add_preference"
  | .unknown => "unknown"

/-- The action with this name. -/
def ofLabel (name : String) : RuleAction :=
  if name = "eliminate" then .eliminate
  else if name = "keep_only" then .keepOnly
  else if name = "eliminate_all" then .eliminateAll
  else if name = "add_preference" then .addPreference
  else .unknown

@[simp] theorem ofLabel_label (action : RuleAction) : ofLabel action.label = action := by
  cases action <;> decide

end RuleAction

structure Rule where
  ruleId : String
  condition : String
  action : RuleAction
  eliminationMessage : String := ""
  eliminatedScholarships : Option (List String) := none
  keptScholarships : Option (List String) := none
  preferredScholarships : Option (List String) := none
  deriving DecidableEq, Repr, Inhabited

namespace Rule

/-- Every scholarship that the rule names, whatever its action. -/
def references (rule : Rule) : List String :=
  rule.eliminatedScholarships.getD [] ++ rule.keptScholarships.getD [] ++
    rule.preferredScholarships.getD []

end Rule

/-- A rule together with the condition that its text says. -/
structure ReadRule where
  rule : Rule
  condition : Condition
  deriving Repr, Inhabited

namespace ReadRule

def ofRule (rule : Rule) : ReadRule := ⟨rule, Condition.parse rule.condition⟩

def fires (rule : ReadRule) (value : AnswerValue) : Bool := rule.condition.holds value

end ReadRule

end Screening
