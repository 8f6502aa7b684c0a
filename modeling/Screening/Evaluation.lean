/-
# Screening.Evaluation -- evaluating a file of answers

The settings are read only if they have to say where the questionnaire is, then the
questionnaire is loaded, and then the answers.  Answers are taken in the order of
their question ids; those that no question asks for are left out and listed.

* `replay_skipped`: what is left out are the ids that the catalog does not have.
-/
import Screening.Catalog.Load
import Screening.CommandLine
import Screening.Failure
import Screening.Report

namespace Screening

open Json

set_option autoImplicit false

namespace Evaluation

/-- Takes an answer of a file, or leaves it out. -/
def takeEntry (outcome : Run × List String) (entry : String × Submission) : Run × List String :=
  let (run, skipped) := outcome
  let (questionId, submission) := entry
  match run.catalog.question? questionId with
  | none => (run, skipped ++ [questionId])
  | some _ => (run.after (.answered questionId submission.value submission.subAnswers), skipped)

/-- The run that the answers of a file lead to, and the ids of those left out. -/
def replay (catalog : Catalog) (entries : Keyed Submission) : Run × List String :=
  entries.entries.foldl takeEntry (.start catalog, [])

/-- The answers in the text of a file. -/
def readAnswers (text : String) : Except Fault (Keyed Submission) :=
  decodeText (Codec.keyed ⟨Submission.codec.encode, Submission.decodeEntry⟩).decode text

/-- What is printed for a catalog and the text of an answers file. -/
def print (options : CommandLine.EvaluateOptions) (catalog : Catalog) (answers : String) :
    Except Failure String := do
  let entries ← (readAnswers answers).mapError .answers
  let (run, skipped) := replay catalog entries
  let report := Report.ofRun run skipped options.showQuestions
  return if options.json then report.toJson.pretty 0 ++ "\n" else report.render

/-- Where the questionnaire is: as the options say, or else the settings. -/
def dataPath (options : CommandLine.EvaluateOptions) (lookup? : String → Option String) :
    Except Failure String :=
  match options.data with
  | some path => .ok path
  | none => ((Settings.load lookup?).map (·.dataPath)).mapError .settings

/-- Evaluates a file of answers with files that `readFile` reads. -/
def evaluate {m : Type → Type} [Monad m] (options : CommandLine.EvaluateOptions)
    (lookup? : String → Option String) (readFile : String → m (Except String String)) :
    m (Except Failure String) := do
  match dataPath options lookup? with
  | .error failure => return .error failure
  | .ok path =>
      match ((← readFile path).mapError Catalog.LoadError.unreadable).bind Catalog.load with
      | .error error => return .error (.catalog error)
      | .ok catalog =>
          match ← readFile options.answers with
          | .error cause => return .error (.io cause)
          | .ok answers => return print options catalog answers

theorem catalog_takeEntry (outcome : Run × List String) (entry : String × Submission) :
    (takeEntry outcome entry).1.catalog = outcome.1.catalog := by
  simp only [takeEntry]
  split <;> rfl

/-- What is left out are the ids that the catalog does not have. -/
theorem replay_skipped (catalog : Catalog) (entries : Keyed Submission) :
    (replay catalog entries).2 = entries.keys.filter fun id => (catalog.question? id).isNone := by
  suffices ∀ (list : List (String × Submission)) (outcome : Run × List String),
      outcome.1.catalog = catalog →
      (list.foldl takeEntry outcome).2 =
        outcome.2 ++ (list.map (·.1)).filter fun id => (catalog.question? id).isNone by
    simpa [replay, Keyed.keys] using this entries.entries (.start catalog, []) rfl
  intro list
  induction list with
  | nil => intro outcome _; simp
  | cons entry list ih =>
      intro outcome same
      rw [List.foldl_cons, ih _ ((catalog_takeEntry outcome entry).trans same)]
      subst same
      simp only [takeEntry, List.map_cons, List.filter_cons]
      split <;> simp_all

end Evaluation

end Screening
