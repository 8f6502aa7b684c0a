/-
# Screening.Proofs.Agreement -- a file of answers and a session agree

Answers reach a questionnaire in two ways.  A file of them is replayed in the order of the
question ids, and ends in a report; or they are handed in for a session one by one, in
whatever order, and each is answered with a view.  An answer to a question that nobody
asks is left out of the one and refused by the other.  Apart from that the two come to the
same: the state is that of the answers, and what the report and the view show is read off
it alike.

* `Evaluation.replay_run`: a replay ends in the state of the answers it keeps;
* `Evaluation.sheetOf_perm`: in whatever order these are given, they make one sheet;
* `Host.Holds.answerAll`: a session takes them all, and so comes to that state;
* `Evaluation.readAnswers_congr`: it does not matter whether an entry of the file is a
  value or an object that holds it.
-/
import Mathlib.Data.List.Forall2
import Mathlib.Data.List.Perm.Basic
import Screening.Evaluation
import Screening.Proofs.Handoff
import Screening.Proofs.History

namespace Screening

open Json

set_option autoImplicit false

namespace Keyed

variable {α : Type}

theorem keys_ascending (map : Keyed α) : map.keys.Pairwise (· < ·) :=
  List.pairwise_map.2 map.ascending

theorem nodup_keys (map : Keyed α) : map.keys.Nodup := by
  refine map.keys_ascending.imp ?_
  rintro first second before rfl
  exact String.lt_irrefl first before

theorem eq_of_key_eq {map : Keyed α} {first second : String × α} (left : first ∈ map.entries)
    (right : second ∈ map.entries) (same : first.1 = second.1) : first = second :=
  List.inj_on_of_nodup_map map.nodup_keys left right same

end Keyed

/-- A run goes through the states that its answers lead to. -/
theorem Run.foldl_after_ofAnswers (catalog : Catalog) (sheet : AnswerSheet) (events : List Event) :
    events.foldl after ⟨catalog, .ofAnswers catalog sheet⟩ =
      ⟨catalog, .ofAnswers catalog (events.foldl Event.applyTo sheet)⟩ := by
  induction events generalizing sheet with
  | nil => rfl
  | cons event events ih => exact ih (event.applyTo sheet)

/-! ## Replaying a file -/

namespace Submission

/-- What is recorded when this is handed in for a question. -/
def recordFor (submission : Submission) (questionId : String) : Answer where
  questionId
  value := submission.value
  subAnswers := submission.subAnswers

end Submission

namespace Evaluation

/-- What happens when an entry is taken. -/
def eventOf (entry : String × Submission) : Event :=
  .answered entry.1 entry.2.value entry.2.subAnswers

/-- The entries on questions that the catalog has, in the order of the file. -/
def known (catalog : Catalog) (entries : Keyed Submission) : List (String × Submission) :=
  entries.entries.filter fun entry => (catalog.question? entry.1).isSome

/-- The sheet that entries make when they are taken one after the other. -/
def sheetOf (entries : List (String × Submission)) : AnswerSheet :=
  (entries.map eventOf).foldl Event.applyTo .empty

variable {catalog : Catalog} {entries : Keyed Submission}

/-- A replay takes the entries on known questions, and no other. -/
theorem foldl_takeEntry_fst (list : List (String × Submission)) (outcome : Run × List String) :
    (list.foldl takeEntry outcome).1 =
      ((list.filter fun entry => (outcome.1.catalog.question? entry.1).isSome).map eventOf).foldl
        Run.after outcome.1 := by
  induction list generalizing outcome with
  | nil => rfl
  | cons entry list ih =>
      rw [List.foldl_cons, ih, catalog_takeEntry, List.filter_cons]
      cases asked : outcome.1.catalog.question? entry.1 with
      | none => simp [takeEntry, asked]
      | some question => simp [takeEntry, asked, eventOf]

theorem replay_run (catalog : Catalog) (entries : Keyed Submission) :
    (replay catalog entries).1 =
      ⟨catalog, .ofAnswers catalog (sheetOf (known catalog entries))⟩ := by
  rw [replay, foldl_takeEntry_fst]
  exact Run.foldl_after_ofAnswers catalog .empty _

/-- Entries on different questions make one sheet in whatever order they are taken. -/
theorem sheetOf_perm {order : List (String × Submission)}
    (perm : order.Perm (known catalog entries)) : sheetOf order = sheetOf (known catalog entries) := by
  rw [sheetOf, sheetOf, List.foldl_map, List.foldl_map]
  refine perm.foldl_eq' (fun first first_in second second_in sheet => ?_) _
  by_cases same : first.1 = second.1
  · have left := (List.mem_filter.1 (perm.mem_iff.1 first_in)).1
    have right := (List.mem_filter.1 (perm.mem_iff.1 second_in)).1
    rw [Keyed.eq_of_key_eq left right same]
  · exact Event.applyTo_comm rfl rfl same sheet

/-- A replay records the entries on known questions as they are. -/
theorem get?_sheetOf_known (catalog : Catalog) (entries : Keyed Submission) (id : String) :
    (sheetOf (known catalog entries)).get? id =
      if (catalog.question? id).isSome then (entries.get? id).map (·.recordFor id) else none := by
  have sheet : sheetOf (known catalog entries) =
      .ofList ((known catalog entries).map fun entry => (entry.1, entry.2.recordFor entry.1)) := by
    rw [sheetOf, Keyed.ofList, List.foldl_map, List.foldl_map]
    rfl
  have ascending : ((known catalog entries).map fun entry =>
      (entry.1, entry.2.recordFor entry.1)).Pairwise fun first second => first.1 < second.1 :=
    List.pairwise_map.2 (entries.ascending.filter _)
  rw [sheet, Keyed.get?_ofList, Keyed.find_reverse ascending, known, Keyed.get?]
  induction entries.entries with
  | nil => simp [Keyed.find]
  | cons entry rest ih =>
      rw [List.filter_cons]
      by_cases here : entry.1 = id
      · subst here
        cases asked : catalog.question? entry.1 <;> simp_all [Keyed.find]
      · cases asked : catalog.question? entry.1 <;> simp_all [Keyed.find]

end Evaluation

/-! ## Handing answers in for a session -/

namespace Host

open Evaluation

/-- Hands submissions in for a session one after the other: the replies, and the host
afterwards. -/
def answerAll (id : String) : Host → List (String × Submission) →
    List (Except HostError SessionView) × Host
  | host, [] => ([], host)
  | host, (questionId, submission) :: rest =>
      let (reply, host) := host.answer id questionId submission
      let (replies, host) := answerAll id host rest
      (reply :: replies, host)

/-- The sessions are within reach, and this one is live with this run. -/
structure Holds (host : Host) (id : String) (run : Run) : Prop where
  reached : host.roster.outage = none
  found : host.roster.live.get? id = some run

/-- A session that has just been started is live and has no answers. -/
theorem holds_of_start {host started : Host} {view : SessionView}
    (opened : host.start = (.ok view, started)) :
    view = .ofRun view.sessionId (.start host.catalog) ∧
      started.Holds view.sessionId (.start host.catalog) ∧ started.catalog = host.catalog := by
  simp only [start, openSession, allocate] at opened
  cases outage : host.roster.outage with
  | some reason =>
      simp [Roster.insert, Roster.reach, outage, bind, Except.bind] at opened
  | none =>
      rw [Roster.insert_eq outage] at opened
      split at opened
      · cases opened
      · rename_i roster inserted
        split at inserted
        · cases inserted
        · cases inserted
          cases opened
          exact ⟨rfl, ⟨outage, by simp [SessionView.ofRun]⟩, rfl⟩

namespace Holds

variable {host : Host} {id : String} {run : Run} (holds : host.Holds id run)

include holds

theorem snapshot : host.snapshot id = .ok (.ofRun id run) := by
  rw [Host.snapshot, run_eq holds.reached, holds.found]
  rfl

/-- An answer to a known question is taken. -/
theorem answer {entry : String × Submission}
    (asked : (host.catalog.question? entry.1).isSome) :
    (host.answer id entry.1 entry.2).1 = .ok (.ofRun id (run.after (eventOf entry))) ∧
      (host.answer id entry.1 entry.2).2.Holds id (run.after (eventOf entry)) := by
  obtain ⟨question, found⟩ := Option.isSome_iff_exists.1 asked
  have recorded : host.answer id entry.1 entry.2 =
      (.ok (.ofRun id (run.after (eventOf entry))),
        host.withLive (host.roster.live.insert id (run.after (eventOf entry)))) := by
    rw [Host.answer, recordOn_eq, found, record_eq holds.reached, holds.found]
    rfl
  rw [recorded]
  exact ⟨rfl, holds.reached, by simp⟩

/-- A session takes answers to known questions one after the other; the last view given is
of the run that they lead to. -/
theorem answerAll {order : List (String × Submission)}
    (asked : ∀ entry ∈ order, (host.catalog.question? entry.1).isSome) :
    (∀ reply ∈ (host.answerAll id order).1, ∃ view, reply = .ok view) ∧
      (host.answerAll id order).1.getLast?.getD (.ok (.ofRun id run)) =
        .ok (.ofRun id ((order.map eventOf).foldl Run.after run)) ∧
      (host.answerAll id order).2.Holds id ((order.map eventOf).foldl Run.after run) := by
  induction order generalizing host run with
  | nil => exact ⟨by simp [Host.answerAll], rfl, holds⟩
  | cons entry order ih =>
      obtain ⟨reply, held⟩ := holds.answer (asked entry List.mem_cons_self)
      have catalog : (host.answer id entry.1 entry.2).2.catalog = host.catalog :=
        catalog_recordOn host id entry.1 _
      obtain ⟨replies, last, final⟩ := ih held fun other member => by
        rw [catalog]
        exact asked other (List.mem_cons_of_mem entry member)
      refine ⟨?_, ?_, final⟩
      · simp only [Host.answerAll, List.mem_cons, forall_eq_or_imp]
        exact ⟨⟨_, reply⟩, replies⟩
      · rw [Host.answerAll, List.getLast?_cons, Option.getD_some, reply]
        exact last

end Holds

end Host

/-! ## Two spellings of an entry -/

namespace Evaluation

/-- An object that holds a value and nothing else. -/
def wrapped (value : Outline) : Outline := .object [(some "value", value)] .closed

/-- The entries are spelled alike, or one is a value and the other an object that holds it. -/
inductive Respelled : Outline → Outline → Prop where
  | alike (outline : Outline) : Respelled outline outline
  | wrap {outline : Outline} {value : AnswerValue}
      (bare : AnswerValue.ofOutline? outline = some value) : Respelled outline (wrapped outline)
  | unwrap {outline : Outline} {value : AnswerValue}
      (bare : AnswerValue.ofOutline? outline = some value) : Respelled (wrapped outline) outline

/-- The texts are laid out alike but for the spelling of entries. -/
def SameAnswers (text text' : String) : Prop :=
  ∃ members members' ending rest,
    Outline.ofText text = (.object members ending, rest) ∧
      Outline.ofText text' = (.object members' ending, rest) ∧
      List.Forall₂ (fun member member' => member.1 = member'.1 ∧ Respelled member.2 member'.2)
        members members'

theorem readFlaw?_wrapped (outline : Outline) : (wrapped outline).readFlaw? = outline.readFlaw? := by
  simp [wrapped, Outline.readFlaw?, Outline.membersReadFlaw?, ObjectEnd.readFlaw?]

/-- A value is taken as it is and out of an object. -/
theorem decodeEntry_wrapped (origin : Origin) {outline : Outline} {value : AnswerValue}
    (bare : AnswerValue.ofOutline? outline = some value) :
    Submission.decodeEntry origin (wrapped outline) = Submission.decodeEntry origin outline := by
  rw [Submission.decodeEntry, anyOfKinds, anyOfKinds, readFlaw?_wrapped]
  cases flaw : outline.readFlaw? with
  | some flaw => rfl
  | none =>
      have within : AnswerValue.codec.decode .setAside outline = .ok value := by
        simp only [AnswerValue.codec, anyOfKinds, flaw, bare]
        rfl
      have held : Submission.ofOutline? (wrapped outline) = some { value } := by
        simp [Submission.ofOutline?, wrapped, AnswerValue.ofOutline?, Submission.record,
          Record.decode, Fields.putAll, Fields.put, Fields.blank, Field.isNamed, Field.required,
          Field.optional, within, Fields.gather, ObjectEnd.readFlaw?, noFlaw, bind, Except.bind,
          pure, Except.pure, Except.map, Except.toOption]
      have alone : Submission.ofOutline? outline = some { value } := by
        rw [Submission.ofOutline?, bare]
      rw [held, alone]

theorem Respelled.decodeEntry_eq {outline outline' : Outline} (respelled : Respelled outline outline')
    (origin : Origin) :
    Submission.decodeEntry origin outline = Submission.decodeEntry origin outline' := by
  cases respelled with
  | alike => rfl
  | wrap bare => exact (decodeEntry_wrapped origin bare).symm
  | unwrap bare => exact decodeEntry_wrapped origin bare

/-- A file is read alike however its entries are spelled. -/
theorem readAnswers_congr {text text' : String} (same : SameAnswers text text') :
    readAnswers text = readAnswers text' := by
  obtain ⟨members, members', ending, rest, laid, laid', alike⟩ := same
  have entries : Codec.decodeMembers Submission.decodeEntry .text members =
      Codec.decodeMembers Submission.decodeEntry .text members' := by
    clear laid laid'
    induction alike with
    | nil => rfl
    | @cons member member' _ _ respelled _ ih =>
        obtain ⟨name, outline⟩ := member
        obtain ⟨name', outline'⟩ := member'
        obtain ⟨named, spelled⟩ := respelled
        dsimp only at named
        subst named
        cases name with
        | none => rfl
        | some name => simp only [Codec.decodeMembers, spelled.decodeEntry_eq, ih]
  simp only [readAnswers, decodeText, laid, laid', Codec.keyed, entries]

end Evaluation

/-! ## The report and the view -/

/-- A report and a view show the same scholarships, and how far the run has come. -/
structure Report.Agrees (report : Report) (view : SessionView) : Prop where
  eligible : report.eligible = view.eligible
  progress : report.progress = view.progress
  canComplete : report.canComplete = view.canComplete

theorem Report.agrees_of_run (run : Run) (id : String) (skipped : List String)
    (showQuestions : Bool) : (ofRun run skipped showQuestions).Agrees (.ofRun id run) :=
  ⟨rfl, rfl, rfl⟩

namespace Evaluation

theorem replay_skipped_ascending (catalog : Catalog) (entries : Keyed Submission) :
    (replay catalog entries).2.Pairwise (· < ·) := by
  rw [replay_skipped]
  exact entries.keys_ascending.filter _

/-- A session comes to the run of the replay when the entries that the replay takes are handed
in for it, in whatever order. -/
theorem answerAll_eq_replay {host started : Host} {view : SessionView}
    (opened : host.start = (.ok view, started)) {entries : Keyed Submission}
    {order : List (String × Submission)} (perm : order.Perm (known host.catalog entries)) :
    (∀ reply ∈ (started.answerAll view.sessionId order).1, ∃ view, reply = .ok view) ∧
      (started.answerAll view.sessionId order).1.getLast?.getD (.ok view) =
        .ok (.ofRun view.sessionId (replay host.catalog entries).1) ∧
      (started.answerAll view.sessionId order).2.Holds view.sessionId
        (replay host.catalog entries).1 := by
  obtain ⟨shown, holds, asks⟩ := Host.holds_of_start opened
  have asked : ∀ entry ∈ order, (started.catalog.question? entry.1).isSome := by
    intro entry member
    rw [asks]
    exact (List.mem_filter.1 (perm.mem_iff.1 member)).2
  have arrives : (order.map eventOf).foldl Run.after (.start host.catalog) =
      (replay host.catalog entries).1 := by
    rw [replay_run, ← sheetOf_perm perm]
    exact Run.foldl_after_ofAnswers host.catalog .empty _
  rw [← arrives]
  have answered := holds.answerAll asked
  rwa [← shown] at answered

/-- A replay of a file ends in the state of the answers to known questions and leaves the
other ids out, in ascending order.  A session that is given the same answers one by one, in
whatever order, takes them all and comes to the same state, and its view shows what the report
shows.  How the entries of the file are spelled does not matter. -/
theorem replay_agrees_with_session :
    (∀ (catalog : Catalog) (entries : Keyed Submission),
      (replay catalog entries).2 =
          (entries.keys.filter fun id => (catalog.question? id).isNone) ∧
        (replay catalog entries).2.Pairwise (· < ·) ∧
        ∃ sheet : AnswerSheet,
          (∀ id, sheet.get? id =
            if (catalog.question? id).isSome then
              (entries.get? id).map fun entry =>
                { questionId := id, value := entry.value, subAnswers := entry.subAnswers }
            else none) ∧
          (replay catalog entries).1 = ⟨catalog, .ofAnswers catalog sheet⟩) ∧
      (∀ (host started : Host) (view : SessionView), host.start = (.ok view, started) →
        ∀ (entries : Keyed Submission) (order : List (String × Submission)),
          order.Perm (known host.catalog entries) →
          (∀ reply ∈ (started.answerAll view.sessionId order).1, ∃ view, reply = .ok view) ∧
            ∃ final,
              (started.answerAll view.sessionId order).1.getLast?.getD (.ok view) = .ok final ∧
              (started.answerAll view.sessionId order).2.snapshot view.sessionId = .ok final ∧
              final.state = (replay host.catalog entries).1.state ∧
              ∀ skipped showQuestions,
                (Report.ofRun (replay host.catalog entries).1 skipped showQuestions).Agrees
                  final) ∧
      ∀ text text', SameAnswers text text' → readAnswers text = readAnswers text' := by
  refine ⟨?replayed, ?answered, fun _ _ => readAnswers_congr⟩
  case replayed =>
    intro catalog entries
    exact ⟨replay_skipped catalog entries, replay_skipped_ascending catalog entries,
      _, get?_sheetOf_known catalog entries, replay_run catalog entries⟩
  case answered =>
    intro host started view opened entries order perm
    obtain ⟨replies, last, holds⟩ := answerAll_eq_replay opened perm
    exact ⟨replies, _, last, holds.snapshot, rfl, fun skipped showQuestions =>
      Report.agrees_of_run _ _ skipped showQuestions⟩

end Evaluation

/-! ## One file and one session -/

namespace Sample

/-- Answers to both questions, and one to a question that nobody asks. -/
def entries : Keyed Submission := .ofList [
  ("enrolled", { value := .single "no" }),
  ("hobby", { value := .single "chess" }),
  ("interests", { value := .multiple ["music"] })]

/-- The answers that a session takes, the last of them first. -/
def submitted : List (String × Submission) := [
  ("interests", { value := .multiple ["music"] }),
  ("enrolled", { value := .single "no" })]

def host : Host where
  catalog

/-- The host with its first session. -/
def opened : Host where
  catalog
  roster := { live := Keyed.empty.insert "session-000001" (.start catalog) }
  next := 2

theorem start_host :
    host.start = (.ok (.ofRun "session-000001" (.start catalog)), opened) := by
  have allocated : host.allocate = ("session-000001", { host with next := 2 }) := by
    rw [← numbered_one]
    rfl
  rw [Host.start, allocated]
  exact Host.openSession_eq rfl rfl

theorem known_entries : Evaluation.known catalog entries = submitted.reverse := by
  simp only [Evaluation.known, Catalog.question?, Catalog.questions, catalog, inOrder_tiers]
  decide +kernel

theorem unknown_entries :
    (entries.keys.filter fun id => (catalog.question? id).isNone) = ["hobby"] := by
  simp only [Catalog.question?, Catalog.questions, catalog, inOrder_tiers]
  decide +kernel

def spelledBare : String := "\x7b\"enrolled\":\"no\"\x7d"

def spelledOut : String := "\x7b\"enrolled\":\x7b\"value\":\"no\"\x7d\x7d"

theorem tokens_spelledBare : tokens spelledBare.toList =
    [.openObject, .text "enrolled", .colon, .text "no", .closeObject] := by
  decide +kernel

theorem tokens_spelledOut : tokens spelledOut.toList =
    [.openObject, .text "enrolled", .colon, .openObject, .text "value", .colon, .text "no",
      .closeObject, .closeObject] := by
  decide +kernel

theorem sameAnswers_spelled : Evaluation.SameAnswers spelledBare spelledOut := by
  refine ⟨[(some "enrolled", .text "no")], [(some "enrolled", Evaluation.wrapped (.text "no"))],
    .closed, [], ?_, ?_, .cons ⟨rfl, .wrap rfl⟩ .nil⟩
  · rw [Outline.ofText, tokens_spelledBare]
    rfl
  · rw [Outline.ofText, tokens_spelledOut]
    rfl

end Sample

theorem sample_replay_agrees_with_session :
    Sample.host.start =
        (.ok (.ofRun "session-000001" (.start Sample.catalog)), Sample.opened) ∧
      Sample.submitted.Perm (Evaluation.known Sample.catalog Sample.entries) ∧
      Evaluation.SameAnswers Sample.spelledBare Sample.spelledOut ∧
      (Evaluation.replay Sample.catalog Sample.entries).2 = ["hobby"] ∧
      (∃ final,
        (Sample.opened.answerAll "session-000001" Sample.submitted).2.snapshot "session-000001" =
            .ok final ∧
          final.state = (Evaluation.replay Sample.catalog Sample.entries).1.state ∧
          (Report.ofRun (Evaluation.replay Sample.catalog Sample.entries).1 ["hobby"] true).Agrees
            final) ∧
      Evaluation.readAnswers Sample.spelledBare = Evaluation.readAnswers Sample.spelledOut := by
  have perm : Sample.submitted.Perm (Evaluation.known Sample.catalog Sample.entries) := by
    rw [Sample.known_entries]
    exact (List.reverse_perm _).symm
  obtain ⟨replayed, answered, spelled⟩ := Evaluation.replay_agrees_with_session
  obtain ⟨-, final, -, shown, state, agrees⟩ := answered _ _ _ Sample.start_host _ _ perm
  have skipped := (replayed Sample.catalog Sample.entries).1.trans Sample.unknown_entries
  exact ⟨Sample.start_host, perm, Sample.sameAnswers_spelled, skipped,
    ⟨final, shown, state, agrees _ _⟩, spelled _ _ Sample.sameAnswers_spelled⟩

end Screening
