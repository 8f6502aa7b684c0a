/-
# Screening.Proofs.Loading -- what one pass over a document finds and leaves

Loading meets the declarations of a document one by one: the scholarships of the registry, then
tier by tier its own id and those of its questions.  It keeps three maps, one for each kind of
id, in loops that stand inside one another, and each loop can end the whole.  What they amount to
is a single pass over the list of all declarations.

`Scans` says of the outcome of a loop that it stops at the first declaration that was met before,
and else leaves a state of which something is known.  It composes as the loops do
(`Scans.bind`, `Scans.foldlM`), so each of them is settled by its own step.  What is known of a
draft is `Draft.Holds`: which ids it knows, what stands in its sequence, and that the places it
has noted are those of the sequence.

* `Layout.scans_ofQuestionnaire`: loading is a pass over the declarations, and leaves a layout
  that is `Built` from the document;
* `Layout.exists_built`, `Layout.ofQuestionnaire_eq_error_iff`: when it leaves one, and when not;
* `loading_names_first_repeat`: which documents load, and which id the others are refused for.
-/
import Screening.Catalog.Layout
import Screening.Proofs.Attribution

namespace Screening

set_option autoImplicit false

/-- What a tier declares, in the order in which loading looks at it. -/
def Tier.declarations (tier : Tier) : List Declaration :=
  .tier tier.tierId :: tier.questions.map (.question ·.questionId)

/-! ## A pass over declarations -/

/-- The first declaration in `next` that was met before, `before` having been met at the start. -/
def RepeatsFirst (before next : List Declaration) (repeated : Declaration) : Prop :=
  ∃ front rest, next = front ++ repeated :: rest ∧
    (before ++ front).Nodup ∧ repeated ∈ before ++ front

/-- The outcome of going through declarations when others were met before. -/
def Scans {σ : Type} (before next : List Declaration) (good : σ → Prop) :
    Except Declaration σ → Prop
  | .ok state => (before ++ next).Nodup ∧ good state
  | .error repeated => RepeatsFirst before next repeated

/-- What repeats in some declarations repeats in more of them. -/
theorem RepeatsFirst.append {before next : List Declaration} {repeated : Declaration}
    (repeats : RepeatsFirst before next repeated) (more : List Declaration) :
    RepeatsFirst before (next ++ more) repeated := by
  obtain ⟨front, rest, rfl, fresh, met⟩ := repeats
  exact ⟨front, rest ++ more, by simp, fresh, met⟩

/-- What repeats after some declarations were gone through repeats in all of them. -/
theorem RepeatsFirst.prepend {before next more : List Declaration} {repeated : Declaration}
    (repeats : RepeatsFirst (before ++ next) more repeated) :
    RepeatsFirst before (next ++ more) repeated := by
  obtain ⟨front, rest, rfl, fresh, met⟩ := repeats
  rw [List.append_assoc] at fresh met
  exact ⟨next ++ front, rest, by simp, fresh, met⟩

namespace Scans

variable {σ τ α : Type} {before next more : List Declaration}

theorem imp {good better : σ → Prop} {outcome : Except Declaration σ}
    (scans : Scans before next good outcome) (improve : ∀ state, good state → better state) :
    Scans before next better outcome := by
  cases outcome with
  | ok state => exact ⟨scans.1, improve state scans.2⟩
  | error repeated => exact scans

/-- What goes on from a state goes on after the declarations that led to it. -/
theorem bind {good : σ → Prop} {good' : τ → Prop} {outcome : Except Declaration σ}
    {follow : σ → Except Declaration τ} (scans : Scans before next good outcome)
    (follows : ∀ state, good state → (before ++ next).Nodup →
      Scans (before ++ next) more good' (follow state)) :
    Scans before (next ++ more) good' (outcome >>= follow) := by
  cases outcome with
  | error repeated => exact RepeatsFirst.append scans more
  | ok state =>
      obtain ⟨distinct, good⟩ := scans
      have later := follows state good distinct
      show Scans before (next ++ more) good' (follow state)
      cases followed : follow state with
      | ok state' =>
          rw [followed] at later
          exact ⟨by rw [← List.append_assoc]; exact later.1, later.2⟩
      | error repeated =>
          rw [followed] at later
          exact RepeatsFirst.prepend later

/-- What is computed from a state declares nothing. -/
theorem map {good : σ → Prop} {good' : τ → Prop} {outcome : Except Declaration σ} {make : σ → τ}
    (scans : Scans before next good outcome) (makes : ∀ state, good state → good' (make state)) :
    Scans before next good' (outcome >>= fun state => pure (make state)) := by
  cases outcome with
  | ok state => exact ⟨scans.1, makes state scans.2⟩
  | error repeated => exact scans

/-- The rounds of a loop that are left, by what one round does to what those before it leave. -/
theorem foldlM_after {step : σ → α → Except Declaration σ} (declared : α → List Declaration)
    (inv : List α → σ → Prop)
    (round : ∀ done item state, inv done state → (before ++ done.flatMap declared).Nodup →
      Scans (before ++ done.flatMap declared) (declared item) (inv (done ++ [item]))
        (step state item))
    (items done : List α) (state : σ) (start : inv done state)
    (distinct : (before ++ done.flatMap declared).Nodup) :
    Scans (before ++ done.flatMap declared) (items.flatMap declared) (inv (done ++ items))
      (items.foldlM step state) := by
  induction items generalizing done state with
  | nil =>
      rw [List.append_nil]
      exact ⟨by simpa using distinct, start⟩
  | cons item items ih =>
      rw [List.foldlM_cons, List.flatMap_cons]
      refine (round done item state start distinct).bind fun state' start' distinct' => ?_
      have further := ih (done ++ [item]) state' start'
      simp only [List.flatMap_append, List.flatMap_singleton, List.append_assoc,
        List.singleton_append] at further distinct' ⊢
      exact further distinct'

/-- A loop is a pass over what its items declare. -/
theorem foldlM {step : σ → α → Except Declaration σ} (declared : α → List Declaration)
    (inv : List α → σ → Prop)
    (round : ∀ done item state, inv done state → (before ++ done.flatMap declared).Nodup →
      Scans (before ++ done.flatMap declared) (declared item) (inv (done ++ [item]))
        (step state item))
    (items : List α) (state : σ) (start : inv [] state) (distinct : before.Nodup) :
    Scans before (items.flatMap declared) (inv items) (items.foldlM step state) := by
  simpa using foldlM_after declared inv round items [] state start (by simpa using distinct)

/-- Keeping an id is going through its declaration. -/
theorem declare {kind : String → Declaration} {known : Keyed α}
    (met : ∀ id, known.contains id ↔ kind id ∈ before) (distinct : before.Nodup) (id : String)
    (value : α) :
    Scans before [kind id] (fun kept => kind id ∉ before ∧ kept = known.insert id value)
      (Screening.declare kind known id value) := by
  by_cases again : known.contains id
  · rw [Screening.declare, if_pos again]
    refine ⟨[], [], rfl, ?_, ?_⟩
    · rw [List.append_nil]
      exact distinct
    · rw [List.append_nil]
      exact (met id).1 again
  · have fresh : kind id ∉ before := mt (met id).2 again
    rw [Screening.declare, if_neg again]
    refine ⟨?_, fresh, rfl⟩
    rw [List.nodup_append']
    exact ⟨distinct, List.nodup_singleton _, List.disjoint_singleton.2 fresh⟩

end Scans

/-- What a pass finds repeated is what a look-up for the first repeat finds. -/
theorem RepeatsFirst.firstRepeat?_eq {before next : List Declaration} {repeated : Declaration}
    (repeats : RepeatsFirst before next repeated) : firstRepeat? before next = some repeated := by
  obtain ⟨front, rest, rfl, fresh, met⟩ := repeats
  induction front generalizing before with
  | nil =>
      rw [List.append_nil] at met
      rw [List.nil_append, firstRepeat?, if_pos met]
  | cons first front ih =>
      have new : first ∉ before := by
        intro known
        rw [List.nodup_append'] at fresh
        exact fresh.2.2 known List.mem_cons_self
      rw [List.cons_append, firstRepeat?, if_neg new]
      apply ih
      · simpa using fresh
      · simpa using met

namespace Layout

/-! ## The registry -/

/-- The set of these ids. -/
def Knows (ids : List String) (known : Keyed Unit) : Prop := ∀ id, known.contains id ↔ id ∈ ids

theorem scans_registry (scholarships : List Scholarship) :
    Scans [] (scholarships.map (.scholarship ·.scholarshipId))
      (Knows (scholarships.map (·.scholarshipId))) (registry scholarships) := by
  rw [List.map_eq_flatMap, registry]
  refine Scans.foldlM _ (fun (done : List Scholarship) => Knows (done.map (·.scholarshipId)))
    ?round scholarships _ ?start List.nodup_nil
  case round =>
    intro done entry known holds distinct
    refine (Scans.declare (fun id => ?_) distinct entry.scholarshipId ()).imp ?_
    · rw [holds, List.mem_map]
      simp [eq_comm]
    · rintro _ ⟨-, rfl⟩ id
      rw [Keyed.contains_insert, holds, List.map_append, List.mem_append, List.map_singleton,
        List.mem_singleton, or_comm, eq_comm]
  case start => simp [Knows, Keyed.contains]

/-! ## Drafts -/

/-- The tiers laid one after the other from a place on. -/
def stretches : Nat → List Tier → List LaidTier
  | _, [] => []
  | start, tier :: tiers =>
      .ofTier start tier (start + tier.questions.length) ::
        stretches (start + tier.questions.length) tiers

theorem stretches_append (start : Nat) (tiers : List Tier) (tier : Tier) :
    stretches start (tiers ++ [tier]) =
      stretches start tiers ++
        [.ofTier (start + (tiers.flatMap (·.questions)).length) tier
          (start + (tiers.flatMap (·.questions)).length + tier.questions.length)] := by
  induction tiers generalizing start with
  | nil => simp [stretches]
  | cons first tiers ih => simp [stretches, ih, Nat.add_assoc]

namespace Draft

/-- What a draft holds once some declarations were met, when these tiers and these questions
were laid. -/
structure Holds (registry : Keyed Unit) (before : List Declaration) (tiers : List LaidTier)
    (laid : List (String × Question)) (draft : Draft) : Prop where
  tierIds : ∀ id, draft.tierIds.contains id ↔ Declaration.tier id ∈ before
  asked : ∀ id, Declaration.question id ∈ before ↔ id ∈ laid.map (·.2.questionId)
  tiers : draft.tiers.toList = tiers
  questions : draft.questions.toList = laid.map fun (tierId, question) =>
    .ofQuestion tierId question
  /-- The place noted for an id is that of the question with the id. -/
  places : ∀ id place, draft.places.get? id = some place ↔
    (laid[place]?).map (·.2.questionId) = some id
  dangling : draft.dangling.toList = laid.flatMap fun (_, question) =>
    question.danglingReferences registry

variable {registry : Keyed Unit} {before : List Declaration} {tiers : List LaidTier}
  {laid : List (String × Question)} {draft : Draft}

theorem Holds.size (holds : draft.Holds registry before tiers laid) :
    draft.questions.size = laid.length := by
  rw [← Array.length_toList, holds.questions, List.length_map]

/-- A question id is known exactly if it was declared. -/
theorem Holds.contains_places (holds : draft.Holds registry before tiers laid) (id : String) :
    draft.places.contains id ↔ Declaration.question id ∈ before := by
  rw [holds.asked, Keyed.contains, Option.isSome_iff_exists, List.mem_iff_getElem?]
  simp only [holds.places, List.getElem?_map]

/-- The place after the last one is that of the question that is laid next. -/
theorem Holds.places_push (holds : draft.Holds registry before tiers laid) {tierId : String}
    {question : Question} (fresh : Declaration.question question.questionId ∉ before)
    (id : String) (place : Nat) :
    (draft.places.insert question.questionId draft.questions.size).get? id = some place ↔
      ((laid ++ [(tierId, question)])[place]?).map (·.2.questionId) = some id := by
  rw [Keyed.get?_insert, holds.size]
  have new : question.questionId ∉ laid.map (·.2.questionId) := mt (holds.asked _).2 fresh
  rcases Nat.lt_trichotomy place laid.length with inside | rfl | outside
  · rw [List.getElem?_append_left inside]
    by_cases same : question.questionId = id
    · subst same
      rw [if_pos rfl, Option.some.injEq]
      constructor
      · intro atEnd
        omega
      · intro there
        refine absurd ?_ new
        rw [List.mem_iff_getElem?]
        exact ⟨place, by rw [List.getElem?_map, there]⟩
    · rw [if_neg same, holds.places]
  · by_cases same : question.questionId = id
    · simp [same]
    · have absent : draft.places.get? id ≠ some laid.length := by
        rw [ne_eq, holds.places]
        simp
      simp [same, absent]
  · have beyond : (laid ++ [(tierId, question)])[place]? = none := by
      rw [List.getElem?_eq_none_iff, List.length_append, List.length_singleton]
      omega
    have absent : draft.places.get? id ≠ some place := by
      rw [ne_eq, holds.places, List.getElem?_eq_none_iff.2 (Nat.le_of_lt outside)]
      simp
    rw [beyond]
    by_cases same : question.questionId = id
    · simp [same, Nat.ne_of_lt outside]
    · simp [same, absent]

theorem scans_addQuestion (holds : draft.Holds registry before tiers laid)
    (distinct : before.Nodup) (tierId : String) (question : Question) :
    Scans before [.question question.questionId]
      (Holds registry (before ++ [.question question.questionId]) tiers
        (laid ++ [(tierId, question)]))
      (draft.addQuestion registry tierId question) := by
  refine (Scans.declare holds.contains_places distinct question.questionId _).map ?_
  rintro _ ⟨fresh, rfl⟩
  exact {
    tierIds := fun id => by simpa using holds.tierIds id
    asked := fun id => by
      rw [List.mem_append, holds.asked, List.map_append, List.mem_append]
      simp
    tiers := holds.tiers
    questions := by simp [holds.questions]
    places := holds.places_push fresh
    dangling := by simp [holds.dangling] }

/-- The questions of a tier. -/
theorem scans_questions (holds : draft.Holds registry before tiers laid)
    (distinct : before.Nodup) (tierId : String) (questions : List Question) :
    Scans before (questions.map (.question ·.questionId))
      (Holds registry (before ++ questions.map (.question ·.questionId)) tiers
        (laid ++ questions.map (tierId, ·)))
      (questions.foldlM (addQuestion registry tierId) draft) := by
  rw [List.map_eq_flatMap (f := fun question : Question => Declaration.question question.questionId)]
  refine Scans.foldlM _ (fun (done : List Question) => Holds registry (before ++ done.flatMap _)
    tiers (laid ++ done.map (tierId, ·))) ?round questions draft ?start distinct
  case round =>
    intro done question draft holds distinct
    have step := scans_addQuestion holds distinct tierId question
    simpa using step
  case start => simpa using holds

/-- A tier: its id, then its questions, whose stretch is noted at the end. -/
theorem scans_addTier (holds : draft.Holds registry before tiers laid) (distinct : before.Nodup)
    (tier : Tier) :
    Scans before tier.declarations
      (Holds registry (before ++ tier.declarations)
        (tiers ++ [.ofTier laid.length tier (laid.length + tier.questions.length)])
        (laid ++ tier.questions.map (tier.tierId, ·)))
      (draft.addTier registry tier) := by
  have start := Scans.declare holds.tierIds distinct tier.tierId ()
  rw [Tier.declarations, ← List.singleton_append]
  refine start.bind ?_
  rintro _ ⟨-, rfl⟩ distinct'
  have opened : Holds registry (before ++ [.tier tier.tierId]) tiers laid
      { draft with tierIds := draft.tierIds.insert tier.tierId () } := {
    holds with
    tierIds := fun id => by
      rw [Keyed.contains_insert, holds.tierIds, List.mem_append, or_comm]
      simp [eq_comm]
    asked := fun id => by
      rw [← holds.asked, List.mem_append]
      simp }
  refine (scans_questions opened distinct' tier.tierId tier.questions).map fun filled holds' => ?_
  exact {
    tierIds := fun id => by rw [← List.append_assoc]; exact holds'.tierIds id
    asked := fun id => by rw [← List.append_assoc]; exact holds'.asked id
    tiers := by simp [holds'.tiers, holds'.size, holds.size]
    questions := holds'.questions
    places := holds'.places
    dangling := holds'.dangling }

/-- The questions of tiers, one after the other, each with the id of its tier. -/
def questionsOf (tiers : List Tier) : List (String × Question) :=
  tiers.flatMap fun tier => tier.questions.map (tier.tierId, ·)

theorem length_questionsOf (tiers : List Tier) :
    (questionsOf tiers).length = (tiers.flatMap (·.questions)).length := by
  simp [questionsOf, List.length_flatMap]

/-- Before any tier is laid, no id of a tier or a question is known. -/
theorem holds_empty (registry : Keyed Unit) (scholarships : List Scholarship) :
    Holds registry (scholarships.map (.scholarship ·.scholarshipId)) [] [] {} where
  tierIds := by simp [Keyed.contains]
  asked := by simp
  tiers := rfl
  questions := rfl
  places := by simp
  dangling := rfl

/-- All tiers. -/
theorem scans_tiers (holds : draft.Holds registry before [] []) (distinct : before.Nodup)
    (tiers : List Tier) :
    Scans before (tiers.flatMap Tier.declarations)
      (Holds registry (before ++ tiers.flatMap Tier.declarations) (stretches 0 tiers)
        (questionsOf tiers))
      (tiers.foldlM (addTier registry) draft) := by
  refine Scans.foldlM _ (fun (done : List Tier) =>
    Holds registry (before ++ done.flatMap Tier.declarations) (stretches 0 done)
      (questionsOf done)) ?round tiers draft ?start distinct
  case round =>
    intro done tier draft holds distinct
    have step := scans_addTier holds distinct tier
    rw [List.flatMap_append, stretches_append]
    simpa [questionsOf, length_questionsOf] using step
  case start => simpa [stretches, questionsOf] using holds

end Draft

/-! ## Layouts -/

/-- The layout says all that the document says, and its questions are those of the document,
laid tier by tier. -/
structure Built (document : Questionnaire) (layout : Layout) : Prop where
  metadata : layout.metadata = document.metadata
  processingInstructions : layout.processingInstructions = document.processingInstructions
  scholarships : layout.scholarships = document.scholarships
  tiers : layout.tiers.toList = stretches 0 (Tier.inOrder document.tiers)
  questions : layout.questions.toList = document.questionsInOrder.map fun (tierId, question) =>
    .ofQuestion tierId question
  places : ∀ id place, layout.places.get? id = some place ↔
    (document.questionsInOrder[place]?).map (·.2.questionId) = some id
  dangling : ∃ registry, Knows document.scholarshipIds registry ∧
    layout.dangling.toList = document.questionsInOrder.flatMap fun (_, question) =>
      question.danglingReferences registry

/-- Loading is one pass over the declarations of a document. -/
theorem scans_ofQuestionnaire (document : Questionnaire) :
    Scans [] document.declarations (Built document) (ofQuestionnaire document) := by
  refine (scans_registry document.scholarships).bind fun known knows distinct => ?_
  refine (Draft.scans_tiers (Draft.holds_empty known _) distinct _).map fun draft holds => ?_
  exact {
    metadata := rfl
    processingInstructions := rfl
    scholarships := rfl
    tiers := holds.tiers
    questions := holds.questions
    places := holds.places
    dangling := ⟨known, knows, holds.dangling⟩ }

/-- A document that declares no id twice is laid out. -/
theorem exists_built {document : Questionnaire} (distinct : document.declarations.Nodup) :
    ∃ layout, ofQuestionnaire document = .ok layout ∧ Built document layout := by
  have scans := scans_ofQuestionnaire document
  cases loaded : ofQuestionnaire document with
  | ok layout =>
      rw [loaded] at scans
      exact ⟨layout, rfl, scans.2⟩
  | error repeated =>
      rw [loaded] at scans
      obtain ⟨front, rest, whole, -, met⟩ := scans
      rw [whole, List.nodup_append'] at distinct
      exact absurd List.mem_cons_self (distinct.2.2 met)

theorem built_of_ok {document : Questionnaire} {layout : Layout}
    (loaded : ofQuestionnaire document = .ok layout) :
    document.declarations.Nodup ∧ Built document layout := by
  have scans := scans_ofQuestionnaire document
  rw [loaded] at scans
  exact scans

/-- Loading refuses the id that a look-up for the first repeat finds. -/
theorem ofQuestionnaire_eq_error_iff {document : Questionnaire} {repeated : Declaration} :
    ofQuestionnaire document = .error repeated ↔
      firstRepeat? [] document.declarations = some repeated := by
  have scans := scans_ofQuestionnaire document
  cases loaded : ofQuestionnaire document with
  | ok layout =>
      have unrepeated : firstRepeat? [] document.declarations = none := by
        rw [firstRepeat?_eq_none_iff]
        exact ⟨(built_of_ok loaded).1, fun _ _ => List.not_mem_nil⟩
      simp [unrepeated]
  | error other =>
      rw [loaded] at scans
      have found : firstRepeat? [] document.declarations = some other := scans.firstRepeat?_eq
      rw [found, Option.some.injEq, Except.error.injEq]

end Layout

/-- **The first id that is declared again is named.**  The declarations of a document are those
of its registry and then, over the tiers by their order and else as they are written, the id of
each tier and the ids of its questions.  A document is loaded exactly if no declaration stands
there twice, and else refused for the one at the earliest place that has a like one before it. -/
theorem loading_names_first_repeat (document : Questionnaire) :
    Tier.StablySorted document.tiers (Tier.inOrder document.tiers) ∧
      ((∃ layout, Layout.ofQuestionnaire document = .ok layout) ↔
        document.declarations.Nodup) ∧
      (∀ repeated, Layout.ofQuestionnaire document = .error repeated ↔
        ∃ front rest, document.declarations = front ++ repeated :: rest ∧
          front.Nodup ∧ repeated ∈ front) ∧
      ∀ repeated, Catalog.ofQuestionnaire document = .error repeated ↔
        Layout.ofQuestionnaire document = .error repeated := by
  refine ⟨Tier.stablySorted_inOrder document.tiers, ⟨?loads, ?distinct⟩, ?refused, ?same⟩
  case loads =>
    rintro ⟨layout, loaded⟩
    exact (Layout.built_of_ok loaded).1
  case distinct =>
    intro distinct
    obtain ⟨layout, loaded, -⟩ := Layout.exists_built distinct
    exact ⟨layout, loaded⟩
  case refused =>
    intro repeated
    constructor
    · intro refused
      have scans := Layout.scans_ofQuestionnaire document
      rw [refused] at scans
      exact scans
    · rintro ⟨front, rest, whole, fresh, met⟩
      rw [Layout.ofQuestionnaire_eq_error_iff]
      exact RepeatsFirst.firstRepeat?_eq ⟨front, rest, whole, fresh, met⟩
  case same =>
    intro repeated
    rw [Layout.ofQuestionnaire_eq_error_iff, Catalog.ofQuestionnaire]
    cases firstRepeat? [] document.declarations <;> simp

end Screening
