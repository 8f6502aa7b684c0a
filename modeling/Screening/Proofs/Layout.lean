/-
# Screening.Proofs.Layout -- what a layout holds of its document

A layout keeps its questions apart from its tiers: one sequence, a stretch of it for each tier,
and a place in it for each question id.  Nothing in these data ties the three together; loading
does.  The stretches follow one another from the start of the sequence to its end (`Tiles`), so
each of them lies within the sequence and no question is in two; in the stretch of a tier stand
that tier's questions, read, as they are written (`Layout.Shows`); and the places lead from each
id to the one question that has it.

* `Tiles.bounds`, `Layout.tiles_stretches`: the stretches tile the sequence;
* `Layout.shows_stretches`: what stands in them;
* `Layout.Built.question?_eq_some_iff`: what is found by an id;
* `Layout.Built.dangling_eq`: which mentions of scholarships were noted on the way;
* `Layout.catalog_of_ofQuestionnaire`, `Catalog.load_eq`: a layout shows the catalog of its
  document, so what is loaded from a text is the catalog of what the text says;
* `layout_represents_document`: all this of every document that loads.
-/
import Mathlib.Data.List.Forall2
import Screening.Catalog.Load
import Screening.Proofs.Loading

namespace Screening

set_option autoImplicit false

/-- Elements that correspond have the same images in the same order. -/
theorem map_eq_of_forall₂ {α β γ : Type} {R : α → β → Prop} {f : α → γ} {g : β → γ}
    (same : ∀ a b, R a b → f a = g b) {left : List α} {right : List β}
    (corresponds : List.Forall₂ R left right) : left.map f = right.map g := by
  rw [← List.forall₂_eq_eq_eq, List.forall₂_map_left_iff, List.forall₂_map_right_iff]
  exact corresponds.imp same

/-! ## Look-ups -/

/-- A look-up among records with distinct keys, which finds by a key the record that has it, and
nothing exactly by the ids that are not in the list. -/
structure ExactLookup {α : Type} (records : List α) (key : α → String) (ids : List String)
    (lookup : String → Option α) : Prop where
  unique : (records.map key).Nodup
  found : ∀ id record, lookup id = some record ↔ record ∈ records ∧ key record = id
  missing : ∀ id, lookup id = none ↔ id ∉ ids

/-- What finds the records by their keys finds nothing by other ids. -/
theorem ExactLookup.of_found {α : Type} {records : List α} {key : α → String} {ids : List String}
    {lookup : String → Option α} (unique : (records.map key).Nodup)
    (same : (records.map key).Perm ids)
    (found : ∀ id record, lookup id = some record ↔ record ∈ records ∧ key record = id) :
    ExactLookup records key ids lookup where
  unique
  found
  missing := by
    intro id
    rw [← same.mem_iff, List.mem_map, Option.eq_none_iff_forall_ne_some, not_exists]
    exact forall_congr' fun record => not_congr (found id record)

/-! ## Stretches -/

/-- Stretches that follow one another without a gap, from one place to another. -/
inductive Tiles : Nat → List LaidTier → Nat → Prop where
  | nil (place : Nat) : Tiles place [] place
  | cons {tier : LaidTier} {tiers : List LaidTier} {stop : Nat} (ordered : tier.start ≤ tier.stop)
      (rest : Tiles tier.stop tiers stop) : Tiles tier.start (tier :: tiers) stop

/-- No stretch reaches beyond what they tile. -/
theorem Tiles.bounds {start stop : Nat} {tiers : List LaidTier} (tiles : Tiles start tiers stop) :
    start ≤ stop ∧
      ∀ tier ∈ tiers, start ≤ tier.start ∧ tier.start ≤ tier.stop ∧ tier.stop ≤ stop := by
  induction tiles with
  | nil place => exact ⟨Nat.le_refl place, by simp⟩
  | cons ordered rest ih =>
      obtain ⟨further, within⟩ := ih
      refine ⟨Nat.le_trans ordered further, ?_⟩
      intro tier member
      rcases List.mem_cons.1 member with rfl | later
      · exact ⟨Nat.le_refl _, ordered, further⟩
      · obtain ⟨after, inOrder, inside⟩ := within tier later
        exact ⟨Nat.le_trans ordered after, inOrder, inside⟩

/-- The laid tier says of itself what the tier says. -/
structure LaidTier.Describes (laid : LaidTier) (tier : Tier) : Prop where
  tierId : laid.tierId = tier.tierId
  tierOrder : laid.tierOrder = tier.tierOrder
  tierName : laid.tierName = tier.tierName
  tierDescription : laid.tierDescription = tier.tierDescription
  estimatedEliminationRate : laid.estimatedEliminationRate = tier.estimatedEliminationRate

namespace Layout

theorem tiles_stretches (start : Nat) (tiers : List Tier) :
    Tiles start (stretches start tiers) (start + (tiers.flatMap (·.questions)).length) := by
  induction tiers generalizing start with
  | nil => exact .nil start
  | cons tier tiers ih =>
      have ordered : (LaidTier.ofTier start tier (start + tier.questions.length)).start ≤
          (LaidTier.ofTier start tier (start + tier.questions.length)).stop :=
        Nat.le_add_right start _
      have tiles := Tiles.cons ordered (ih (start + tier.questions.length))
      rw [List.flatMap_cons, List.length_append, ← Nat.add_assoc]
      exact tiles

/-- What stands in a stretch, when it is known what stands around it. -/
theorem tierQuestions?_eq {layout : Layout} {front stretch back : List ReadQuestion}
    {tier : LaidTier} (whole : layout.questions.toList = front ++ stretch ++ back)
    (start : tier.start = front.length) (stop : tier.stop = front.length + stretch.length) :
    layout.tierQuestions? tier = some stretch := by
  have size : layout.questions.size = front.length + stretch.length + back.length := by
    rw [← Array.length_toList, whole, List.length_append, List.length_append]
  have inside : tier.start ≤ tier.stop ∧ tier.stop ≤ layout.questions.size := by omega
  rw [tierQuestions?, if_pos inside, Array.toList_extract, whole, start, stop,
    List.extract_eq_take_drop, List.append_assoc, List.drop_left]
  simp

/-- The questions of a tier, read. -/
def readQuestions (tier : Tier) : List ReadQuestion :=
  tier.questions.map (.ofQuestion tier.tierId)

theorem map_questionsOf (tiers : List Tier) :
    ((Draft.questionsOf tiers).map fun (tierId, question) =>
      ReadQuestion.ofQuestion tierId question) = tiers.flatMap readQuestions := by
  rw [Draft.questionsOf, List.map_flatMap]
  refine List.flatMap_congr fun tier _ => ?_
  rw [List.map_map]
  rfl

/-- The laid tier is this one, and in its stretch stand the questions of this one. -/
structure Shows (layout : Layout) (tier : Tier) (laid : LaidTier) : Prop where
  header : laid = .ofTier laid.start tier laid.stop
  stretch : layout.tierQuestions? laid = some (readQuestions tier)

theorem Shows.readTier_eq {layout : Layout} {tier : Tier} {laid : LaidTier}
    (shows : layout.Shows tier laid) : layout.readTier laid = .ofTier tier := by
  rw [readTier, shows.stretch, shows.header]
  rfl

theorem Shows.describes {layout : Layout} {tier : Tier} {laid : LaidTier}
    (shows : layout.Shows tier laid) : laid.Describes tier := by
  rw [shows.header]
  exact ⟨rfl, rfl, rfl, rfl, rfl⟩

/-- Tiers that are laid one after the other show, when the questions stand so, too. -/
theorem shows_stretches {layout : Layout} (tiers : List Tier) (front : List ReadQuestion)
    (whole : layout.questions.toList = front ++ tiers.flatMap readQuestions) :
    List.Forall₂ layout.Shows tiers (stretches front.length tiers) := by
  induction tiers generalizing front with
  | nil => exact .nil
  | cons tier tiers ih =>
      rw [List.flatMap_cons, ← List.append_assoc] at whole
      have length : (readQuestions tier).length = tier.questions.length := List.length_map _
      refine .cons ⟨rfl, ?here⟩ ?later
      case here => exact tierQuestions?_eq whole rfl (by rw [length]; rfl)
      case later =>
        have rest := ih (front ++ readQuestions tier) whole
        rwa [List.length_append, length] at rest

namespace Built

variable {document : Questionnaire} {layout : Layout} (built : Built document layout)

include built

theorem questions_eq :
    layout.questions.toList = (Tier.inOrder document.tiers).flatMap readQuestions := by
  rw [built.questions, ← map_questionsOf]
  rfl

theorem tiles : Tiles 0 layout.tiers.toList layout.questions.size := by
  have size : layout.questions.size =
      ((Tier.inOrder document.tiers).flatMap (·.questions)).length := by
    rw [← Array.length_toList, built.questions, List.length_map, ← Draft.length_questionsOf]
    rfl
  rw [size, built.tiers, ← Nat.zero_add (List.length _)]
  exact tiles_stretches 0 _

theorem shows : List.Forall₂ layout.Shows (Tier.inOrder document.tiers) layout.tiers.toList := by
  rw [built.tiers]
  exact shows_stretches _ [] built.questions_eq

/-- The place noted for an id is that of the question with the id. -/
theorem places_iff (id : String) (place : Nat) :
    layout.places.get? id = some place ↔
      (layout.questions[place]?).map (·.questionId) = some id := by
  rw [built.places, ← Array.getElem?_toList, built.questions, List.getElem?_map, Option.map_map]
  rfl

theorem place_lt {id : String} {place : Nat} (noted : layout.places.get? id = some place) :
    place < layout.questions.size := by
  rw [built.places_iff, Option.map_eq_some_iff] at noted
  obtain ⟨asked, there, -⟩ := noted
  exact (Array.getElem?_eq_some_iff.1 there).1

/-- The places lead to every question. -/
theorem question?_eq_some_iff (id : String) (asked : ReadQuestion) :
    layout.question? id = some asked ↔
      asked ∈ layout.questions.toList ∧ asked.questionId = id := by
  rw [question?, Option.bind_eq_some_iff]
  simp only [built.places_iff]
  constructor
  · rintro ⟨place, noted, there⟩
    rw [there, Option.map_some, Option.some.injEq] at noted
    exact ⟨Array.mem_toList_iff.2 (Array.mem_of_getElem? there), noted⟩
  · rintro ⟨member, rfl⟩
    obtain ⟨place, there⟩ := List.mem_iff_getElem?.1 member
    rw [Array.getElem?_toList] at there
    exact ⟨place, by rw [there, Option.map_some], there⟩

theorem tiers_eq :
    layout.tiers.toList.map layout.readTier = (Tier.inOrder document.tiers).map .ofTier :=
  (map_eq_of_forall₂ (fun _ _ shows => shows.readTier_eq.symm) built.shows).symm

theorem tierIds_eq :
    layout.tiers.toList.map (·.tierId) = (Tier.inOrder document.tiers).map (·.tierId) :=
  (map_eq_of_forall₂ (fun _ _ shows => shows.describes.tierId.symm) built.shows).symm

theorem questionIds_eq :
    layout.questions.toList.map (·.questionId) =
      (Tier.inOrder document.tiers).flatMap fun tier => tier.questions.map (·.questionId) := by
  rw [built.questions_eq, List.map_flatMap]
  refine List.flatMap_congr fun tier _ => ?_
  rw [readQuestions, List.map_map]
  rfl

/-- A layout shows the catalog of its document. -/
theorem catalog_eq (distinct : document.declarations.Nodup) :
    Catalog.ofQuestionnaire document = .ok layout.catalog := by
  rw [Catalog.ofQuestionnaire_eq_ok_iff, Layout.catalog, built.tiers_eq, built.metadata,
    built.processingInstructions, built.scholarships]
  exact ⟨distinct, rfl⟩

/-- The catalog asks the questions of the layout. -/
theorem questions_catalog : layout.catalog.questions = layout.questions.toList := by
  rw [Catalog.questions, catalog, built.tiers_eq, built.questions_eq, List.flatMap_map]
  rfl

/-- The dangling references that were noted on the way are those of the catalog. -/
theorem dangling_eq : layout.dangling.toList = layout.catalog.danglingReferences := by
  obtain ⟨registry, knows, dangling⟩ := built.dangling
  rw [dangling, Catalog.danglingReferences, built.questions_catalog, built.questions,
    List.flatMap_map]
  refine List.flatMap_congr fun (_, question) _ => ?_
  refine List.flatMap_congr fun rule _ => ?_
  have known (id : String) : registry.contains id = layout.catalog.scholarshipIds.contains id := by
    rw [Bool.eq_iff_iff, knows, List.contains_iff_mem]
    show _ ↔ id ∈ layout.scholarships.map (·.scholarshipId)
    rw [built.scholarships]
    rfl
  simp only [known]
  rfl

/-- What the catalog finds by an id is what the layout finds. -/
theorem question?_catalog (distinct : document.declarations.Nodup) (id : String) :
    layout.catalog.question? id = layout.question? id := by
  have accepted := built.catalog_eq distinct
  refine Option.ext fun asked => ?_
  rw [Catalog.question?_eq_some_iff accepted, built.question?_eq_some_iff,
    built.questions_catalog]

end Built

/-- The catalog finds by an id the tier that the layout finds, with its questions. -/
theorem tier?_catalog (layout : Layout) (id : String) :
    layout.catalog.tier? id = (layout.tier? id).map layout.readTier := by
  rw [Catalog.tier?, catalog, List.find?_map]
  rfl

/-- Loading in one pass and looking for a repeat first come to the same catalog. -/
theorem catalog_of_ofQuestionnaire (document : Questionnaire) :
    (ofQuestionnaire document).map catalog = Catalog.ofQuestionnaire document := by
  cases loaded : ofQuestionnaire document with
  | ok layout =>
      obtain ⟨distinct, built⟩ := built_of_ok loaded
      exact (built.catalog_eq distinct).symm
  | error repeated =>
      rw [ofQuestionnaire_eq_error_iff] at loaded
      rw [Catalog.ofQuestionnaire, loaded]
      rfl

end Layout

/-- What is loaded from a text is the catalog of what the text says. -/
theorem Catalog.load_eq (text : String) :
    Catalog.load text =
      ((Json.decodeText Questionnaire.codec.decode text).mapError .invalid).bind fun document =>
        (Catalog.ofQuestionnaire document).mapError .repeated := by
  rw [Catalog.load]
  cases (Json.decodeText Questionnaire.codec.decode text).mapError LoadError.invalid with
  | error fault => rfl
  | ok document =>
      show ((Layout.ofQuestionnaire document).mapError _ >>= fun layout => pure layout.catalog) = _
      rw [Except.bind, ← Layout.catalog_of_ofQuestionnaire]
      cases Layout.ofQuestionnaire document <;> rfl

/-! ## Documents that load -/

/-- The tiers of a document that loads are told apart by their ids. -/
theorem Questionnaire.tierIds_nodup {document : Questionnaire}
    (distinct : document.declarations.Nodup) :
    ((Tier.inOrder document.tiers).map (·.tierId)).Nodup := by
  have apart := (List.nodup_flatMap.1 (List.nodup_append'.1 distinct).2.1).2
  refine List.pairwise_map.2 (apart.imp ?_)
  intro first second disjoint same
  exact disjoint List.mem_cons_self (by rw [same]; exact List.mem_cons_self)

/-- The read question is this one of a tier, with its rules and its display expression read. -/
structure ReadQuestion.ReadFrom (tier : Tier) (written : Question) (asked : ReadQuestion) :
    Prop where
  tierId : asked.tierId = tier.tierId
  question : asked.question = written
  rules : List.Forall₂ (fun rule read => read.rule = rule ∧
    read.condition = Condition.parse rule.condition) written.eliminationRules asked.rules
  visibility : asked.visibility = Visibility.parse written.showIf

theorem ReadQuestion.readFrom_ofQuestion (tier : Tier) (question : Question) :
    ReadFrom tier question (.ofQuestion tier.tierId question) where
  tierId := rfl
  question := rfl
  rules := by
    rw [ofQuestion, List.forall₂_map_right_iff, List.forall₂_same]
    exact fun rule _ => ⟨rfl, rfl⟩
  visibility := rfl

/-- The layout stands for the document, whose tiers are put in this order: the stretches of its
tiers tile its questions, each holds the questions of its tier, and look-ups are exact. -/
structure Layout.Represents (document : Questionnaire) (ordered : List Tier) (layout : Layout) :
    Prop where
  metadata : layout.metadata = document.metadata
  processingInstructions : layout.processingInstructions = document.processingInstructions
  scholarships : layout.scholarships = document.scholarships
  described : List.Forall₂ (fun tier laid => laid.Describes tier) ordered layout.tiers.toList
  tiles : Tiles 0 layout.tiers.toList layout.questions.size
  inside : ∀ laid ∈ layout.tiers.toList,
    laid.start ≤ laid.stop ∧ laid.stop ≤ layout.questions.size
  /-- The questions of the tiers, one list for each, are all questions, one after the other. -/
  whole : ∃ stretches,
    List.Forall₂ (fun laid stretch => layout.tierQuestions? laid = some stretch)
      layout.tiers.toList stretches ∧
    List.Forall₂ (fun tier stretch => List.Forall₂ (ReadQuestion.ReadFrom tier)
      tier.questions stretch) ordered stretches ∧
    stretches.flatten = layout.questions.toList
  places : ∀ id place, layout.places.get? id = some place → place < layout.questions.size
  question : ExactLookup layout.questions.toList ReadQuestion.questionId
    (document.tiers.flatMap fun tier => tier.questions.map (·.questionId)) layout.question?
  tier : ExactLookup layout.tiers.toList (·.tierId) (document.tiers.map (·.tierId)) layout.tier?
  scholarship : ExactLookup layout.scholarships (·.scholarshipId)
    (document.scholarships.map (·.scholarshipId)) layout.catalog.scholarship?

namespace Layout.Built

variable {document : Questionnaire} {layout : Layout} (built : Built document layout)

include built

/-- The stretches of the tiers hold their questions, and together all questions. -/
theorem exists_stretches :
    ∃ stretches,
      List.Forall₂ (fun laid stretch => layout.tierQuestions? laid = some stretch)
        layout.tiers.toList stretches ∧
      List.Forall₂ (fun tier stretch => List.Forall₂ (ReadQuestion.ReadFrom tier)
        tier.questions stretch) (Tier.inOrder document.tiers) stretches ∧
      stretches.flatten = layout.questions.toList := by
  refine ⟨(Tier.inOrder document.tiers).map readQuestions, ?stands, ?reads, ?all⟩
  case stands =>
    rw [List.forall₂_map_right_iff]
    exact built.shows.flip.imp fun _ _ shows => shows.stretch
  case reads =>
    rw [List.forall₂_map_right_iff, List.forall₂_same]
    intro tier _
    rw [readQuestions, List.forall₂_map_right_iff, List.forall₂_same]
    exact fun question _ => ReadQuestion.readFrom_ofQuestion tier question
  case all => rw [built.questions_eq, List.flatMap_def]

variable (distinct : document.declarations.Nodup)

include distinct

theorem exactLookup_question :
    ExactLookup layout.questions.toList ReadQuestion.questionId
      (document.tiers.flatMap fun tier => tier.questions.map (·.questionId)) layout.question? := by
  refine .of_found ?unique ?same built.question?_eq_some_iff
  case unique =>
    rw [← built.questions_catalog]
    exact Catalog.questionIds_nodup (built.catalog_eq distinct)
  case same =>
    rw [built.questionIds_eq]
    exact (Tier.stablySorted_inOrder document.tiers).perm.flatMap_right _

theorem exactLookup_tier :
    ExactLookup layout.tiers.toList (·.tierId) (document.tiers.map (·.tierId)) layout.tier? := by
  have unique : (layout.tiers.toList.map (·.tierId)).Nodup := by
    rw [built.tierIds_eq]
    exact Questionnaire.tierIds_nodup distinct
  refine .of_found unique ?same fun _ _ => find?_key_eq_some_iff unique
  case same =>
    rw [built.tierIds_eq]
    exact (Tier.stablySorted_inOrder document.tiers).perm.map _

theorem exactLookup_scholarship :
    ExactLookup layout.scholarships (·.scholarshipId)
      (document.scholarships.map (·.scholarshipId)) layout.catalog.scholarship? := by
  have unique : (layout.scholarships.map (·.scholarshipId)).Nodup :=
    Catalog.scholarshipIds_nodup (built.catalog_eq distinct)
  refine .of_found unique ?same fun _ _ => find?_key_eq_some_iff unique
  case same => rw [built.scholarships]

/-- A layout that was built from a document stands for it. -/
theorem represents : layout.Represents document (Tier.inOrder document.tiers) where
  metadata := built.metadata
  processingInstructions := built.processingInstructions
  scholarships := built.scholarships
  described := built.shows.imp fun _ _ shows => shows.describes
  tiles := built.tiles
  inside := fun laid member => (built.tiles.bounds.2 laid member).2
  whole := built.exists_stretches
  places := fun _ _ => built.place_lt
  question := built.exactLookup_question distinct
  tier := built.exactLookup_tier distinct
  scholarship := built.exactLookup_scholarship distinct

end Layout.Built

/-- **A layout stands for its document.**  Of every document that loads, the tiers are put in
order as a stable sort by their order puts them; the stretches of the tiers tile the sequence of
questions, and each holds the questions of its tier as they are written, every question with its
rules and its display expression read; and by an id a question, a tier or a scholarship is found
exactly if the document has one with the id.  The catalog of the document is what the layout
shows. -/
theorem layout_represents_document {document : Questionnaire} {layout : Layout}
    (loaded : Layout.ofQuestionnaire document = .ok layout) :
    Tier.StablySorted document.tiers (Tier.inOrder document.tiers) ∧
      layout.Represents document (Tier.inOrder document.tiers) ∧
      Catalog.ofQuestionnaire document = .ok layout.catalog ∧
      layout.catalog.questions = layout.questions.toList ∧
      ∀ id, layout.catalog.question? id = layout.question? id ∧
        layout.catalog.tier? id = (layout.tier? id).map layout.readTier := by
  obtain ⟨distinct, built⟩ := Layout.built_of_ok loaded
  refine ⟨Tier.stablySorted_inOrder document.tiers, built.represents distinct,
    built.catalog_eq distinct, built.questions_catalog, fun id => ⟨?_, ?_⟩⟩
  · exact built.question?_catalog distinct id
  · exact layout.tier?_catalog id

namespace Sample

/-- A tier without questions, of the same order as the later one. -/
def vacant : Tier where
  tierId := "vacant"
  tierOrder := 2

/-- The tier that is asked first is written last. -/
def gapped : Questionnaire := { document with tiers := [vacant, late, early] }

theorem inOrder_gapped : Tier.inOrder gapped.tiers = [early, vacant, late] := by
  simp [Tier.inOrder, gapped, List.mergeSort, early, vacant, late]

def gappedLayout : Layout where
  metadata := {}
  processingInstructions := none
  scholarships := document.scholarships
  tiers := #[.ofTier 0 early 1, .ofTier 1 vacant 1, .ofTier 1 late 2]
  questions := (Layout.readQuestions early ++ Layout.readQuestions late).toArray
  places := .ofList [("enrolled", 0), ("interests", 1)]
  dangling := #[⟨"R1", "enrolled", "Z"⟩]

theorem laid_gapped : Layout.ofQuestionnaire gapped = .ok gappedLayout := by
  rw [Layout.ofQuestionnaire, inOrder_gapped]
  rfl

end Sample

theorem sample_layout_represents_document :
    Layout.ofQuestionnaire Sample.gapped = .ok Sample.gappedLayout ∧
      Tier.StablySorted Sample.gapped.tiers [Sample.early, Sample.vacant, Sample.late] ∧
      Sample.gappedLayout.Represents Sample.gapped
        [Sample.early, Sample.vacant, Sample.late] := by
  obtain ⟨sorted, represents, -⟩ := layout_represents_document Sample.laid_gapped
  rw [Sample.inOrder_gapped] at sorted represents
  exact ⟨Sample.laid_gapped, sorted, represents⟩

end Screening
