/-
# Screening.Proofs.RecordSoundness -- a record is taken back as it was written

The codecs of texts, numbers, lists and maps are sound by themselves.  A record writes its
fields as the members of an object, leaving some of them out, and takes members in whatever
order they come.  It is sound when each field is (`Field.Sound`: what it writes is taken back,
and what it leaves out is what it is where it is missing) and no name belongs to two fields.

* `Field.optional_sound`, `Field.mapOrNothing_sound`: the fields that leave something out;
* `Fields.putAll_encode`: the members that write a tuple fill the slots with it;
* `Record.codec_sound`: the fields carry a record.
-/
import Mathlib.Data.List.Nodup
import Screening.Json.Record

namespace Screening

set_option autoImplicit false

variable {α : Type}

theorem Keyed.eq_empty_of_isEmpty {map : Keyed α} (nothing : map.isEmpty) : map = .empty := by
  obtain ⟨entries, ascending⟩ := map
  cases List.isEmpty_iff.1 nothing
  rfl

namespace Json

/-! ## One field -/

/-- What the field writes is taken back, and what it leaves out is there by default. -/
structure Field.Sound (field : Field α) : Prop where
  taken_back : ∀ origin a written, field.encode a = some written →
    field.decode origin (.ofJson written) = .ok a
  by_default : ∀ a, field.encode a = none → field.absent = some a

/-- Nothing is written as null. -/
def Codec.NeverNull (codec : Codec α) : Prop := ∀ a, codec.encode a ≠ .null

theorem Outline.ofJson_ne_null {value : Json} (written : value ≠ .null) :
    Outline.ofJson value ≠ .null := by
  cases value with
  | null => exact absurd rfl written
  | _ => simp [Outline.ofJson]

namespace Field

variable {codec : Codec α}

theorem required_sound (sound : codec.Sound) (name : String) (aliases : List String) :
    (required name codec aliases).Sound where
  taken_back := by
    rintro origin a _ ⟨⟩
    exact sound origin a
  by_default := nofun

theorem defaulted_sound (sound : codec.Sound) (name : String) (value : α)
    (aliases : List String) : (defaulted name codec value aliases).Sound where
  taken_back := by
    rintro origin a _ ⟨⟩
    exact sound origin a
  by_default := nofun

theorem decode_optional (name : String) (origin : Origin) {outline : Outline}
    (there : outline ≠ .null) :
    (optional name codec).decode origin outline = (codec.decode origin outline).map some := by
  cases outline with
  | null => exact absurd rfl there
  | _ => rfl

/-- A value that is written as null could not be told from none. -/
theorem optional_sound (sound : codec.Sound) (never : codec.NeverNull) (name : String) :
    (optional name codec).Sound where
  taken_back := by
    rintro origin a written encoded
    obtain ⟨value, rfl, rfl⟩ := Option.map_eq_some_iff.1 encoded
    rw [decode_optional name origin (Outline.ofJson_ne_null (never value)), sound origin value]
    rfl
  by_default := by
    intro a left_out
    rw [Option.map_eq_none_iff.1 left_out]
    rfl

theorem mapOrNothing_sound (sound : codec.Sound) (name : String) :
    (mapOrNothing name codec).Sound where
  taken_back := by
    intro origin map written encoded
    simp only [mapOrNothing] at encoded
    split at encoded
    · cases encoded
    · cases encoded
      exact Codec.keyed_sound sound origin map
  by_default := by
    intro map left_out
    simp only [mapOrNothing] at left_out
    split at left_out
    · next nothing => exact congrArg some (Keyed.eq_empty_of_isEmpty nothing).symm
    · cases left_out

end Field

/-! ## Fields in a row -/

namespace Fields

variable {σ τ : Type}

def Sound : {σ τ : Type} → Fields σ τ → Prop
  | _, _, .none => True
  | _, _, .field first others => first.Sound ∧ others.Sound

/-- The slots when the members that write the tuple have been taken. -/
def filled : {σ τ : Type} → Fields σ τ → τ → σ
  | _, _, .none, _ => ()
  | _, _, .field first others, (value, values) =>
      ((first.encode value).map fun _ => value, others.filled values)

/-- The names of the members that are written are names of fields. -/
theorem names_encode_subset (fields : Fields σ τ) (values : τ) :
    (fields.encode values).map (·.1) ⊆ fields.names := by
  induction fields with
  | none => exact List.nil_subset _
  | field first others ih =>
      obtain ⟨value, values⟩ := values
      have later := List.subset_append_of_subset_right (first.name :: first.aliases) (ih values)
      simp only [encode, names]
      cases first.encode value with
      | none => exact later
      | some written => exact List.cons_subset.2 ⟨List.mem_cons_self, later⟩

/-- Members of other names leave the slot of a field as it is. -/
theorem putAll_of_unnamed (first : Field α) (others : Fields σ τ) (origin : Origin)
    (slot : Option α) {members : List (String × Json)}
    (unnamed : ∀ member ∈ members, ¬ first.isNamed member.1) (slots : σ) :
    (field first others).putAll origin (Outline.membersOfJson members) (slot, slots) =
      (others.putAll origin (Outline.membersOfJson members) slots).map fun slots =>
        (slot, slots) := by
  induction members generalizing slots with
  | nil => rfl
  | cons member members ih =>
      obtain ⟨name, value⟩ := member
      have here := unnamed _ List.mem_cons_self
      have later := ih fun member inRest => unnamed member (List.mem_cons_of_mem _ inRest)
      simp only [Outline.membersOfJson, putAll, put, if_neg here]
      cases others.put origin name (.ofJson value) slots with
      | none =>
          cases noFlaw (Outline.ofJson value).skipFlaw? with
          | error fault => rfl
          | ok _ => exact later slots
      | some taken =>
          cases taken with
          | error fault => rfl
          | ok slots => exact later slots

/-- **The members that write a tuple fill the slots with it.** -/
theorem putAll_encode {fields : Fields σ τ} (sound : fields.Sound) (distinct : fields.names.Nodup)
    (origin : Origin) (values : τ) :
    fields.putAll origin (Outline.membersOfJson (fields.encode values)) fields.blank =
      .ok (fields.filled values) := by
  induction fields with
  | none => rfl
  | field first others ih =>
      obtain ⟨value, values⟩ := values
      obtain ⟨here, later⟩ := sound
      obtain ⟨-, apart, disjoint⟩ := List.nodup_append.1 distinct
      have unnamed : ∀ member ∈ others.encode values, ¬ first.isNamed member.1 := by
        intro member written named
        have other := others.names_encode_subset values (List.mem_map_of_mem written)
        exact disjoint member.1 (by simpa [Field.isNamed] using named) member.1 other rfl
      simp only [encode, blank, filled]
      -- the first slot is filled by the first member or stays empty; the others pass it by
      cases encoded : first.encode value with
      | none =>
          rw [putAll_of_unnamed first others origin Option.none unnamed, ih later apart values]
          rfl
      | some written =>
          simp only [Outline.membersOfJson, putAll, put, Field.isNamed, decide_true, Bool.true_or,
            if_true, here.taken_back origin value written encoded]
          show (field first others).putAll origin _ (some value, others.blank) = _
          rw [putAll_of_unnamed first others origin (some value) unnamed, ih later apart values]
          rfl

/-- The slots that were left empty are those whose value is there by default. -/
theorem gather_filled {fields : Fields σ τ} (sound : fields.Sound) (values : τ) :
    fields.gather (fields.filled values) = .ok values := by
  induction fields with
  | none => rfl
  | field first others ih =>
      obtain ⟨value, values⟩ := values
      obtain ⟨here, later⟩ := sound
      have slot : ((first.encode value).map fun _ => value).or first.absent = some value := by
        cases encoded : first.encode value with
        | none => exact here.by_default value encoded
        | some written => rfl
      simp only [filled, gather, slot, ih later values]
      rfl

end Fields

/-! ## Records -/

/-- **The fields carry a record.** -/
theorem Record.codec_sound {record : Record α} (sound : record.fields.Sound)
    (distinct : record.fields.names.Nodup)
    (made : ∀ a, record.make (record.values a) = a) : record.codec.Sound := by
  intro origin a
  simp only [codec, Outline.ofJson, decode]
  rw [Fields.putAll_encode sound distinct origin (record.values a)]
  show (record.fields.gather (record.fields.filled (record.values a))).bind _ = _
  rw [Fields.gather_filled sound (record.values a)]
  exact congrArg Except.ok (made a)

theorem Record.codec_neverNull (record : Record α) : record.codec.NeverNull := nofun

end Json

end Screening
