/-
# Screening.Json.Codec -- values as JSON

A codec writes a value as JSON and takes one from an outline.  What is taken depends
in a few places on where the outline comes from (`Origin`): from a text, from a
value that was read whole before, or from a value set aside while its kind was being
decided.  Whoever wants a scalar meets the flaws of that scalar first; an array or
object that is not wanted is refused at its first bracket.

* `Codec.Sound`: what is written is taken back, wherever it comes from;
* `list_sound`, `keyed_sound`: lists and maps of sound codecs are sound.
-/
import Screening.Json.Outline

namespace Screening.Json

set_option autoImplicit false

/-- Where an outline comes from. -/
inductive Origin where
  | text
  | value
  | setAside
  deriving DecidableEq, Repr

abbrev Decoder (α : Type) := Origin → Outline → Except Fault α

structure Codec (α : Type) where
  encode : α → Json
  decode : Decoder α

/-- What is written is taken back, wherever it comes from. -/
def Codec.Sound {α : Type} (codec : Codec α) : Prop :=
  ∀ (origin : Origin) (a : α), codec.decode origin (.ofJson (codec.encode a)) = .ok a

namespace Outline

/-- The fault of finding this outline where something else is wanted. -/
def instead (wanted : String) : Outline → Fault
  | .null => .mismatch (.wrongType .null wanted)
  | .bool value => .mismatch (.wrongType (.bool value) wanted)
  | .number value => .mismatch (.wrongType (.number value) wanted)
  | .text value => .mismatch (.wrongType (.text value) wanted)
  | .unreadable => .malformed
  | .broken place => .flaw place.read
  | .array _ _ => .mismatch (.wrongType .sequence wanted)
  | .object _ _ => .mismatch (.wrongType .map wanted)

end Outline

/-- Nothing, unless there is a flaw. -/
def noFlaw : Option Flaw → Except Fault Unit
  | none => .ok ()
  | some flaw => .error (.flaw flaw)

namespace Codec

variable {α : Type}

/-! ## Scalars -/

def string : Codec String where
  encode := .text
  decode _ outline :=
    match outline with
    | .text value => .ok value
    | other => .error (other.instead "a string")

def boolean : Codec Bool where
  encode := .bool
  decode _ outline :=
    match outline with
    | .bool value => .ok value
    | other => .error (other.instead "a boolean")

/-- A whole number below a bound, from its outline. -/
def wholeBelow (bound : Nat) (wanted : String) (outline : Outline) : Except Fault Nat :=
  match outline with
  | .number (.integer n) =>
      if 0 ≤ n ∧ n < bound then .ok n.toNat
      else .error (.mismatch (.unfitValue (.number (.integer n)) wanted))
  | other => .error (other.instead wanted)

def word32 : Codec UInt32 where
  encode n := .ofNat n.toNat
  decode _ outline := (wholeBelow UInt32.size "u32" outline).map UInt32.ofNat

def word64 : Codec UInt64 where
  encode n := .ofNat n.toNat
  decode _ outline := (wholeBelow UInt64.size "usize" outline).map UInt64.ofNat

/-- The number of an outline; a whole number stands for the nearest binary64 number. -/
def amount? : Outline → Option Binary64
  | .number (.real x) => some x
  | .number (.integer n) => Binary64.ofInt? n
  | _ => none

def real : Codec Binary64 where
  encode := .real
  decode _ outline :=
    match amount? outline with
    | some x => .ok x
    | none => .error (outline.instead "f64")

/-! ## Lists and maps -/

def decodeItems (decode : Decoder α) (origin : Origin) : List Outline → Except Fault (List α)
  | [] => .ok []
  | item :: items => do
      let value ← decode origin item
      let values ← decodeItems decode origin items
      return value :: values

def list (codec : Codec α) : Codec (List α) where
  encode values := .array (values.map codec.encode)
  decode origin outline :=
    match outline with
    | .array items unclosed => do
        let values ← decodeItems codec.decode origin items
        noFlaw unclosed
        return values
    | other => .error (other.instead "a sequence")

/-- A set of texts, listed in order. -/
def textSet : Codec (Keyed Unit) where
  encode set := .texts set.keys
  decode origin outline :=
    ((list string).decode origin outline).map fun texts => .ofList (texts.map fun text => (text, ()))

def decodeMembers (decode : Decoder α) (origin : Origin) :
    List (Option String × Outline) → Except Fault (List (String × α))
  | [] => .ok []
  | (none, _) :: _ => .error .malformed
  | (some name, value) :: members => do
      let read ← decode origin value
      let others ← decodeMembers decode origin members
      return (name, read) :: others

/-- A map from texts; of entries with one key the last one counts. -/
def keyed (codec : Codec α) : Codec (Keyed α) where
  encode map := .object (map.entries.map fun (key, value) => (key, codec.encode value))
  decode origin outline :=
    match outline with
    | .object members ending => do
        let entries ← decodeMembers codec.decode origin members
        noFlaw ending.readFlaw?
        return .ofList entries
    | other => .error (other.instead "a map")

/-! ## Soundness -/

theorem itemsOfJson_eq (items : List Json) : Outline.itemsOfJson items = items.map .ofJson := by
  induction items with
  | nil => rfl
  | cons item items ih => simp [Outline.itemsOfJson, ih]

theorem membersOfJson_eq (members : List (String × Json)) :
    Outline.membersOfJson members = members.map fun (name, value) => (some name, .ofJson value) := by
  induction members with
  | nil => rfl
  | cons member members ih => simp [Outline.membersOfJson, ih]

theorem string_sound : string.Sound := fun _ _ => by simp [string, Outline.ofJson]

theorem boolean_sound : boolean.Sound := fun _ _ => by simp [boolean, Outline.ofJson]

theorem real_sound : real.Sound := fun _ _ => by
  simp [real, Json.real, Outline.ofJson, amount?]

theorem wholeBelow_ofNat {n bound : Nat} (wanted : String) (below : n < bound) :
    wholeBelow bound wanted (.ofJson (.ofNat n)) = .ok n := by
  simp only [Json.ofNat, Outline.ofJson, wholeBelow]
  rw [if_pos ⟨Int.natCast_nonneg n, by omega⟩, Int.toNat_natCast]

theorem word32_sound : word32.Sound := fun _ n => by
  simp only [word32]
  rw [wholeBelow_ofNat _ n.toNat_lt]
  exact congrArg Except.ok UInt32.ofNat_toNat

theorem word64_sound : word64.Sound := fun _ n => by
  simp only [word64]
  rw [wholeBelow_ofNat _ n.toNat_lt]
  exact congrArg Except.ok UInt64.ofNat_toNat

theorem decodeItems_encode {codec : Codec α} (sound : codec.Sound) (origin : Origin)
    (values : List α) :
    decodeItems codec.decode origin (values.map fun value => .ofJson (codec.encode value)) =
      .ok values := by
  induction values with
  | nil => rfl
  | cons value values ih =>
      simp [decodeItems, sound origin value, ih, bind, Except.bind, pure, Except.pure]

theorem list_sound {codec : Codec α} (sound : codec.Sound) : codec.list.Sound := by
  intro origin values
  simp only [list, Outline.ofJson, itemsOfJson_eq, List.map_map]
  have := decodeItems_encode sound origin values
  simp only [Function.comp_def, this]
  rfl

theorem decodeMembers_encode {codec : Codec α} (sound : codec.Sound) (origin : Origin)
    (entries : List (String × α)) :
    decodeMembers codec.decode origin
        (entries.map fun (key, value) => (some key, .ofJson (codec.encode value))) =
      .ok entries := by
  induction entries with
  | nil => rfl
  | cons entry entries ih =>
      simp [decodeMembers, sound origin entry.2, ih, bind, Except.bind, pure, Except.pure]

theorem keyed_sound {codec : Codec α} (sound : codec.Sound) : codec.keyed.Sound := by
  intro origin map
  simp only [keyed, Outline.ofJson, membersOfJson_eq, List.map_map]
  have := decodeMembers_encode sound origin map.entries
  simp only [Function.comp_def, this]
  exact congrArg Except.ok map.ofList_entries

end Codec

end Screening.Json
