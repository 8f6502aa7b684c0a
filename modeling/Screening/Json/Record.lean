/-
# Screening.Json.Record -- records as JSON

A record is written as an object and taken from an object or from an array of its
fields in order.  One description of its fields (`Fields`) serves both directions: it
is indexed by the tuple of the values and by the slots that hold them while an
object is read.

Reading an object takes its members as they come.  A member of another name is
skipped; a field that comes twice, under any of its names, is a fault at once, and
so is a value that does not fit.  When the object has ended, the first field in
order that is neither there nor has a default is missing.
-/
import Screening.Json.Codec

namespace Screening.Json

set_option autoImplicit false

/-- A field of a record.  `encode` leaves the field out where it gives nothing. -/
structure Field (α : Type) where
  name : String
  aliases : List String := []
  absent : Option α := none
  encode : α → Option Json
  decode : Decoder α

namespace Field

variable {α : Type}

def isNamed (field : Field α) (name : String) : Bool :=
  name = field.name || field.aliases.contains name

/-- A field that has to be there. -/
def required (name : String) (codec : Codec α) (aliases : List String := []) : Field α :=
  { name, aliases, encode := fun a => some (codec.encode a), decode := codec.decode }

/-- A field with a default, which is always written. -/
def defaulted (name : String) (codec : Codec α) (value : α) (aliases : List String := []) :
    Field α :=
  { name, aliases, absent := some value, encode := fun a => some (codec.encode a),
    decode := codec.decode }

/-- A field that may be missing or null, and is left out where it has no value. -/
def optional (name : String) (codec : Codec α) : Field (Option α) :=
  { name
    absent := some none
    encode := fun a => a.map codec.encode
    decode := fun origin outline =>
      match outline with
      | .null => .ok none
      | outline => (codec.decode origin outline).map some }

/-- A map that may be missing, and is left out where it is empty; null is no map. -/
def mapOrNothing (name : String) (codec : Codec α) : Field (Keyed α) :=
  { name
    absent := some .empty
    encode := fun map => if map.isEmpty then none else some (codec.keyed.encode map)
    decode := codec.keyed.decode }

end Field

/-- The fields of a record in order: the slots while they are read, and their tuple. -/
inductive Fields : Type → Type → Type 1 where
  | none : Fields Unit Unit
  | field {α σ τ : Type} (first : Field α) (others : Fields σ τ) : Fields (Option α × σ) (α × τ)

namespace Fields

def size : {σ τ : Type} → Fields σ τ → Nat
  | _, _, .none => 0
  | _, _, .field _ others => others.size + 1

/-- Every name that a field goes by. -/
def names : {σ τ : Type} → Fields σ τ → List String
  | _, _, .none => []
  | _, _, .field first others => (first.name :: first.aliases) ++ others.names

/-- The slots before anything is read. -/
def blank : {σ τ : Type} → Fields σ τ → σ
  | _, _, .none => ()
  | _, _, .field _ others => (Option.none, others.blank)

/-- Takes a member into its slot; nothing, if no field has its name. -/
def put (origin : Origin) (name : String) (value : Outline) :
    {σ τ : Type} → Fields σ τ → σ → Option (Except Fault σ)
  | _, _, .none, _ => Option.none
  | _, _, .field first others, (slot, slots) =>
      if first.isNamed name then
        some <|
          if slot.isSome then .error (.mismatch (.duplicateField first.name))
          else (first.decode origin value).map fun read => (some read, slots)
      else (others.put origin name value slots).map fun taken => taken.map fun slots => (slot, slots)

/-- Takes the members as they come. -/
def putAll {σ τ : Type} (fields : Fields σ τ) (origin : Origin) :
    List (Option String × Outline) → σ → Except Fault σ
  | [], slots => .ok slots
  | (Option.none, _) :: _, _ => .error .malformed
  | (some name, value) :: members, slots =>
      match fields.put origin name value slots with
      | some taken => taken.bind (fields.putAll origin members)
      | Option.none => (noFlaw value.skipFlaw?).bind fun _ => fields.putAll origin members slots

/-- The tuple of the values, or the first field that is missing. -/
def gather : {σ τ : Type} → Fields σ τ → σ → Except Fault τ
  | _, _, .none, _ => .ok ()
  | _, _, .field first others, (slot, slots) =>
      match slot.or first.absent with
      | Option.none => .error (.mismatch (.missingField first.name))
      | some value => (others.gather slots).map fun values => (value, values)

/-- Takes the items of an array into the fields in order, the first of them having
this index, and returns the surplus.  `shape` says what the array should be. -/
def takeItems (origin : Origin) (shape : String) (unclosed : Option Flaw) :
    {σ τ : Type} → Fields σ τ → Nat → List Outline → Except Fault (τ × List Outline)
  | _, _, .none, _, items => .ok ((), items)
  | _, _, .field first others, index, item :: items =>
      (first.decode origin item).bind fun value =>
        (others.takeItems origin shape unclosed (index + 1) items).map fun (values, surplus) =>
          ((value, values), surplus)
  | _, _, .field first others, index, [] =>
      (noFlaw unclosed).bind fun _ =>
        match first.absent with
        | Option.none => .error (.mismatch (.wrongLength index shape))
        | some value =>
            (others.takeItems origin shape unclosed (index + 1) []).map fun (values, surplus) =>
              ((value, values), surplus)

/-- The members that write a tuple. -/
def encode : {σ τ : Type} → Fields σ τ → τ → List (String × Json)
  | _, _, .none, _ => []
  | _, _, .field first others, (value, values) =>
      match first.encode value with
      | Option.none => others.encode values
      | some written => (first.name, written) :: others.encode values

end Fields

/-- The number of items that an array should have. -/
def elements (count : Nat) : String :=
  if count = 1 then "1 element" else Text.natText count ++ " elements"

/-- A record: what it is called, its fields, and how it is made from their values. -/
structure Record (α : Type) where
  kind : String
  {Slots : Type}
  {Values : Type}
  fields : Fields Slots Values
  values : α → Values
  make : Values → α

namespace Record

variable {α : Type}

/-- The fault of an array with more items than the record has fields. -/
def surplusFault (record : Record α) (length : Nat) : Origin → Fault
  | .text => .malformed
  | .value => .mismatch (.wrongLength length "fewer elements in array")
  | .setAside =>
      .mismatch (.wrongLength length (elements record.fields.size ++ " in sequence"))

def decode (record : Record α) (origin : Origin) (outline : Outline) : Except Fault α :=
  match outline with
  | .object members ending => do
      let slots ← record.fields.putAll origin members record.fields.blank
      noFlaw ending.readFlaw?
      let values ← record.fields.gather slots
      return record.make values
  | .array items unclosed => do
      let shape := record.kind ++ " with " ++ elements record.fields.size
      let (values, surplus) ← record.fields.takeItems origin shape unclosed 0 items
      if surplus.isEmpty then noFlaw unclosed
      else throw (record.surplusFault items.length origin)
      return record.make values
  | other => .error (other.instead record.kind)

def codec (record : Record α) : Codec α where
  encode a := .object (record.fields.encode (record.values a))
  decode := record.decode

end Record

end Screening.Json
