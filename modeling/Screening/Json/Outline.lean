/-
# Screening.Json.Outline -- a JSON text as far as it can be taken

A text is taken from left to right and its first fault decides, whether that is a
flaw of the text or a value that is not what is wanted.  So a text is first laid out
as far as it goes: an outline is a JSON value that may break off.  Who asks for a
value then walks the outline and meets its flaws in their order.

What a break means depends on what is done with the value there (`Break`): a value is
read, or skipped because nobody asks for it, or chosen by name, and only a text or
an object can name a choice.  Arrays and objects within 127 others are too deep to
read, though they may be skipped.

* `readFlaw?`, `skipFlaw?`: the first flaw met when a whole value is read or skipped;
* `readFlaw?_ofJson`: an outline of a JSON value has none.
-/
import Screening.Json.Token
import Screening.Keyed

namespace Screening.Json

set_option autoImplicit false

/-- The flaw at a place where the text breaks, by what is done with the value there. -/
structure Break where
  read : Flaw
  skip : Flaw
  choose : Flaw
  deriving DecidableEq, Repr, Inhabited

/-- How an object ends. -/
inductive ObjectEnd where
  | closed
  /-- Neither a comma nor the closing brace follows a member. -/
  | noMark (flaw : Flaw)
  /-- What stands where a name is due; nothing, if the text ends there. -/
  | noName (found : Option Token)
  deriving DecidableEq, Repr, Inhabited

/-- A JSON value that may break off.  The name of a member is missing if it holds half
of a surrogate pair. -/
inductive Outline where
  | null
  | bool (value : Bool)
  | number (value : Number)
  | text (value : String)
  /-- Sound to skip, but not to read. -/
  | unreadable
  | broken (place : Break)
  | array (items : List Outline) (unclosed : Option Flaw)
  | object (members : List (Option String × Outline)) (ending : ObjectEnd)
  deriving Repr, Inhabited

namespace Break

/-- A break that is the same flaw for every use. -/
def always (flaw : Flaw) : Break := ⟨flaw, flaw, flaw⟩

/-- What it means that this token, or the end of the text, stands where a value is due.
A broken word or number starts no name.  Skipping a number looks for a digit where
one is due and does not tell the end of the text from another character. -/
def ofToken : Option Token → Break
  | none => always .cutOff
  | some (.brokenText read skip) => ⟨read, skip, read⟩
  | some (.brokenWord flaw) => ⟨flaw, flaw, .malformed⟩
  | some (.brokenNumber flaw) => ⟨flaw, .malformed, .malformed⟩
  | some _ => always .malformed

end Break

namespace ObjectEnd

/-- The flaw of the ending when the object is read. -/
def readFlaw? : ObjectEnd → Option Flaw
  | .closed => none
  | .noMark flaw => some flaw
  | .noName none => some .cutOff
  | .noName (some (.brokenText read _)) => some read
  | .noName (some _) => some .malformed

/-- The flaw of the ending when the object is skipped. -/
def skipFlaw? : ObjectEnd → Option Flaw
  | .noName (some (.brokenText _ skip)) => some skip
  | ending => ending.readFlaw?

end ObjectEnd

namespace Outline

mutual

/-- The first flaw met when the whole value is read. -/
def readFlaw? : Outline → Option Flaw
  | .unreadable => some .malformed
  | .broken place => some place.read
  | .array items unclosed => (itemsReadFlaw? items).or unclosed
  | .object members ending => (membersReadFlaw? members).or ending.readFlaw?
  | _ => none

def itemsReadFlaw? : List Outline → Option Flaw
  | [] => none
  | item :: items => item.readFlaw?.or (itemsReadFlaw? items)

def membersReadFlaw? : List (Option String × Outline) → Option Flaw
  | [] => none
  | (name, value) :: members =>
      if name.isNone then some .malformed else value.readFlaw?.or (membersReadFlaw? members)

end

mutual

/-- The first flaw met when the whole value is skipped. -/
def skipFlaw? : Outline → Option Flaw
  | .broken place => some place.skip
  | .array items unclosed => (itemsSkipFlaw? items).or unclosed
  | .object members ending => (membersSkipFlaw? members).or ending.skipFlaw?
  | _ => none

def itemsSkipFlaw? : List Outline → Option Flaw
  | [] => none
  | item :: items => item.skipFlaw?.or (itemsSkipFlaw? items)

def membersSkipFlaw? : List (Option String × Outline) → Option Flaw
  | [] => none
  | (_, value) :: members => value.skipFlaw?.or (membersSkipFlaw? members)

end

mutual

/-- The outline of a JSON value. -/
def ofJson : Json → Outline
  | .null => .null
  | .bool value => .bool value
  | .number value => .number value
  | .text value => .text value
  | .array items => .array (itemsOfJson items) none
  | .object members => .object (membersOfJson members) .closed

def itemsOfJson : List Json → List Outline
  | [] => []
  | item :: items => ofJson item :: itemsOfJson items

def membersOfJson : List (String × Json) → List (Option String × Outline)
  | [] => []
  | (name, value) :: members => (some name, ofJson value) :: membersOfJson members

end

mutual

/-- The value that the outline stands for.  Members are listed by name, and of those
with one name the last one counts. -/
def toJson : Outline → Json
  | .bool value => .bool value
  | .number value => .number value
  | .text value => .text value
  | .array items _ => .array (itemsToJson items)
  | .object members _ => .object (Keyed.ofList (membersToJson members)).entries
  | .null | .unreadable | .broken _ => .null

def itemsToJson : List Outline → List Json
  | [] => []
  | item :: items => item.toJson :: itemsToJson items

def membersToJson : List (Option String × Outline) → List (String × Json)
  | [] => []
  | (name, value) :: members => (name.getD "", value.toJson) :: membersToJson members

end

/-! ## Laying out a text -/

/-- An array or object around the value that is due, with what it holds from back to
front; of an object also the name of the member. -/
inductive Frame where
  | array (items : List Outline)
  | object (members : List (Option String × Outline)) (name : Option String)

/-- What is due next in a text. -/
inductive Due where
  | value (around : List Frame)
  | firstItem (around : List Frame)
  | afterItem (items : List Outline) (around : List Frame)
  | firstName (around : List Frame)
  | name (members : List (Option String × Outline)) (around : List Frame)
  | colon (members : List (Option String × Outline)) (name : Option String) (around : List Frame)
  | afterMember (members : List (Option String × Outline)) (around : List Frame)

/-- Within so many others an array or object is too deep to read. -/
def tooDeep : Nat := 127

/-- An array or object within `depth` others. -/
def within (depth : Nat) (container : Outline) : Outline :=
  if depth < tooDeep then container
  else
    match container.skipFlaw? with
    | none => .unreadable
    | some flaw => .broken ⟨.malformed, flaw, .malformed⟩

/-- The frames around a value after which nothing follows. -/
def breakOff (value : Outline) : List Frame → Outline
  | [] => value
  | .array items :: around =>
      breakOff (within around.length (.array (value :: items).reverse (some .cutOff))) around
  | .object members name :: around =>
      breakOff
        (within around.length (.object ((name, value) :: members).reverse (.noMark .cutOff))) around

/-- What is due after a value, or the value itself where nothing is open around it. -/
def deliver (value : Outline) : List Frame → Outline ⊕ Due
  | [] => .inl value
  | .array items :: around => .inr (.afterItem (value :: items) around)
  | .object members name :: around => .inr (.afterMember ((name, value) :: members) around)

def valueStep? (around : List Frame) : Token → Option (Outline ⊕ Due)
  | .openArray => some (.inr (.firstItem around))
  | .openObject => some (.inr (.firstName around))
  | .null => some (deliver .null around)
  | .bool value => some (deliver (.bool value) around)
  | .number value => some (deliver (.number value) around)
  | .text value => some (deliver (.text value) around)
  | .wideNumber | .loneText => some (deliver .unreadable around)
  | _ => none

def nameStep? (members : List (Option String × Outline)) (around : List Frame) :
    Token → Option (Outline ⊕ Due)
  | .text name => some (.inr (.colon members name around))
  | .loneText => some (.inr (.colon members none around))
  | _ => none

/-- The value that a token completes or what is due after it; nothing, if the text
breaks there. -/
def step? (due : Due) (token : Token) : Option (Outline ⊕ Due) :=
  match due with
  | .value around => valueStep? around token
  | .firstItem around =>
      if token = .closeArray then some (deliver (within around.length (.array [] none)) around)
      else valueStep? (.array [] :: around) token
  | .afterItem items around =>
      if token = .comma then some (.inr (.value (.array items :: around)))
      else if token = .closeArray then
        some (deliver (within around.length (.array items.reverse none)) around)
      else none
  | .firstName around =>
      if token = .closeObject then
        some (deliver (within around.length (.object [] .closed)) around)
      else nameStep? [] around token
  | .name members around => nameStep? members around token
  | .colon members name around =>
      if token = .colon then some (.inr (.value (.object members name :: around))) else none
  | .afterMember members around =>
      if token = .comma then some (.inr (.name members around))
      else if token = .closeObject then
        some (deliver (within around.length (.object members.reverse .closed)) around)
      else none

/-- The flaw of a text that ends, or goes on with this token, where a mark is due. -/
def flawAt (found : Option Token) : Flaw := if found.isNone then .cutOff else .malformed

/-- The outline of a text that ends, or breaks with this token, where something is due. -/
def stuck (due : Due) (found : Option Token) : Outline :=
  match due with
  | .value around => breakOff (.broken (.ofToken found)) around
  | .firstItem around => breakOff (.broken (.ofToken found)) (.array [] :: around)
  | .afterItem items around =>
      breakOff (within around.length (.array items.reverse (some (flawAt found)))) around
  | .firstName around => breakOff (within around.length (.object [] (.noName found))) around
  | .name members around =>
      breakOff (within around.length (.object members.reverse (.noName found))) around
  | .colon members name around =>
      breakOff (.broken (.always (flawAt found))) (.object members name :: around)
  | .afterMember members around =>
      breakOff (within around.length (.object members.reverse (.noMark (flawAt found)))) around

/-- Lays out a value from its tokens, and returns the tokens after it. -/
def assemble (due : Due) : List Token → Outline × List Token
  | [] => (stuck due none, [])
  | token :: rest =>
      match step? due token with
      | none => (stuck due token, [])
      | some (.inl value) => (value, rest)
      | some (.inr due) => assemble due rest

/-- The first value of a text, and the tokens after it. -/
def ofText (text : String) : Outline × List Token := assemble (.value []) (tokens text.toList)

/-! ## Sound values -/

mutual

theorem readFlaw?_ofJson (value : Json) : (ofJson value).readFlaw? = none := by
  cases value with
  | array items => simp [ofJson, readFlaw?, itemsReadFlaw?_ofJson items]
  | object members =>
      simp [ofJson, readFlaw?, membersReadFlaw?_ofJson members, ObjectEnd.readFlaw?]
  | _ => simp [ofJson, readFlaw?]

theorem itemsReadFlaw?_ofJson (items : List Json) :
    itemsReadFlaw? (itemsOfJson items) = none := by
  cases items with
  | nil => rfl
  | cons item items =>
      simp [itemsOfJson, itemsReadFlaw?, readFlaw?_ofJson item, itemsReadFlaw?_ofJson items]

theorem membersReadFlaw?_ofJson (members : List (String × Json)) :
    membersReadFlaw? (membersOfJson members) = none := by
  match members with
  | [] => rfl
  | (name, value) :: members =>
      simp [membersOfJson, membersReadFlaw?, readFlaw?_ofJson value,
        membersReadFlaw?_ofJson members]

end

end Outline

end Screening.Json
