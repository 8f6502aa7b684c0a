/-
# Screening.Keyed -- finite maps from texts, in the order of their keys

Answers, sub-answers and live sessions are kept under a text and are always shown
in the order of those texts (by code point).  A `Keyed α` is a list of entries
whose keys ascend, so two of them that answer every look-up alike are equal
(`ext_get?`): a map has no history.

* `get?_insert`, `get?_erase`: each operation through the look-up;
* `ext_get?`: the look-ups determine the map;
* `get?_foldl_insert`, `get?_ofList`: of entries with one key, the last one counts;
* `ofList_entries`: a map is what its own entries leave.
-/
namespace Screening

set_option autoImplicit false

/-- A finite map from texts, listed by ascending key. -/
structure Keyed (α : Type) where
  entries : List (String × α) := []
  ascending : entries.Pairwise (fun first second => first.1 < second.1) := by simp
  deriving Repr

namespace Keyed

variable {α β : Type}

instance : Inhabited (Keyed α) := ⟨{}⟩

instance [DecidableEq α] : DecidableEq (Keyed α) := fun left right =>
  if same : left.entries = right.entries then
    isTrue (by cases left; cases right; simp_all)
  else
    isFalse fun equal => same (equal ▸ rfl)

/-- The map with no entry. -/
def empty : Keyed α := {}

/-! ## Entry lists -/

def find (key : String) : List (String × α) → Option α
  | [] => none
  | (k, a) :: rest => if k = key then some a else find key rest

/-- Puts an entry at its place, over an entry with the same key. -/
def place (key : String) (value : α) : List (String × α) → List (String × α)
  | [] => [(key, value)]
  | (k, a) :: rest =>
      if key < k then (key, value) :: (k, a) :: rest
      else if key = k then (key, value) :: rest
      else (k, a) :: place key value rest

def drop (key : String) (entries : List (String × α)) : List (String × α) :=
  entries.filter fun entry => entry.1 ≠ key

theorem mem_place {key : String} {value : α} {entry : String × α} {entries : List (String × α)}
    (member : entry ∈ place key value entries) : entry = (key, value) ∨ entry ∈ entries := by
  fun_induction place key value entries with
  | case1 => exact .inl (List.mem_singleton.1 member)
  | case2 k a rest _ => exact List.mem_cons.1 member
  | case3 a rest _ =>
      rcases List.mem_cons.1 member with here | later
      · exact .inl here
      · exact .inr (List.mem_cons_of_mem _ later)
  | case4 k a rest _ _ ih =>
      rcases List.mem_cons.1 member with rfl | later
      · exact .inr List.mem_cons_self
      · exact (ih later).imp_right (List.mem_cons_of_mem _)

theorem place_ascending (key : String) (value : α) {entries : List (String × α)}
    (ascending : entries.Pairwise fun first second => first.1 < second.1) :
    (place key value entries).Pairwise fun first second => first.1 < second.1 := by
  fun_induction place key value entries with
  | case1 => simp
  | case2 k a rest below =>
      refine List.Pairwise.cons (fun entry member => ?_) ascending
      rcases List.mem_cons.1 member with rfl | later
      · exact below
      · exact String.lt_trans below (List.rel_of_pairwise_cons ascending later)
  | case3 a rest _ =>
      exact List.Pairwise.cons (fun entry member => List.rel_of_pairwise_cons ascending member)
        ascending.of_cons
  | case4 k a rest notBelow different ih =>
      refine List.Pairwise.cons (fun entry member => ?_) (ih ascending.of_cons)
      rcases mem_place member with rfl | later
      · have := Std.lt_trichotomy key k
        grind
      · exact List.rel_of_pairwise_cons ascending later

theorem find_place (key other : String) (value : α) (entries : List (String × α)) :
    find other (place key value entries) =
      if key = other then some value else find other entries := by
  fun_induction place key value entries with
  | case1 => rfl
  | case2 k a rest _ => rfl
  | case3 a rest _ =>
      by_cases same : key = other
      · rw [find, if_pos same, if_pos same]
      · rw [find, if_neg same, if_neg same, find, if_neg same]
  | case4 k a rest _ different ih =>
      rw [find, find, ih]
      by_cases here : k = other
      · rw [if_pos here, if_pos here, if_neg fun same => different (same.trans here.symm)]
      · rw [if_neg here, if_neg here]

theorem find_drop (key other : String) (entries : List (String × α)) :
    find other (drop key entries) = if key = other then none else find other entries := by
  induction entries with
  | nil => exact (ite_self none).symm
  | cons entry rest ih =>
      obtain ⟨k, a⟩ := entry
      by_cases dropped : k = key
      · have gone : drop key ((k, a) :: rest) = drop key rest :=
          List.filter_cons_of_neg (by simpa using dropped)
        rw [gone, ih]
        by_cases same : key = other
        · rw [if_pos same, if_pos same]
        · rw [if_neg same, if_neg same, find, if_neg fun here => same (dropped.symm.trans here)]
      · have kept : drop key ((k, a) :: rest) = (k, a) :: drop key rest :=
          List.filter_cons_of_pos (by simpa using dropped)
        rw [kept, find, find, ih]
        by_cases here : k = other
        · rw [if_pos here, if_pos here, if_neg fun same => dropped (here.trans same.symm)]
        · rw [if_neg here, if_neg here]

theorem find_eq_none_of_lt {key : String} {entries : List (String × α)}
    (below : ∀ entry ∈ entries, key < entry.1) : find key entries = none := by
  induction entries with
  | nil => rfl
  | cons entry rest ih =>
      have : key < entry.1 := below entry (by simp)
      have different : entry.1 ≠ key := fun same => String.lt_irrefl key (same ▸ this)
      simp only [find, if_neg different]
      exact ih fun later member => below later (by simp [member])

/-- Ascending entry lists with the same look-ups are the same list. -/
theorem eq_of_find_eq {left right : List (String × α)}
    (leftAscends : left.Pairwise fun first second => first.1 < second.1)
    (rightAscends : right.Pairwise fun first second => first.1 < second.1)
    (same : ∀ key, find key left = find key right) : left = right := by
  induction left generalizing right with
  | nil =>
      cases right with
      | nil => rfl
      | cons entry rest => simpa [find] using same entry.1
  | cons entry rest ih =>
      obtain ⟨key, value⟩ := entry
      cases right with
      | nil => simpa [find] using same key
      | cons other more =>
          obtain ⟨key', value'⟩ := other
          have inRest : ∀ e ∈ rest, key < e.1 := fun e => List.rel_of_pairwise_cons leftAscends
          have inMore : ∀ e ∈ more, key' < e.1 := fun e => List.rel_of_pairwise_cons rightAscends
          have keys : key = key' := by
            rcases Std.lt_trichotomy key key' with below | equal | above
            · have := same key
              have absent : find key ((key', value') :: more) = none :=
                find_eq_none_of_lt fun e member => by
                  rcases List.mem_cons.1 member with rfl | later
                  · exact below
                  · exact String.lt_trans below (inMore e later)
              rw [absent] at this
              simp [find] at this
            · exact equal
            · have := same key'
              have absent : find key' ((key, value) :: rest) = none :=
                find_eq_none_of_lt fun e member => by
                  rcases List.mem_cons.1 member with rfl | later
                  · exact above
                  · exact String.lt_trans above (inRest e later)
              rw [absent] at this
              simp [find] at this
          subst keys
          have values : value = value' := by simpa [find] using same key
          subst values
          congr 1
          refine ih leftAscends.of_cons rightAscends.of_cons fun k => ?_
          by_cases here : key = k
          · subst here
            rw [find_eq_none_of_lt inRest, find_eq_none_of_lt inMore]
          · simpa [find, here] using same k

/-! ## The operations -/

def get? (map : Keyed α) (key : String) : Option α := find key map.entries

def contains (map : Keyed α) (key : String) : Bool := (map.get? key).isSome

def insert (map : Keyed α) (key : String) (value : α) : Keyed α where
  entries := place key value map.entries
  ascending := place_ascending key value map.ascending

def erase (map : Keyed α) (key : String) : Keyed α where
  entries := drop key map.entries
  ascending := map.ascending.filter _

/-- The map that the entries leave when they are inserted one after the other. -/
def ofList (entries : List (String × α)) : Keyed α :=
  entries.foldl (fun map entry => map.insert entry.1 entry.2) empty

def keys (map : Keyed α) : List String := map.entries.map (·.1)

def isEmpty (map : Keyed α) : Bool := map.entries.isEmpty

/-- The map with every value replaced by its image. -/
def map (f : α → β) (source : Keyed α) : Keyed β where
  entries := source.entries.map fun (key, value) => (key, f value)
  ascending := List.pairwise_map.2 (source.ascending.imp id)

@[simp] theorem get?_empty (key : String) : (empty : Keyed α).get? key = none := rfl

@[simp] theorem get?_insert (map : Keyed α) (key other : String) (value : α) :
    (map.insert key value).get? other = if key = other then some value else map.get? other :=
  find_place key other value map.entries

theorem contains_insert (map : Keyed α) (key other : String) (value : α) :
    (map.insert key value).contains other ↔ key = other ∨ map.contains other := by
  simp only [contains, get?_insert]
  by_cases same : key = other <;> simp [same]

@[simp] theorem get?_erase (map : Keyed α) (key other : String) :
    (map.erase key).get? other = if key = other then none else map.get? other :=
  find_drop key other map.entries

@[simp] theorem get?_map (f : α → β) (source : Keyed α) (key : String) :
    (source.map f).get? key = (source.get? key).map f := by
  obtain ⟨entries, _⟩ := source
  simp only [get?, Keyed.map]
  induction entries with
  | nil => rfl
  | cons entry rest ih => grind [find]

/-- The look-ups determine the map. -/
@[ext] theorem ext_get? {left right : Keyed α} (same : ∀ key, left.get? key = right.get? key) :
    left = right := by
  have := eq_of_find_eq left.ascending right.ascending same
  cases left
  cases right
  simp_all

theorem find_append (key : String) (front tail : List (String × α)) :
    find key (front ++ tail) = (find key front).or (find key tail) := by
  induction front with
  | nil => simp [find]
  | cons entry front ih => grind [find]

/-- Inserting entries into a map: of those with one key the last one counts. -/
theorem get?_foldl_insert (entries : List (String × α)) (start : Keyed α) (key : String) :
    (entries.foldl (fun map entry => map.insert entry.1 entry.2) start).get? key =
      (find key entries.reverse).or (start.get? key) := by
  induction entries generalizing start with
  | nil => simp [find]
  | cons entry rest ih =>
      rw [List.foldl_cons, ih, get?_insert, List.reverse_cons, find_append]
      simp only [find]
      grind

/-- Of entries with one key, the last one counts. -/
theorem get?_ofList (entries : List (String × α)) (key : String) :
    (ofList entries).get? key = find key entries.reverse := by
  rw [ofList, get?_foldl_insert, get?_empty, Option.or_none]

/-- Keys that ascend are told apart by their order. -/
theorem find_reverse {entries : List (String × α)}
    (ascending : entries.Pairwise fun first second => first.1 < second.1) (key : String) :
    find key entries.reverse = find key entries := by
  induction entries with
  | nil => rfl
  | cons entry rest ih =>
      rw [List.reverse_cons, find_append, ih ascending.of_cons]
      by_cases same : entry.1 = key
      · have : find key rest = none := find_eq_none_of_lt fun other member =>
          same ▸ List.rel_of_pairwise_cons ascending member
        simp [find, same, this]
      · simp [find, same]

/-- A map is what its own entries leave. -/
theorem ofList_entries (map : Keyed α) : ofList map.entries = map := by
  ext1 key
  rw [get?_ofList, find_reverse map.ascending]
  rfl

end Keyed

end Screening
