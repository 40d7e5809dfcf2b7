import Mathlib.Data.List.Forall2
import QueryRights.Json.Basic

/-!
# What is kept of a JSON text

A text says more than is kept of it: keys may be repeated and come in any order.  What is kept is
sorted, and a sorted value is written in a form that is kept as that very value again, nested no
deeper than the text it came from.

There are two types of trees.  `Json` is what a text says, with all its members, with strings that
denote no text and numbers that are none; `Value` is what remains when a part is kept.  Going from
the first to the second may fail and it loses something.  Going back never fails.  If a value was
kept once, then going back and forth gives the value again, and this is the theorem of this module.
It is not true of all values: one with its keys in the wrong order would come back sorted.

So there is an invariant, `Value.Sorted`, which says of all objects in a value that they are sorted
with no key twice.  It holds of everything that is kept.  The members of an object are put in order
one by one, and one with the key of an earlier one takes its place, so along the way there may be
parts that vanish.  This is why the invariant is carried through the insertion as a property of all
parts, those that will be replaced included.

Trees branch into lists, and the recursions over them come in families: one function for a tree,
and one each for a list of items and a list of members.  Proofs do not follow this.  There is one
induction for each type, with a hypothesis about all parts at once (`Value.induct`, `Json.induct`),
and the functions on lists are rewritten as maps before they are used.

How deep a text is nested has to be known, since a part is only kept up to a certain depth.  Its
numbers have to be known because not all numbers are read back as they were written.  For both it
is enough that keeping adds nothing.

## What is here

* `Value.induct` and `Json.induct`: induction over trees, with one hypothesis for all parts of an
  array or an object; and the functions on lists of parts as maps, for use with them.
* `Value.Sorted` and `Json.sorted_of_value?`: the invariant of kept values.
* `Value.value?_json`: **a sorted value is kept as it is when it is read again**.
* `Json.depth_json_le`: what is kept is nested no deeper.
* `Value.numbers`, `Json.numbers`: the numbers in a tree; keeping adds none.
-/

set_option autoImplicit false

namespace QueryRights

/-! ## Lists of parts

A list of which each part is read, or none is.  As a relation between two lists of the same length
this can be used place by place. -/

/-- A list is read part by part. -/
theorem mapM_eq_some_iff {α β : Type} {f : α → Option β} {as : List α} {bs : List β} :
    as.mapM f = some bs ↔ List.Forall₂ (fun a b => f a = some b) as bs := by
  induction as generalizing bs with
  | nil => cases bs <;> simp
  | cons a rest ih =>
    rw [List.mapM_cons]
    constructor
    · intro h
      obtain ⟨b, hb, h⟩ := Option.bind_eq_some_iff.1 h
      obtain ⟨bs, hbs, h⟩ := Option.bind_eq_some_iff.1 h
      cases h
      exact .cons hb (ih.1 hbs)
    · rintro (_ | ⟨hb, hbs⟩)
      simp [hb, ih.2 hbs]

/-- Parts that are read as what they were written from. -/
theorem mapM_map_eq_some {α β : Type} {f : β → Option α} {g : α → β} {as : List α}
    (h : ∀ a ∈ as, f (g a) = some a) : (as.map g).mapM f = some as := by
  rw [mapM_eq_some_iff, List.forall₂_map_left_iff, List.forall₂_same]
  exact h

/-! ## Values as trees

What is kept: an induction over it, the numbers in it, and the invariant. -/

namespace Value

/-- Induction over values. -/
theorem induct {motive : Value → Prop} (null : motive .null) (bool : ∀ b, motive (.bool b))
    (number : ∀ n, motive (.number n)) (string : ∀ s, motive (.string s))
    (array : ∀ items, (∀ v ∈ items, motive v) → motive (.array items))
    (object : ∀ members, (∀ m ∈ members, motive m.2) → motive (.object members))
    (v : Value) : motive v :=
  @Value.rec motive (fun items => ∀ v ∈ items, motive v) (fun members => ∀ m ∈ members, motive m.2)
    (fun m => motive m.2) null bool number string array object
    (fun _ h => absurd h List.not_mem_nil)
    (fun _ _ hv hrest => List.forall_mem_cons.2 ⟨hv, hrest⟩)
    (fun _ h => absurd h List.not_mem_nil)
    (fun _ _ hm hrest => List.forall_mem_cons.2 ⟨hm, hrest⟩)
    (fun _ _ hv => hv) v

theorem jsonOfItems_eq (items : List Value) : jsonOfItems items = items.map json := by
  induction items with
  | nil => rfl
  | cons v rest ih => rw [jsonOfItems, ih, List.map_cons]

theorem jsonOfMembers_eq (members : List (String × Value)) :
    jsonOfMembers members = members.map fun m => (.ofText m.1, m.2.json) := by
  induction members with
  | nil => rfl
  | cons m rest ih => rw [jsonOfMembers, ih, List.map_cons]

mutual

/-- The numbers in a value. -/
def numbers : Value → List Number
  | .number n => [n]
  | .array items => numbersOfItems items
  | .object members => numbersOfMembers members
  | _ => []

def numbersOfItems : List Value → List Number
  | [] => []
  | v :: rest => numbers v ++ numbersOfItems rest

def numbersOfMembers : List (String × Value) → List Number
  | [] => []
  | (_, v) :: rest => numbers v ++ numbersOfMembers rest

end

theorem mem_numbers_array {n : Number} {items : List Value} :
    n ∈ (Value.array items).numbers ↔ ∃ v ∈ items, n ∈ v.numbers := by
  rw [numbers]
  induction items with
  | nil => simp [numbersOfItems]
  | cons v rest ih => simp [numbersOfItems, ih]

theorem mem_numbers_object {n : Number} {members : List (String × Value)} :
    n ∈ (Value.object members).numbers ↔ ∃ m ∈ members, n ∈ m.2.numbers := by
  rw [numbers]
  induction members with
  | nil => simp [numbersOfMembers]
  | cons m rest ih => simp only [numbersOfMembers, List.mem_append, ih, List.exists_mem_cons_iff]

/-- All objects in a value are sorted, with no key twice. -/
inductive Sorted : Value → Prop where
  | null : Sorted .null
  | bool (b : Bool) : Sorted (.bool b)
  | number (n : Number) : Sorted (.number n)
  | string (s : String) : Sorted (.string s)
  | array {items : List Value} (parts : ∀ v ∈ items, Sorted v) : Sorted (.array items)
  | object {members : List (String × Value)} (increasing : Increasing members)
      (parts : ∀ m ∈ members, Sorted m.2) : Sorted (.object members)

/-- An object made by putting its members in order is sorted. -/
theorem Sorted.ofMembers {members : List (String × Value)} (h : ∀ m ∈ members, Sorted m.2) :
    Sorted (.object (members.foldl (fun sorted m => insertEntry m.1 m.2 sorted) [])) := by
  refine .object (Increasing.foldl_insertEntry List.Pairwise.nil members) fun m hm => ?_
  rcases mem_of_mem_foldl_insertEntry hm with hm | hm
  · exact absurd hm List.not_mem_nil
  · exact h m hm

end Value

/-! ## Texts as trees

What a text says: the same induction, and keeping a list of items or of members as one map over it.
-/

namespace Json

/-- Induction over what texts say. -/
theorem induct {motive : Json → Prop} (null : motive .null) (bool : ∀ b, motive (.bool b))
    (number : ∀ n, motive (.number n)) (string : ∀ s, motive (.string s))
    (array : ∀ items, (∀ j ∈ items, motive j) → motive (.array items))
    (object : ∀ members, (∀ m ∈ members, motive m.2) → motive (.object members))
    (j : Json) : motive j :=
  @Json.rec motive (fun items => ∀ j ∈ items, motive j) (fun members => ∀ m ∈ members, motive m.2)
    (fun m => motive m.2) null bool number string array object
    (fun _ h => absurd h List.not_mem_nil)
    (fun _ _ hj hrest => List.forall_mem_cons.2 ⟨hj, hrest⟩)
    (fun _ h => absurd h List.not_mem_nil)
    (fun _ _ hm hrest => List.forall_mem_cons.2 ⟨hm, hrest⟩)
    (fun _ _ hj => hj) j

theorem optional?_of_ne_null {α : Type} (f : Json → Option α) {j : Json} (h : j ≠ .null) :
    optional? f j = (f j).map some := by
  cases j with
  | null => exact absurd rfl h
  | _ => rfl

theorem depthOfItems_le_iff {items : List Json} {room : Nat} :
    depthOfItems items ≤ room ↔ ∀ j ∈ items, j.depth ≤ room := by
  induction items with
  | nil => simp [depthOfItems]
  | cons j rest ih => rw [depthOfItems, Nat.max_le, ih, List.forall_mem_cons]

theorem depthOfMembers_le_iff {members : List (Quoted × Json)} {room : Nat} :
    depthOfMembers members ≤ room ↔ ∀ m ∈ members, m.2.depth ≤ room := by
  induction members with
  | nil => simp [depthOfMembers]
  | cons m rest ih => rw [depthOfMembers, Nat.max_le, ih, List.forall_mem_cons]

theorem itemValues?_eq (items : List Json) : itemValues? items = items.mapM value? := by
  induction items with
  | nil => rfl
  | cons j rest ih => rw [itemValues?, ih, List.mapM_cons]

/-- A member with its key as a text and its part as a value. -/
def memberValue? (m : Quoted × Json) : Option (String × Value) := do
  let key ← m.1.text?
  let v ← m.2.value?
  return (key, v)

theorem memberValue?_eq_some {m : Quoted × Json} {e : String × Value} :
    memberValue? m = some e ↔ m.1.text? = some e.1 ∧ m.2.value? = some e.2 := by
  obtain ⟨key, v⟩ := e
  simp [memberValue?, Option.bind_eq_some_iff]

theorem memberValues?_eq (members : List (Quoted × Json)) :
    memberValues? members = members.mapM memberValue? := by
  induction members with
  | nil => rfl
  | cons m rest ih =>
    rw [memberValues?, ih, List.mapM_cons]
    cases hk : m.1.text? <;> cases hv : m.2.value? <;> simp [memberValue?, hk, hv]

theorem value?_array_eq_some {items : List Json} {v : Value} :
    (Json.array items).value? = some v ↔
      ∃ vs, List.Forall₂ (fun j w => j.value? = some w) items vs ∧ v = .array vs := by
  rw [value?, itemValues?_eq, Option.map_eq_some_iff]
  exact exists_congr fun vs => and_congr mapM_eq_some_iff eq_comm

theorem value?_object_eq_some {members : List (Quoted × Json)} {v : Value} :
    (Json.object members).value? = some v ↔
      ∃ entries : List (String × Value),
        List.Forall₂ (fun m e => m.1.text? = some e.1 ∧ m.2.value? = some e.2) members entries ∧
          v = .object (entries.foldl (fun sorted e => insertEntry e.1 e.2 sorted) []) := by
  rw [value?, memberValues?_eq, Option.map_eq_some_iff]
  refine exists_congr fun entries => and_congr ?_ eq_comm
  simp only [mapM_eq_some_iff, memberValue?_eq_some]

end Json

/-! ## Keeping and reading again

Two inductions over a text, for the invariant and for the depth, and one over a value, which uses
the invariant.  In the last one the members are in order already, so that putting them in order
changes nothing. -/

/-- What two lists have in common place by place holds of each part of the second for some part of
the first. -/
theorem exists_of_forall₂ {α β : Type} {R : α → β → Prop} {as : List α} {bs : List β}
    (h : List.Forall₂ R as bs) {b : β} (hb : b ∈ bs) : ∃ a ∈ as, R a b := by
  induction h with
  | nil => exact absurd hb List.not_mem_nil
  | cons hR _ ih =>
    rcases List.mem_cons.1 hb with rfl | hb
    · exact ⟨_, List.mem_cons_self, hR⟩
    · obtain ⟨a, ha, hR⟩ := ih hb
      exact ⟨a, List.mem_cons_of_mem _ ha, hR⟩

namespace Json

/-- What is kept is sorted. -/
theorem sorted_of_value? {j : Json} {v : Value} (h : j.value? = some v) : v.Sorted := by
  induction j using Json.induct generalizing v with
  | null => cases h; exact .null
  | bool b => cases h; exact .bool b
  | number n =>
    obtain ⟨m, -, rfl⟩ := Option.map_eq_some_iff.1 h
    exact .number m
  | string s =>
    obtain ⟨t, -, rfl⟩ := Option.map_eq_some_iff.1 h
    exact .string t
  | array items ih =>
    obtain ⟨vs, hvs, rfl⟩ := value?_array_eq_some.1 h
    refine .array fun w hw => ?_
    obtain ⟨j, hj, hkept⟩ := exists_of_forall₂ hvs hw
    exact ih j hj hkept
  | object members ih =>
    -- a member that is replaced by a later one of its key is sorted too, and not told apart
    obtain ⟨entries, hentries, rfl⟩ := value?_object_eq_some.1 h
    refine Value.Sorted.ofMembers fun e he => ?_
    obtain ⟨m, hm, -, hkept⟩ := exists_of_forall₂ hentries he
    exact ih m hm hkept

/-- What is kept is nested no deeper than the text it is kept of. -/
theorem depth_json_le {j : Json} {v : Value} (h : j.value? = some v) : v.json.depth ≤ j.depth := by
  induction j using Json.induct generalizing v with
  | null => cases h; exact Nat.le_refl _
  | bool b => cases h; exact Nat.le_refl _
  | number n =>
    obtain ⟨m, -, rfl⟩ := Option.map_eq_some_iff.1 h
    exact Nat.le_refl _
  | string s =>
    obtain ⟨t, -, rfl⟩ := Option.map_eq_some_iff.1 h
    exact Nat.le_refl _
  | array items ih =>
    obtain ⟨vs, hvs, rfl⟩ := value?_array_eq_some.1 h
    rw [Value.json, Value.jsonOfItems_eq, depth, depth, Nat.add_le_add_iff_right,
      depthOfItems_le_iff]
    refine List.forall_mem_map.2 fun w hw => ?_
    obtain ⟨j, hj, hkept⟩ := exists_of_forall₂ hvs hw
    exact Nat.le_trans (ih j hj hkept) (depthOfItems_le_iff.1 (Nat.le_refl _) j hj)
  | object members ih =>
    obtain ⟨entries, hentries, rfl⟩ := value?_object_eq_some.1 h
    rw [Value.json, Value.jsonOfMembers_eq, depth, depth, Nat.add_le_add_iff_right,
      depthOfMembers_le_iff]
    refine List.forall_mem_map.2 fun e he => ?_
    rcases mem_of_mem_foldl_insertEntry he with he | he
    · exact absurd he List.not_mem_nil
    · obtain ⟨m, hm, -, hkept⟩ := exists_of_forall₂ hentries he
      exact Nat.le_trans (ih m hm hkept) (depthOfMembers_le_iff.1 (Nat.le_refl _) m hm)

end Json

/-- **A sorted value is kept as it is when it is read again.** -/
theorem Value.value?_json {v : Value} (h : v.Sorted) : v.json.value? = some v := by
  induction h with
  | null => rfl
  | bool b => rfl
  | number n => rfl
  | string s => rfl
  | @array items _ ih =>
    rw [json, jsonOfItems_eq, Json.value?, Json.itemValues?_eq, mapM_map_eq_some ih]
    rfl
  | @object members hincreasing _ ih =>
    have hmembers : (members.map fun m => (Quoted.ofText m.1, m.2.json)).mapM
        Json.memberValue? = some members :=
      mapM_map_eq_some fun m hm => Json.memberValue?_eq_some.2 ⟨rfl, ih m hm⟩
    rw [json, jsonOfMembers_eq, Json.value?, Json.memberValues?_eq, hmembers, Option.map_some,
      foldl_insertEntry_of_increasing hincreasing]

/-! ## Numbers

Numbers beyond the largest double are part of a text but of no value.  Nothing that is kept has one
in it, and every number of a value is one of the text. -/

namespace Json

mutual

/-- The numbers that a text holds, those beyond the largest double left out. -/
def numbers : Json → List Number
  | .number n => n.toList
  | .array items => numbersOfItems items
  | .object members => numbersOfMembers members
  | _ => []

def numbersOfItems : List Json → List Number
  | [] => []
  | j :: rest => numbers j ++ numbersOfItems rest

def numbersOfMembers : List (Quoted × Json) → List Number
  | [] => []
  | (_, j) :: rest => numbers j ++ numbersOfMembers rest

end

theorem mem_numbers_array {n : Number} {items : List Json} :
    n ∈ (Json.array items).numbers ↔ ∃ j ∈ items, n ∈ j.numbers := by
  rw [numbers]
  induction items with
  | nil => simp [numbersOfItems]
  | cons j rest ih => simp [numbersOfItems, ih]

theorem mem_numbers_object {n : Number} {members : List (Quoted × Json)} :
    n ∈ (Json.object members).numbers ↔ ∃ m ∈ members, n ∈ m.2.numbers := by
  rw [numbers]
  induction members with
  | nil => simp [numbersOfMembers]
  | cons m rest ih => simp only [numbersOfMembers, List.mem_append, ih, List.exists_mem_cons_iff]

/-- Every number that is kept is one of the text. -/
theorem mem_numbers_of_value? {j : Json} {v : Value} (h : j.value? = some v) {n : Number}
    (hn : n ∈ v.numbers) : n ∈ j.numbers := by
  induction j using Json.induct generalizing v with
  | null => cases h; exact hn
  | bool b => cases h; exact hn
  | number m =>
    obtain ⟨m, rfl, rfl⟩ := Option.map_eq_some_iff.1 h
    exact hn
  | string s =>
    obtain ⟨t, -, rfl⟩ := Option.map_eq_some_iff.1 h
    exact hn
  | array items ih =>
    obtain ⟨vs, hvs, rfl⟩ := value?_array_eq_some.1 h
    obtain ⟨w, hw, hn⟩ := Value.mem_numbers_array.1 hn
    obtain ⟨j, hj, hkept⟩ := exists_of_forall₂ hvs hw
    exact mem_numbers_array.2 ⟨j, hj, ih j hj hkept hn⟩
  | object members ih =>
    obtain ⟨entries, hentries, rfl⟩ := value?_object_eq_some.1 h
    obtain ⟨e, he, hn⟩ := Value.mem_numbers_object.1 hn
    rcases mem_of_mem_foldl_insertEntry he with he | he
    · exact absurd he List.not_mem_nil
    · obtain ⟨m, hm, -, hkept⟩ := exists_of_forall₂ hentries he
      exact mem_numbers_object.2 ⟨m, hm, ih m hm hkept hn⟩

end Json
end QueryRights
