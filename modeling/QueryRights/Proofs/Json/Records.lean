import Mathlib.Data.List.Nodup
import QueryRights.Json.Record
import QueryRights.Proofs.Json.Kept

/-!
# Fields of records

A record is read from entries by the names of its fields, and it is refused only for a field that
is given more than once.  So what is read for one field depends on nothing but the entries under
its own names.

The reader of a record does not work by fields.  It renames the entries, drops those that it does
not know, looks for a name that occurs twice, and then takes the first entry under the name of a
field.  What a field gets out of this is `Shape.given`: the parts that stand under its names, in
their order.  Everything the reader does can be said with that.  Entries are refused when some
field is given more than one part (`ofEntries?_eq_some_iff`), and what is read for a field is the
first of its parts, so the only one (`get?_known`).  No other entry plays a role, whether it is
known or not.

That is true of any kind of entries.  Objects of a JSON text have keys that may denote no text;
such an object is refused before its entries are looked at, even if the key is none of a field.  So
what is said of objects here is said of those whose keys are texts.  One member can be taken out of
them and replaced by another, and the entries before and after it remain as they are.

Records that were written are simple again.  All fields are there, in order, under their own names.
That they are read as they are needs no more than that a name stands for its own field, and no two
fields have the same name.  For a given shape that can be decided (`Shape.Proper`).

## What is here

* `Shape.given`: what entries give for a field, and `Record.ofEntries?_eq_some_iff`,
  `Record.get?_known`: when entries are refused, and what is read for a field.
* `Shape.given_of_not_mem` and `Record.given_ofNames_eq_nil`: when nothing is given for a field.
* `Record.keyed?_replace`: the entries of an object in which one member is replaced.
* `Record.mem_numbers_of_get?`: the numbers in a field are numbers of the text.
* `Shape.Proper`: every field is found under its own name, and `Record.ofJson?_written`: a record
  that was written with all its fields in order is read field by field.
-/

set_option autoImplicit false

namespace QueryRights

variable {α : Type}

namespace Shape

/-- What entries give for a field, in their order. -/
def given (s : Shape) (name : String) (entries : List (String × α)) : List α :=
  entries.filterMap fun e => if s.fieldOf? e.1 = some name then some e.2 else none

theorem given_cons (s : Shape) (name : String) (e : String × α) (entries : List (String × α)) :
    s.given name (e :: entries) =
      if s.fieldOf? e.1 = some name then e.2 :: s.given name entries else s.given name entries := by
  unfold given
  split <;> rename_i h
  · exact List.filterMap_cons_some (if_pos h)
  · exact List.filterMap_cons_none (if_neg h)

theorem given_append (s : Shape) (name : String) (first last : List (String × α)) :
    s.given name (first ++ last) = s.given name first ++ s.given name last :=
  List.filterMap_append

theorem given_of_not_mem {s : Shape} {name : String} (h : name ∉ s.fields.map (·.1))
    (entries : List (String × α)) : s.given name entries = [] := by
  rw [given, List.filterMap_eq_nil_iff]
  intro e _
  refine if_neg fun hfield => h ?_
  obtain ⟨f, hf, rfl⟩ := Option.map_eq_some_iff.1 hfield
  exact List.mem_map_of_mem (List.mem_of_find?_eq_some hf)

/-- A key is a name itself if fields have one name each. -/
theorem eq_of_fieldOf?_ofNames {names : List String} {key name : String}
    (h : (ofNames names).fieldOf? key = some name) : key = name := by
  obtain ⟨f, hf, rfl⟩ := Option.map_eq_some_iff.1 h
  have hfound := List.find?_some hf
  obtain ⟨n, -, rfl⟩ := List.mem_map.1 (List.mem_of_find?_eq_some hf)
  simpa [eq_comm] using hfound

/-- The names of the fields, each found by itself and none twice. -/
structure Proper (s : Shape) : Prop where
  nodup : (s.fields.map (·.1)).Nodup
  found : ∀ name ∈ s.fields.map (·.1), s.fieldOf? name = some name

instance (s : Shape) : Decidable s.Proper :=
  decidable_of_iff ((s.fields.map (·.1)).Nodup ∧
      ∀ name ∈ s.fields.map (·.1), s.fieldOf? name = some name)
    ⟨fun h => ⟨h.1, h.2⟩, fun h => ⟨h.nodup, h.found⟩⟩

end Shape

namespace Record

/-! ## Entries

The passage from what the reader does, entry by entry, to what is given for each field. -/

theorem known_cons_of_none {s : Shape} {e : String × α} (h : s.fieldOf? e.1 = none)
    (entries : List (String × α)) : known s (e :: entries) = known s entries := by
  rw [known, List.filterMap_cons_none (by rw [h]; rfl)]
  rfl

theorem known_cons_of_some {s : Shape} {e : String × α} {name : String}
    (h : s.fieldOf? e.1 = some name) (entries : List (String × α)) :
    known s (e :: entries) = (name, e.2) :: known s entries := by
  rw [known, List.filterMap_cons_some (by rw [h]; rfl)]
  rfl

/-- **What is read for a field is the first that is given for it.** -/
theorem get?_known (s : Shape) (name : String) (entries : List (String × α)) :
    (known s entries).get? name = (s.given name entries).head? := by
  induction entries with
  | nil => rfl
  | cons e rest ih =>
    rw [Shape.given_cons]
    cases hfield : s.fieldOf? e.1 with
    | none =>
      rw [known_cons_of_none hfield, if_neg (by simp)]
      exact ih
    | some found =>
      rw [known_cons_of_some hfield, get?, findEntry]
      by_cases h : name = found
      · rw [if_pos h, if_pos (by rw [h])]
        rfl
      · rw [if_neg h, if_neg fun heq => h (Option.some.inj heq).symm]
        exact ih

theorem distinct_iff_nodup (r : Record α) : distinct r = true ↔ (r.map (·.1)).Nodup := by
  induction r with
  | nil => simp [distinct]
  | cons e rest ih =>
    rw [distinct, Bool.and_eq_true, ih, List.map_cons, List.nodup_cons, Bool.not_eq_true',
      ← Bool.not_eq_true, List.any_eq_true]
    simp

theorem count_known (s : Shape) (name : String) (entries : List (String × α)) :
    ((known s entries).map (·.1)).count name = (s.given name entries).length := by
  induction entries with
  | nil => rfl
  | cons e rest ih =>
    rw [Shape.given_cons]
    cases hfield : s.fieldOf? e.1 with
    | none => rw [known_cons_of_none hfield, ih, if_neg (by simp)]
    | some found =>
      rw [known_cons_of_some hfield, List.map_cons, List.count_cons, ih]
      by_cases h : found = name <;> simp [h]

/-- **Entries are refused exactly when a field is given more than once.** -/
theorem ofEntries?_eq_some_iff {s : Shape} {entries : List (String × α)} {r : Record α} :
    ofEntries? s entries = some r ↔
      (∀ name, (s.given name entries).length ≤ 1) ∧ r = known s entries := by
  have hdistinct : distinct (known s entries) = true ↔
      ∀ name, (s.given name entries).length ≤ 1 := by
    rw [distinct_iff_nodup, List.nodup_iff_count_le_one]
    simp only [count_known]
  rw [ofEntries?, ← hdistinct]
  split <;> simp [*, eq_comm]

theorem ofJson?_object_eq_some_iff {s : Shape} {members : List (Quoted × Json)}
    {entries : List (String × Json)} (hkeys : keyed? members = some entries) {r : Record Json} :
    ofJson? s (.object members) = some r ↔
      (∀ name, (s.given name entries).length ≤ 1) ∧ r = known s entries := by
  rw [ofJson?, hkeys, Option.bind_eq_bind, Option.bind_some, ofEntries?_eq_some_iff]

/-! ## Parts of a record

Where the parts of a record come from: the members of an object, or the items of an array. -/

theorem mem_of_keyed? {members : List (Quoted × Json)} {entries : List (String × Json)}
    (h : keyed? members = some entries) {e : String × Json} (he : e ∈ entries) :
    ∃ m ∈ members, m.1.text? = some e.1 ∧ m.2 = e.2 := by
  induction members generalizing entries with
  | nil =>
    cases h
    exact absurd he List.not_mem_nil
  | cons m rest ih =>
    obtain ⟨key, hkey, h⟩ := Option.bind_eq_some_iff.1 h
    obtain ⟨more, hmore, h⟩ := Option.bind_eq_some_iff.1 h
    cases h
    rcases List.mem_cons.1 he with rfl | he
    · exact ⟨m, List.mem_cons_self, hkey, rfl⟩
    · obtain ⟨n, hn, heq⟩ := ih hmore he
      exact ⟨n, List.mem_cons_of_mem _ hn, heq⟩

/-- One member of an object is one entry, which may be replaced. -/
theorem keyed?_replace {before after : List (Quoted × Json)} {key : Quoted} {name : String}
    (hkey : key.text? = some name) {j : Json} {entries : List (String × Json)}
    (h : keyed? (before ++ (key, j) :: after) = some entries) :
    ∃ first last, entries = first ++ (name, j) :: last ∧
      ∀ j', keyed? (before ++ (key, j') :: after) = some (first ++ (name, j') :: last) := by
  induction before generalizing entries with
  | nil =>
    rw [List.nil_append, keyed?, hkey, Option.bind_eq_bind, Option.bind_some] at h
    obtain ⟨last, hlast, h⟩ := Option.bind_eq_some_iff.1 h
    cases h
    exact ⟨[], last, rfl, fun j' => by rw [List.nil_append, keyed?, hkey, hlast]; rfl⟩
  | cons m rest ih =>
    obtain ⟨k, hk, h⟩ := Option.bind_eq_some_iff.1 h
    obtain ⟨more, hmore, h⟩ := Option.bind_eq_some_iff.1 h
    cases h
    obtain ⟨first, last, rfl, hreplace⟩ := ih hmore
    refine ⟨(k, m.2) :: first, last, rfl, fun j' => ?_⟩
    rw [List.cons_append, keyed?, hk, hreplace]
    rfl

/-- Nothing is given for a field if its name is not among the keys. -/
theorem given_ofNames_eq_nil {names : List String} {name : String}
    {members : List (Quoted × Json)} {entries : List (String × Json)}
    (hkeys : keyed? members = some entries)
    (h : ∀ m ∈ members, m.1.text? ≠ some name) : (Shape.ofNames names).given name entries = [] := by
  refine List.filterMap_eq_nil_iff.2 fun e he => if_neg fun hfield => ?_
  obtain ⟨m, hm, hkey, -⟩ := mem_of_keyed? hkeys he
  exact h m hm (by rw [hkey, Shape.eq_of_fieldOf?_ofNames hfield])

/-- Every number in a field is one of the text that the record is read from. -/
theorem mem_numbers_of_get? {s : Shape} {j part : Json} {r : Record Json} {name : String}
    (hr : ofJson? s j = some r) (hpart : r.get? name = some part) {n : Number}
    (hn : n ∈ part.numbers) : n ∈ j.numbers := by
  have hmem := mem_of_findEntry hpart
  cases j with
  | object members =>
    obtain ⟨entries, hentries, h⟩ := Option.bind_eq_some_iff.1 hr
    rw [(ofEntries?_eq_some_iff.1 h).2] at hmem
    obtain ⟨e, he, hfield⟩ := List.mem_filterMap.1 hmem
    obtain ⟨found, -, hfield⟩ := Option.map_eq_some_iff.1 hfield
    cases hfield
    obtain ⟨m, hm, -, heq⟩ := mem_of_keyed? hentries he
    exact Json.mem_numbers_object.2 ⟨m, hm, heq ▸ hn⟩
  | array items =>
    rw [ofJson?] at hr
    split at hr
    · cases hr
      exact Json.mem_numbers_array.2 ⟨part, (List.of_mem_zip hmem).2, hn⟩
    · cases hr
  | _ => cases hr

/-! ## Records that were written

Every entry is known under the name that it has, so the record is the list of the entries. -/

theorem keyed?_jsonOfMembers (entries : List (String × Value)) :
    keyed? (Value.jsonOfMembers entries) = some (entries.map fun e => (e.1, e.2.json)) := by
  induction entries with
  | nil => rfl
  | cons e rest ih => rw [Value.jsonOfMembers, keyed?, ih]; rfl

/-- Entries under the names of fields are known as they are. -/
theorem known_of_found {s : Shape} {entries : List (String × α)}
    (h : ∀ e ∈ entries, s.fieldOf? e.1 = some e.1) : known s entries = entries := by
  induction entries with
  | nil => rfl
  | cons e rest ih =>
    obtain ⟨he, hrest⟩ := List.forall_mem_cons.1 h
    rw [known_cons_of_some he, ih hrest]

/-- **A record that was written with all its fields is read field by field.** -/
theorem ofJson?_written {s : Shape} (hs : s.Proper) {entries : List (String × Value)}
    (h : entries.map (·.1) = s.fields.map (·.1)) :
    ofJson? s (Value.object entries).json = some (entries.map fun e => (e.1, e.2.json)) := by
  have hfound : ∀ e ∈ entries.map fun e => (e.1, e.2.json), s.fieldOf? e.1 = some e.1 := by
    refine List.forall_mem_map.2 fun e he => hs.found e.1 ?_
    rw [← h]
    exact List.mem_map_of_mem he
  have hnodup : distinct (entries.map fun e => (e.1, e.2.json)) = true := by
    rw [distinct_iff_nodup, List.map_map]
    exact h ▸ hs.nodup
  rw [Value.json, ofJson?, keyed?_jsonOfMembers, Option.bind_eq_bind, Option.bind_some, ofEntries?,
    known_of_found hfound, if_pos hnodup]

end Record
end QueryRights
