import QueryRights.Text.Order

/-!
# Tables

A table holds at most one entry for each key, in increasing order of the keys.  The order is part
of the type, so two tables with the same entries are equal, and what is written from a table is
always sorted.

## What is here

* `Table κ ν`, `Table.insert`, `Table.ofList` (a later entry replaces an earlier one of the same
  key), `Table.find?`.
* `insertEntry`, `findEntry`: the same on plain lists, for types that cannot carry the proof.
* `find?_insert`: the one equation that says what an insertion does to every look-up, and
  `find?_eq_some_iff`, which says what a look-up gives.
* `foldl_insertEntry_of_increasing`: entries that are sorted already stay as they are.
* `NameSet`: a set of texts, `contains_ofNames`: which texts it holds, and `ofNames_keys`: it is
  made from its own names.
-/

set_option autoImplicit false

namespace QueryRights

open KeyOrder

variable {κ ν : Type} [KeyOrder κ]

/-- Puts an entry into a list sorted by key; an entry with the same key is replaced. -/
def insertEntry (k : κ) (v : ν) : List (κ × ν) → List (κ × ν)
  | [] => [(k, v)]
  | e :: rest =>
    if before k e.1 then (k, v) :: e :: rest
    else if before e.1 k then e :: insertEntry k v rest
    else (k, v) :: rest

/-- The value of the first entry with the given key. -/
def findEntry [DecidableEq κ] (j : κ) : List (κ × ν) → Option ν
  | [] => none
  | e :: rest => if j = e.1 then some e.2 else findEntry j rest

/-- The keys of a list of entries strictly increase. -/
def Increasing (entries : List (κ × ν)) : Prop :=
  entries.Pairwise (fun a b => before a.1 b.1 = true)

theorem mem_of_mem_insertEntry {k : κ} {v : ν} {e : κ × ν} {entries : List (κ × ν)}
    (h : e ∈ insertEntry k v entries) : e = (k, v) ∨ e ∈ entries := by
  induction entries with
  | nil => simpa [insertEntry] using h
  | cons d rest ih =>
    rw [insertEntry] at h
    split at h
    · exact List.mem_cons.1 h
    · split at h
      · rcases List.mem_cons.1 h with h | h
        · exact .inr (h ▸ List.mem_cons_self)
        · exact (ih h).imp_right (List.mem_cons_of_mem _)
      · rcases List.mem_cons.1 h with h | h
        · exact .inl h
        · exact .inr (List.mem_cons_of_mem _ h)

theorem Increasing.insertEntry (k : κ) (v : ν) {entries : List (κ × ν)}
    (h : Increasing entries) : Increasing (insertEntry k v entries) := by
  induction entries with
  | nil => exact List.pairwise_singleton _ _
  | cons d rest ih =>
    have hd := List.pairwise_cons.1 h
    rw [QueryRights.insertEntry]
    split
    · rename_i hkd
      refine List.pairwise_cons.2 ⟨fun e he => ?_, h⟩
      rcases List.mem_cons.1 he with rfl | he
      · exact hkd
      · exact before_trans _ _ _ hkd (hd.1 e he)
    · split
      · rename_i hdk
        refine List.pairwise_cons.2 ⟨fun e he => ?_, ih hd.2⟩
        rcases mem_of_mem_insertEntry he with rfl | he
        · exact hdk
        · exact hd.1 e he
      · rename_i hkd hdk
        have hk : k = d.1 := eq_of_unordered _ _ (by simpa using hkd) (by simpa using hdk)
        exact List.pairwise_cons.2 ⟨fun e he => hk ▸ hd.1 e he, hd.2⟩

/-- An entry after all others goes to the end. -/
theorem insertEntry_of_last {k : κ} (v : ν) {entries : List (κ × ν)}
    (h : ∀ e ∈ entries, before e.1 k = true) : insertEntry k v entries = entries ++ [(k, v)] := by
  induction entries with
  | nil => rfl
  | cons d rest ih =>
    have hdk : before d.1 k = true := h d List.mem_cons_self
    rw [insertEntry, before_asymm hdk, if_neg Bool.false_ne_true, if_pos hdk,
      ih fun e he => h e (List.mem_cons_of_mem _ he)]
    rfl

theorem mem_of_mem_foldl_insertEntry {e : κ × ν} {entries sorted : List (κ × ν)}
    (h : e ∈ entries.foldl (fun sorted e => insertEntry e.1 e.2 sorted) sorted) :
    e ∈ sorted ∨ e ∈ entries := by
  induction entries generalizing sorted with
  | nil => exact .inl h
  | cons d rest ih =>
    rcases ih h with h | h
    · rcases mem_of_mem_insertEntry h with rfl | h
      · exact .inr List.mem_cons_self
      · exact .inl h
    · exact .inr (List.mem_cons_of_mem _ h)

theorem Increasing.foldl_insertEntry {sorted : List (κ × ν)} (h : Increasing sorted)
    (entries : List (κ × ν)) :
    Increasing (entries.foldl (fun sorted e => QueryRights.insertEntry e.1 e.2 sorted) sorted) := by
  induction entries generalizing sorted with
  | nil => exact h
  | cons d rest ih => exact ih (h.insertEntry d.1 d.2)

/-- Other values for the same keys are in the same order. -/
theorem Increasing.mapValues {μ : Type} {entries : List (κ × ν)} (h : Increasing entries)
    (f : ν → μ) : Increasing (entries.map fun e => (e.1, f e.2)) :=
  List.pairwise_map.2 h

/-- Entries that are sorted already are put behind the others one after the other. -/
theorem foldl_insertEntry_of_append {sorted entries : List (κ × ν)}
    (h : Increasing (sorted ++ entries)) :
    entries.foldl (fun sorted e => insertEntry e.1 e.2 sorted) sorted = sorted ++ entries := by
  induction entries generalizing sorted with
  | nil => exact (List.append_nil _).symm
  | cons d rest ih =>
    have hd : ∀ e ∈ sorted, before e.1 d.1 = true := fun e he =>
      (List.pairwise_append.1 h).2.2 e he d List.mem_cons_self
    rw [List.append_cons] at h ⊢
    rw [List.foldl_cons, insertEntry_of_last d.2 hd]
    exact ih h

/-- Entries that are sorted already stay as they are. -/
theorem foldl_insertEntry_of_increasing {entries : List (κ × ν)} (h : Increasing entries) :
    entries.foldl (fun sorted e => insertEntry e.1 e.2 sorted) [] = entries :=
  foldl_insertEntry_of_append h

omit [KeyOrder κ] in
theorem mem_of_findEntry [DecidableEq κ] {k : κ} {v : ν} {entries : List (κ × ν)}
    (h : findEntry k entries = some v) : (k, v) ∈ entries := by
  induction entries with
  | nil => exact absurd h (by simp [findEntry])
  | cons e rest ih =>
    rw [findEntry] at h
    split at h
    · rename_i hk
      cases h
      exact hk ▸ List.mem_cons_self
    · exact List.mem_cons_of_mem _ (ih h)

omit [KeyOrder κ] in
/-- An entry is found if it is the only one with its key. -/
theorem findEntry_of_mem [DecidableEq κ] {k : κ} {v : ν} {entries : List (κ × ν)}
    (hnodup : (entries.map (·.1)).Nodup) (h : (k, v) ∈ entries) :
    findEntry k entries = some v := by
  induction entries with
  | nil => exact absurd h List.not_mem_nil
  | cons e rest ih =>
    obtain ⟨hnew, hrest⟩ := List.nodup_cons.1 hnodup
    rw [findEntry]
    rcases List.mem_cons.1 h with rfl | h
    · exact if_pos rfl
    · have hne : k ≠ e.1 := fun hk => hnew (List.mem_map.2 ⟨_, h, hk⟩)
      rw [if_neg hne, ih hrest h]

theorem Increasing.nodup_keys {entries : List (κ × ν)} (h : Increasing entries) :
    (entries.map (·.1)).Nodup :=
  List.pairwise_map.2 (h.imp fun hab => ne_of_before hab)

/-- An insertion changes the look-up of its own key and no other. -/
theorem findEntry_insertEntry [DecidableEq κ] (k : κ) (v : ν) (j : κ) (entries : List (κ × ν)) :
    findEntry j (insertEntry k v entries) = if j = k then some v else findEntry j entries := by
  induction entries with
  | nil => rfl
  | cons d rest ih =>
    rw [insertEntry]
    split
    · rfl
    · rename_i hkd
      split
      · rename_i hdk
        have hne : d.1 ≠ k := ne_of_before hdk
        by_cases h : j = d.1
        · subst h
          simp [findEntry, hne]
        · simp [findEntry, h, ih]
      · rename_i hdk
        have hk : k = d.1 := eq_of_unordered _ _ (by simpa using hkd) (by simpa using hdk)
        by_cases h : j = k
        · simp [findEntry, h]
        · simp [findEntry, hk, hk ▸ h]

/-- Entries with distinct keys, in increasing order of the keys. -/
structure Table (κ ν : Type) [KeyOrder κ] where
  /-- The entries, sorted by key. -/
  entries : List (κ × ν)
  increasing : Increasing entries

namespace Table

@[ext] theorem ext {s t : Table κ ν} (h : s.entries = t.entries) : s = t := by
  cases s; cases t; cases h; rfl

instance [DecidableEq κ] [DecidableEq ν] : DecidableEq (Table κ ν) := fun s t =>
  decidable_of_iff (s.entries = t.entries) ⟨ext, fun h => h ▸ rfl⟩

/-- The table without entries. -/
def empty : Table κ ν := ⟨[], List.Pairwise.nil⟩

instance : Inhabited (Table κ ν) := ⟨empty⟩

/-- The table with one more entry, which replaces an entry of the same key. -/
def insert (t : Table κ ν) (k : κ) (v : ν) : Table κ ν :=
  ⟨insertEntry k v t.entries, t.increasing.insertEntry k v⟩

/-- The table of a list of entries; of two entries with one key the later counts. -/
def ofList (entries : List (κ × ν)) : Table κ ν :=
  entries.foldl (fun t e => t.insert e.1 e.2) empty

/-- What the table holds for a key. -/
def find? [DecidableEq κ] (t : Table κ ν) (k : κ) : Option ν := findEntry k t.entries

/-- The keys, in increasing order. -/
def keys (t : Table κ ν) : List κ := t.entries.map (·.1)

/-- Whether the table has an entry for the key. -/
def contains [DecidableEq κ] (t : Table κ ν) (k : κ) : Bool := (t.find? k).isSome

/-- **An insertion into a table changes the look-up of its own key and no other.** -/
@[simp] theorem find?_insert [DecidableEq κ] (t : Table κ ν) (k : κ) (v : ν) (j : κ) :
    (t.insert k v).find? j = if j = k then some v else t.find? j :=
  findEntry_insertEntry k v j t.entries

/-- What a table holds for a key is its entry with that key. -/
theorem find?_eq_some_iff [DecidableEq κ] {t : Table κ ν} {k : κ} {v : ν} :
    t.find? k = some v ↔ (k, v) ∈ t.entries :=
  ⟨mem_of_findEntry, findEntry_of_mem t.increasing.nodup_keys⟩

theorem entries_foldl_insert (entries : List (κ × ν)) (t : Table κ ν) :
    (entries.foldl (fun t e => t.insert e.1 e.2) t).entries =
      entries.foldl (fun sorted e => insertEntry e.1 e.2 sorted) t.entries := by
  induction entries generalizing t with
  | nil => rfl
  | cons e rest ih => exact ih (t.insert e.1 e.2)

/-- A table is made from its own entries. -/
theorem ofList_entries (t : Table κ ν) : ofList t.entries = t := by
  refine ext ?_
  rw [ofList, entries_foldl_insert]
  exact foldl_insertEntry_of_increasing t.increasing

@[simp] theorem find?_empty [DecidableEq κ] (k : κ) : (empty : Table κ ν).find? k = none := rfl

end Table

/-- A set of texts, sorted by code point. -/
abbrev NameSet := Table String Unit

namespace NameSet

/-- The set of the names in a list. -/
def ofNames (names : List String) : NameSet :=
  names.foldl (fun s n => s.insert n ()) Table.empty

theorem find?_foldl_insert (names : List String) (s : NameSet) (n : String) :
    (names.foldl (fun s n => s.insert n ()) s).find? n =
      if n ∈ names then some () else s.find? n := by
  induction names generalizing s with
  | nil => simp
  | cons m rest ih =>
    rw [List.foldl_cons, ih]
    by_cases h : n ∈ rest <;> by_cases hm : n = m <;> simp [h, hm]

/-- A set is made from its own names. -/
theorem ofNames_keys (s : NameSet) : ofNames s.keys = s := by
  have hnames : ofNames s.keys = Table.ofList s.entries := by
    rw [ofNames, Table.keys, List.foldl_map]
    rfl
  rw [hnames, Table.ofList_entries]

/-- A set holds exactly the names of the list that it was made from. -/
@[simp] theorem contains_ofNames (names : List String) (n : String) :
    (ofNames names).contains n = decide (n ∈ names) := by
  unfold Table.contains ofNames
  rw [find?_foldl_insert]
  by_cases h : n ∈ names <;> simp [h]

end NameSet

end QueryRights
