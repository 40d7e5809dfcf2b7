import QueryRights.Proofs.Json.Kept
import QueryRights.Toml.Reader

/-!
# Well-formed documents

An integer of a document has 64 bits with a sign, and one that does not fit refuses the whole
document; and a table is made by insertions, so its keys are sorted and none is there twice.  Both
hold at any depth, however the tables came to be: inline, by headers or by dotted keys.

`Toml.Item` could express more than documents can say.  An item that is made up could have any
integer in it, and a table whose keys are in any order.  What is kept of a setting depends on both:
`Item.value` sorts the tables of an item, which loses an entry if a key is there twice, and an
integer that does not fit would be written to a text as a number that is read otherwise.
`Item.WellFormed` is what rules this out, and the work of this file is to show that whatever is
read has it.

That follows the reader from the inside to the outside.  A number is checked against its bounds as
soon as it is scanned.  The scanners of items, arrays and inline tables call one another and are
bounded by the number of calls, so one statement about all three is carried along that number
(`ScansWellFormed`).  Statements are then executed on a tree of tables under construction, whose
nodes remember how they came to be, and this tree needs an invariant of its own: a node is a table
that may still grow, or a series of tables of which the last one may.  All three operations on it
go down a path and change the table at its end, so they share `Node.alter`, and the invariant is
proved for that once.

In the end a document is well-formed, and nothing of a well-formed item is lost when it is kept.
`Item.KeptAs` says the latter place by place.  It is a relation between items and values that knows
nothing of sorting, because in a well-formed item there is nothing left to sort.

## What is here

* `Toml.Item.WellFormed`: the integers in an item fit and its tables are sorted.
* `scanNumber_wellFormed`, and `scansWellFormed`: what the scanners take off the front of a text.
* `Toml.Node.TableWellFormed` and its one lemma for each operation on tables under construction.
* `Toml.Document.wellFormed_of_ofText?`: **documents are well-formed**.
* `Toml.Item.KeptAs` and `Toml.Item.WellFormed.keptAs_value`: what is kept of an item is the item
  itself, place by place, except for the values that JSON lacks.
-/

set_option autoImplicit false

namespace QueryRights

namespace Toml

/-- All integers in an item have 64 bits with a sign, and all its tables are sorted. -/
inductive Item.WellFormed : Item → Prop where
  | string (s : String) : WellFormed (.string s)
  | integer {n : Int} (fits : Word.FitsSigned n) : WellFormed (.integer n)
  | float (x : Option Double) : WellFormed (.float x)
  | bool (b : Bool) : WellFormed (.bool b)
  | moment (text : String) : WellFormed (.moment text)
  | array {items : List Item} (parts : ∀ i ∈ items, WellFormed i) : WellFormed (.array items)
  | table {entries : List (String × Item)} (increasing : Increasing entries)
      (parts : ∀ e ∈ entries, WellFormed e.2) : WellFormed (.table entries)

/-! ## Numbers

Integers are written in four bases, with a sign in the decimal one only, and all of them end in
`integerItem?`, which is where the bound is checked. -/

theorem integerItem?_wellFormed {n : Int} {i : Item} (h : integerItem? n = some i) :
    i.WellFormed := by
  rw [integerItem?] at h
  split at h
  · rename_i hfits
    cases h
    exact .integer hfits
  · cases h

theorem floatItem?_wellFormed {negative : Bool} {digits : List Char} {exponent : Int} {i : Item}
    (h : floatItem? negative digits exponent = some i) : i.WellFormed := by
  rw [floatItem?] at h
  split at h
  · cases h
    exact .float _
  · split at h
    · cases h
      exact .float _
    · cases h

theorem scanBase_wellFormed {base : Nat} {s rest : List Char} {i : Item}
    (h : scanBase base s = some (i, rest)) : i.WellFormed := by
  obtain ⟨⟨ds, t⟩, -, h⟩ := Option.bind_eq_some_iff.1 h
  obtain ⟨j, hj, h⟩ := Option.bind_eq_some_iff.1 h
  cases h
  exact integerItem?_wellFormed hj

theorem scanNumber_wellFormed {s rest : List Char} {i : Item}
    (h : scanNumber s = some (i, rest)) : i.WellFormed := by
  unfold scanNumber at h
  split at h
  · obtain ⟨j, hj, h⟩ := Option.map_eq_some_iff.1 h
    cases h
    exact floatItem?_wellFormed hj
  · split at h
    · cases h
      exact .float _
    · split at h
      · exact scanBase_wellFormed h
      · exact scanBase_wellFormed h
      · exact scanBase_wellFormed h
      · obtain ⟨⟨⟨negative, ds⟩, t⟩, -, h⟩ := Option.bind_eq_some_iff.1 h
        obtain ⟨j, hj, h⟩ := Option.bind_eq_some_iff.1 h
        cases h
        exact integerItem?_wellFormed hj

/-! ## Tables under construction

The invariant of the tree, and that every way to change the tree keeps it.  Two forms of it are
needed: as an inductive predicate on nodes, for the recursion, and as a structure about the entries
of one table, for the operations. -/

/-- All integers in a node have 64 bits with a sign, and all its tables are sorted. -/
inductive Node.WellFormed : Node → Prop where
  | leaf {i : Item} (item : i.WellFormed) : WellFormed (.leaf i)
  | table {origin : Origin} {entries : List (String × Node)} (increasing : Increasing entries)
      (parts : ∀ e ∈ entries, WellFormed e.2) : WellFormed (.table origin entries)
  | series {elements : List (List (String × Node))}
      (increasing : ∀ entries ∈ elements, Increasing entries)
      (parts : ∀ entries ∈ elements, ∀ e ∈ entries, WellFormed e.2) :
      WellFormed (.series elements)

namespace Node

/-- A sorted table of well-formed nodes. -/
structure TableWellFormed (entries : List (String × Node)) : Prop where
  increasing : Increasing entries
  parts : ∀ e ∈ entries, e.2.WellFormed

/-- What a key of a well-formed table leads to. -/
theorem TableWellFormed.found {entries : List (String × Node)} (h : TableWellFormed entries)
    {k : String} {n : Node} (hfound : findEntry k entries = some n) : n.WellFormed :=
  h.parts _ (mem_of_findEntry hfound)

theorem WellFormed.entries {origin : Origin} {entries : List (String × Node)}
    (h : (Node.table origin entries).WellFormed) : TableWellFormed entries := by
  cases h with
  | table hincreasing hparts => exact ⟨hincreasing, hparts⟩

theorem WellFormed.elements {elements : List (List (String × Node))}
    (h : (Node.series elements).WellFormed) : ∀ entries ∈ elements, TableWellFormed entries := by
  cases h with
  | series hincreasing hparts =>
    exact fun entries hentries => ⟨hincreasing entries hentries, hparts entries hentries⟩

theorem WellFormed.ofElements {elements : List (List (String × Node))}
    (h : ∀ entries ∈ elements, TableWellFormed entries) : (Node.series elements).WellFormed :=
  .series (fun entries hentries => (h entries hentries).increasing)
    fun entries hentries => (h entries hentries).parts

namespace TableWellFormed

theorem nil : TableWellFormed [] := ⟨List.Pairwise.nil, fun _ h => absurd h List.not_mem_nil⟩

theorem insertEntry {entries : List (String × Node)} (h : TableWellFormed entries) (k : String)
    {n : Node} (hn : n.WellFormed) : TableWellFormed (insertEntry k n entries) := by
  refine ⟨h.increasing.insertEntry k n, fun e he => ?_⟩
  rcases mem_of_mem_insertEntry he with rfl | he
  · exact hn
  · exact h.parts e he

/-- A change that keeps tables well-formed does so at the end of any path. -/
theorem alter {dotted : Bool}
    {change : Origin → List (String × Node) → Option (List (String × Node))}
    (hchange : ∀ origin entries changed, TableWellFormed entries →
      change origin entries = some changed → TableWellFormed changed)
    {path : List String} {origin : Origin} {entries changed : List (String × Node)}
    (h : TableWellFormed entries)
    (halter : Node.alter dotted change path origin entries = some changed) :
    TableWellFormed changed := by
  -- on the path, and not on the table: a step down the path may enter a table that is new
  induction path generalizing origin entries changed with
  | nil => exact hchange origin entries changed h halter
  | cons k path ih =>
    rw [Node.alter] at halter
    split at halter
    · obtain ⟨inner, hinner, rfl⟩ := Option.map_eq_some_iff.1 halter
      have hnew : TableWellFormed inner := ih nil hinner
      exact h.insertEntry k (.table hnew.increasing hnew.parts)
    · cases halter
    · rename_i origin found hfound
      split at halter
      · cases halter
      · obtain ⟨inner, hinner, rfl⟩ := Option.map_eq_some_iff.1 halter
        have hnew : TableWellFormed inner := ih (h.found hfound).entries hinner
        exact h.insertEntry k (.table hnew.increasing hnew.parts)
    · rename_i elements hfound
      split at halter
      · cases halter
      · rename_i last hlast
        obtain ⟨inner, hinner, rfl⟩ := Option.map_eq_some_iff.1 halter
        have helements := (h.found hfound).elements
        have hnew : TableWellFormed inner :=
          ih (helements last (List.mem_of_getLast? hlast)) hinner
        refine h.insertEntry k (.ofElements fun entries hentries => ?_)
        rcases List.mem_append.1 hentries with hentries | hentries
        · exact helements entries (List.dropLast_subset elements hentries)
        · exact List.mem_singleton.1 hentries ▸ hnew

theorem assign {path : List String} {key : String} {i : Item}
    {entries changed : List (String × Node)} (h : TableWellFormed entries) (hi : i.WellFormed)
    (hassign : Node.assign path key i entries = some changed) : TableWellFormed changed := by
  refine h.alter (fun origin entries changed hentries hchange => ?_) hassign
  split at hchange
  · cases hchange
  · split at hchange
    · cases hchange
      exact hentries.insertEntry key (.leaf hi)
    · cases hchange

theorem openTable {path : List String} {key : String}
    {entries changed : List (String × Node)} (h : TableWellFormed entries)
    (hopen : Node.openTable path key entries = some changed) : TableWellFormed changed := by
  refine h.alter (fun origin entries changed hentries hchange => ?_) hopen
  split at hchange
  · cases hchange
    exact hentries.insertEntry key (.table nil.increasing nil.parts)
  · rename_i inner hfound
    cases hchange
    have hinner := (hentries.found hfound).entries
    exact hentries.insertEntry key (.table hinner.increasing hinner.parts)
  · cases hchange

theorem openElement {path : List String} {key : String}
    {entries changed : List (String × Node)} (h : TableWellFormed entries)
    (hopen : Node.openElement path key entries = some changed) : TableWellFormed changed := by
  refine h.alter (fun origin entries changed hentries hchange => ?_) hopen
  split at hchange
  · cases hchange
    refine hentries.insertEntry key (.ofElements fun inner hinner => ?_)
    exact List.mem_singleton.1 hinner ▸ nil
  · rename_i elements hfound
    cases hchange
    refine hentries.insertEntry key (.ofElements fun inner hinner => ?_)
    rcases List.mem_append.1 hinner with hinner | hinner
    · exact (hentries.found hfound).elements inner hinner
    · exact List.mem_singleton.1 hinner ▸ nil
  · cases hchange

end TableWellFormed

theorem itemEntries_eq (entries : List (String × Node)) :
    itemEntries entries = entries.map fun e => (e.1, e.2.item) := by
  induction entries with
  | nil => rfl
  | cons e rest ih => rw [itemEntries, ih, List.map_cons]

theorem itemElements_eq (elements : List (List (String × Node))) :
    itemElements elements = elements.map fun entries => .table (itemEntries entries) := by
  induction elements with
  | nil => rfl
  | cons entries rest ih => rw [itemElements, ih, List.map_cons]

/-- The finished value of a node. -/
theorem WellFormed.item {n : Node} (h : n.WellFormed) : n.item.WellFormed := by
  induction h with
  | leaf hi => exact hi
  | table hincreasing _ ih =>
    rw [Node.item, itemEntries_eq]
    exact .table (hincreasing.mapValues _) (List.forall_mem_map.2 ih)
  | series hincreasing _ ih =>
    rw [Node.item, itemElements_eq]
    refine .array (List.forall_mem_map.2 fun entries hentries => ?_)
    rw [itemEntries_eq]
    exact .table ((hincreasing entries hentries).mapValues _)
      (List.forall_mem_map.2 (ih entries hentries))

end Node

/-- A finished table: what is stated of a well-formed table item, without the item around it. -/
structure EntriesWellFormed (entries : List (String × Item)) : Prop where
  increasing : Increasing entries
  parts : ∀ e ∈ entries, e.2.WellFormed

theorem Node.TableWellFormed.itemEntries {entries : List (String × Node)}
    (h : TableWellFormed entries) : EntriesWellFormed (itemEntries entries) := by
  rw [itemEntries_eq]
  exact ⟨h.increasing.mapValues _, List.forall_mem_map.2 fun e he => (h.parts e he).item⟩

/-- What every step preserves is preserved by all steps together, if none of them fails. -/
theorem foldlM_preserves {σ α : Type} {P : σ → Prop} {Q : α → Prop} {f : σ → α → Option σ}
    (hstep : ∀ s a t, P s → Q a → f s a = some t → P t) {as : List α} (has : ∀ a ∈ as, Q a)
    {s t : σ} (hs : P s) (h : as.foldlM f s = some t) : P t := by
  induction as generalizing s with
  | nil =>
    cases h
    exact hs
  | cons a rest ih =>
    obtain ⟨ha, hrest⟩ := List.forall_mem_cons.1 has
    rw [List.foldlM_cons] at h
    obtain ⟨next, hnext, h⟩ := Option.bind_eq_some_iff.1 h
    exact ih hrest (hstep s a next hs ha hnext) h

theorem tableOfPairs?_wellFormed {pairs : List ((List String × String) × Item)}
    {entries : List (String × Item)} (h : tableOfPairs? pairs = some entries)
    (hpairs : ∀ p ∈ pairs, p.2.WellFormed) : EntriesWellFormed entries := by
  rw [tableOfPairs?] at h
  obtain ⟨nodes, hnodes, rfl⟩ := Option.map_eq_some_iff.1 h
  have hassigned : Node.TableWellFormed nodes :=
    foldlM_preserves (fun _ _ _ hentries hp hassign => hentries.assign hp hassign) hpairs
      Node.TableWellFormed.nil hnodes
  exact hassigned.itemEntries

/-! ## Scanners

One induction on the number of calls for three scanners.  Each of the three lemmas for one more
call unfolds one scanner and uses the hypothesis for whatever it calls. -/

/-- With at most so many calls, the scanners of values give what is well-formed. -/
structure ScansWellFormed (fuel : Nat) : Prop where
  item : ∀ room s i rest, scanItem fuel room s = some (i, rest) → i.WellFormed
  items : ∀ room s items rest, scanItems fuel room s = some (items, rest) →
    ∀ i ∈ items, i.WellFormed
  pairs : ∀ room s pairs rest, scanPairs fuel room s = some (pairs, rest) →
    ∀ p ∈ pairs, p.2.WellFormed

namespace ScansWellFormed

variable {fuel room : Nat} {s rest : List Char}

theorem item_succ (h : ScansWellFormed fuel) {i : Item}
    (hscan : scanItem (fuel + 1) room s = some (i, rest)) : i.WellFormed := by
  rw [scanItem.eq_def] at hscan
  dsimp only at hscan
  split at hscan
  · split at hscan
    · cases hscan
    · obtain ⟨⟨items, t⟩, hitems, hscan⟩ := Option.map_eq_some_iff.1 hscan
      cases hscan
      exact .array (h.items _ _ _ _ hitems)
  · split at hscan
    · cases hscan
    · split at hscan
      · cases hscan
        exact .table List.Pairwise.nil fun e he => absurd he List.not_mem_nil
      · obtain ⟨⟨pairs, t⟩, hpairs, hscan⟩ := Option.bind_eq_some_iff.1 hscan
        obtain ⟨entries, hentries, hscan⟩ := Option.bind_eq_some_iff.1 hscan
        cases hscan
        have htable := tableOfPairs?_wellFormed hentries (h.pairs _ _ _ _ hpairs)
        exact .table htable.increasing htable.parts
  · cases hscan
    exact .bool _
  · cases hscan
    exact .bool _
  · split at hscan
    · cases hscan
      exact .string _
    · split at hscan
      · cases hscan
        exact .moment _
      · exact scanNumber_wellFormed hscan

theorem items_succ (h : ScansWellFormed fuel) {items : List Item}
    (hscan : scanItems (fuel + 1) room s = some (items, rest)) : ∀ i ∈ items, i.WellFormed := by
  rw [scanItems.eq_def] at hscan
  dsimp only at hscan
  split at hscan
  · cases hscan
    exact fun i hi => absurd hi List.not_mem_nil
  · obtain ⟨⟨i, t⟩, hitem, hscan⟩ := Option.bind_eq_some_iff.1 hscan
    have hi := h.item _ _ _ _ hitem
    dsimp only at hscan
    split at hscan
    · cases hscan
      exact fun j hj => List.mem_singleton.1 hj ▸ hi
    · obtain ⟨⟨more, u⟩, hmore, hscan⟩ := Option.bind_eq_some_iff.1 hscan
      cases hscan
      exact List.forall_mem_cons.2 ⟨hi, h.items _ _ _ _ hmore⟩
    · cases hscan

theorem pairs_succ (h : ScansWellFormed fuel) {pairs : List ((List String × String) × Item)}
    (hscan : scanPairs (fuel + 1) room s = some (pairs, rest)) : ∀ p ∈ pairs, p.2.WellFormed := by
  obtain ⟨⟨key, t⟩, -, hscan⟩ := Option.bind_eq_some_iff.1 hscan
  obtain ⟨u, -, hscan⟩ := Option.bind_eq_some_iff.1 hscan
  obtain ⟨⟨i, w⟩, hitem, hscan⟩ := Option.bind_eq_some_iff.1 hscan
  have hi := h.item _ _ _ _ hitem
  dsimp only at hscan
  split at hscan
  · cases hscan
    exact fun p hp => List.mem_singleton.1 hp ▸ hi
  · obtain ⟨⟨more, x⟩, hmore, hscan⟩ := Option.bind_eq_some_iff.1 hscan
    cases hscan
    exact List.forall_mem_cons.2 ⟨hi, h.pairs _ _ _ _ hmore⟩
  · cases hscan

end ScansWellFormed

theorem scansWellFormed (fuel : Nat) : ScansWellFormed fuel := by
  induction fuel with
  | zero => exact ⟨nofun, nofun, nofun⟩
  | succ fuel ih =>
    exact ⟨fun _ _ _ _ => ih.item_succ, fun _ _ _ _ => ih.items_succ,
      fun _ _ _ _ => ih.pairs_succ⟩

/-! ## Documents

A document is read statement by statement.  Every statement brings at most one item, which was
scanned, and one operation on the tree. -/

/-- The value in a statement is well-formed. -/
def Statement.WellFormed : Statement → Prop
  | .assign _ _ i => i.WellFormed
  | .table _ _ => True
  | .element _ _ => True

theorem scanStatement_wellFormed {s rest : List Char} {st : Statement}
    (h : scanStatement s = some (st, rest)) : st.WellFormed := by
  unfold scanStatement at h
  split at h
  · obtain ⟨⟨⟨path, key⟩, t⟩, -, h⟩ := Option.bind_eq_some_iff.1 h
    obtain ⟨u, -, h⟩ := Option.bind_eq_some_iff.1 h
    obtain ⟨w, -, h⟩ := Option.bind_eq_some_iff.1 h
    cases h
    trivial
  · obtain ⟨⟨⟨path, key⟩, t⟩, -, h⟩ := Option.bind_eq_some_iff.1 h
    obtain ⟨u, -, h⟩ := Option.bind_eq_some_iff.1 h
    cases h
    trivial
  · obtain ⟨⟨⟨path, key⟩, t⟩, -, h⟩ := Option.bind_eq_some_iff.1 h
    obtain ⟨u, -, h⟩ := Option.bind_eq_some_iff.1 h
    obtain ⟨⟨i, w⟩, hscan, h⟩ := Option.bind_eq_some_iff.1 h
    cases h
    exact (scansWellFormed _).item _ _ _ _ hscan

theorem scanStatements_wellFormed {fuel : Nat} {s : List Char} {statements : List Statement}
    (h : scanStatements fuel s = some statements) : ∀ st ∈ statements, st.WellFormed := by
  induction fuel generalizing s statements with
  | zero => rw [scanStatements] at h; cases h
  | succ fuel ih =>
    rw [scanStatements] at h
    split at h
    · cases h
      exact fun st hst => absurd hst List.not_mem_nil
    · split at h
      · obtain ⟨t, -, h⟩ := Option.bind_eq_some_iff.1 h
        exact ih h
      · obtain ⟨⟨st, t⟩, hst, h⟩ := Option.bind_eq_some_iff.1 h
        obtain ⟨u, -, h⟩ := Option.bind_eq_some_iff.1 h
        obtain ⟨more, hmore, h⟩ := Option.bind_eq_some_iff.1 h
        cases h
        exact List.forall_mem_cons.2 ⟨scanStatement_wellFormed hst, ih hmore⟩

namespace Document

/-- One more statement keeps a document well-formed. -/
theorem step_wellFormed {s t : State} {st : Statement} (hs : Node.TableWellFormed s.root)
    (hst : st.WellFormed) (h : step s st = some t) : Node.TableWellFormed t.root := by
  cases st with
  | assign path key i =>
    obtain ⟨root, hroot, rfl⟩ := Option.map_eq_some_iff.1 h
    exact hs.alter (fun _ _ _ hentries hassign => hentries.assign hst hassign) hroot
  | table path key =>
    obtain ⟨root, hroot, rfl⟩ := Option.map_eq_some_iff.1 h
    exact hs.openTable hroot
  | element path key =>
    obtain ⟨root, hroot, rfl⟩ := Option.map_eq_some_iff.1 h
    exact hs.openElement hroot

/-- **Documents are well-formed.** -/
theorem wellFormed_of_ofText? {text : String} {entries : List (String × Item)}
    (h : ofText? text = some entries) : EntriesWellFormed entries := by
  obtain ⟨statements, hstatements, h⟩ := Option.bind_eq_some_iff.1 h
  obtain ⟨final, hfinal, rfl⟩ := Option.map_eq_some_iff.1 h
  have hroot : Node.TableWellFormed final.root :=
    foldlM_preserves (P := fun s => Node.TableWellFormed s.root)
      (fun _ _ _ hs hst hstep => step_wellFormed hs hst hstep)
      (scanStatements_wellFormed hstatements) Node.TableWellFormed.nil hfinal
  exact hroot.itemEntries

end Document

/-! ## Kept items

With well-formed items, sorting the keys of a table changes nothing, and so the value that is kept
has the shape of the item. -/

namespace Item

theorem valuesOfItems_eq (items : List Item) : valuesOfItems items = items.map value := by
  induction items with
  | nil => rfl
  | cons i rest ih => rw [valuesOfItems, ih, List.map_cons]

theorem valuesOfEntries_eq (entries : List (String × Item)) :
    valuesOfEntries entries = entries.map fun e => (e.1, e.2.value) := by
  induction entries with
  | nil => rfl
  | cons e rest ih => rw [valuesOfEntries, ih, List.map_cons]

/-- A value is what an item says, place by place, where JSON can say it; a date or time is an
object that marks it, and a float that is no finite number is null. -/
inductive KeptAs : Item → Value → Prop where
  | string (s : String) : KeptAs (.string s) (.string s)
  | integer (n : Int) : KeptAs (.integer n) (.number (.integer n))
  | finite (x : Double) : KeptAs (.float (some x)) (.number (.double x))
  | notFinite : KeptAs (.float none) .null
  | bool (b : Bool) : KeptAs (.bool b) (.bool b)
  | moment (text : String) : KeptAs (.moment text) (.object [(momentKey, .string text)])
  | array {items : List Item} {values : List Value} (parts : List.Forall₂ KeptAs items values) :
      KeptAs (.array items) (.array values)
  | table {entries : List (String × Item)} {members : List (String × Value)}
      (keys : entries.map (·.1) = members.map (·.1))
      (parts : List.Forall₂ (fun e m => KeptAs e.2 m.2) entries members) :
      KeptAs (.table entries) (.object members)

theorem value_table {entries : List (String × Item)} (h : Increasing entries) :
    (Item.table entries).value = .object (entries.map fun e => (e.1, e.2.value)) := by
  rw [value, valuesOfEntries_eq, foldl_insertEntry_of_increasing (h.mapValues _)]

/-- **Nothing is lost of a well-formed item.** -/
theorem WellFormed.keptAs_value {i : Item} (h : i.WellFormed) : i.KeptAs i.value := by
  induction h with
  | string s => exact .string s
  | @integer n _ => exact .integer n
  | float x =>
    cases x with
    | none => exact .notFinite
    | some x => exact .finite x
  | bool b => exact .bool b
  | moment text => exact .moment text
  | array _ ih =>
    rw [value, valuesOfItems_eq]
    exact .array (List.forall₂_map_right_iff.2 (List.forall₂_same.2 ih))
  | table hincreasing _ ih =>
    rw [value_table hincreasing]
    refine .table ?_ (List.forall₂_map_right_iff.2 (List.forall₂_same.2 ih))
    rw [List.map_map]
    rfl

/-- The integers that are kept of an item fit. -/
theorem WellFormed.fits_of_mem_numbers {i : Item} (h : i.WellFormed) {n : Int}
    (hn : .integer n ∈ i.value.numbers) : Word.FitsSigned n := by
  induction h with
  | string s => exact absurd hn (by simp [value, Value.numbers])
  | integer hfits =>
    rw [value, Value.int, Value.numbers, List.mem_singleton, Number.integer.injEq] at hn
    exact hn ▸ hfits
  | float x => cases x <;> exact absurd hn (by simp [value, Value.numbers])
  | bool b => exact absurd hn (by simp [value, Value.numbers])
  | moment text =>
    exact absurd hn (by simp [value, Value.numbers, Value.numbersOfMembers])
  | array _ ih =>
    rw [value, valuesOfItems_eq, Value.mem_numbers_array] at hn
    obtain ⟨v, hv, hn⟩ := hn
    obtain ⟨i, hi, rfl⟩ := List.mem_map.1 hv
    exact ih i hi hn
  | table hincreasing _ ih =>
    rw [value_table hincreasing, Value.mem_numbers_object] at hn
    obtain ⟨m, hm, hn⟩ := hn
    obtain ⟨e, he, rfl⟩ := List.mem_map.1 hm
    exact ih e he hn

/-- What is kept of a well-formed item is sorted. -/
theorem WellFormed.sorted_value {i : Item} (h : i.WellFormed) : i.value.Sorted := by
  induction h with
  | string s => exact .string s
  | integer _ => exact .number _
  | float x =>
    cases x with
    | none => exact .null
    | some x => exact .number _
  | bool b => exact .bool b
  | moment text =>
    refine .object (List.pairwise_singleton _ _) fun m hm => ?_
    rw [List.mem_singleton.1 hm]
    exact .string text
  | array _ ih =>
    rw [value, valuesOfItems_eq]
    exact .array (List.forall_mem_map.2 ih)
  | table hincreasing _ ih =>
    rw [value_table hincreasing]
    exact .object (hincreasing.mapValues _) (List.forall_mem_map.2 ih)

end Item
end Toml
end QueryRights
