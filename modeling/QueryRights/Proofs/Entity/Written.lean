import QueryRights.Proofs.Calendar.Written
import QueryRights.Proofs.Entity.Fields

/-!
# Entities written and read again

What is sent of an entity must be enough to have the entity back: dates are sent as texts, the ids
of groups as the keys of an object, and sets as lists.  A part that is missing is sent as null, so
it also matters that no part that is there is.

Most of this is a matter of fields.  If every field of an entity is read again as it was written,
then the entity is (`Schema.restores`), and a proof for one kind of entity is the list of its
fields with the reason for each: a string, an integer that may be missing, a list of integers,
another entity.  No proof looks into a reader.  Null is the one thing that fields have to take care
of, since it stands for a part that is missing: nothing that is written for a part may be null
itself.

Three parts are not as simple as that.  Dates are texts, and that the text of a date is read as the
date is a matter of the calendar.  The ids of groups are keys of an object, so they are written as
digits in a string and read as a number from there; a key with an escape in it is not read as a
number, and it has to be seen that an id never needs one.  And permissions are written as a sorted
list and read by putting them into a set one by one, in which no name is lost.

The texts are real texts and not trees: the symbols of the text are written, and scanned and parsed
again.  That the text of an entity determines it is a consequence.  Floating-point numbers occur in
no entity, so that nothing has to be assumed about how they are written; configurations, in which
they may occur, are treated elsewhere.

## What is here

* `Grants.groupId?_written`: ids are read back from keys.
* `restored` for each kind of entity: **what is written for the entity is read as the entity**.
* `entities_lossless`: all of them are sent as texts without loss.
-/

set_option autoImplicit false

namespace QueryRights

open Schema (Field)

/-! ## Keys

The id of a group is a number where it is kept and a key where it is written.  The digits of the
key are scanned like those of a number in a text, and they have no escape in them. -/

/-- A numeral that denotes an integer is written as one. -/
theorem Numeral.integer?_of_number? {m : Numeral} {n : Int} (h : m.number? = some (.integer n)) :
    m.integer? = some n := by
  rw [number?] at h
  split at h
  · rename_i k hk
    cases h
    exact hk
  · obtain ⟨x, -, hx⟩ := Option.map_eq_some_iff.1 h
    cases hx

theorem Quoted.not_escapes_of_isDigit {c : Char} (h : Text.isDigit c = true) :
    escapes c = false := by
  rw [Text.isDigit, Bool.and_eq_true, Nat.ble_eq, Nat.ble_eq] at h
  have hquote : c ≠ '"' := fun hc => absurd (hc ▸ h) (by decide)
  have hbackslash : c ≠ '\\' := fun hc => absurd (hc ▸ h) (by decide)
  have hlow : Nat.blt c.toNat 0x20 = false :=
    Bool.eq_false_iff.2 fun hc => absurd (Nat.blt_eq ▸ hc) (by omega)
  simp [escapes, hquote, hbackslash, hlow]

/-- The text of an integer has no escapes in it. -/
theorem Number.plain_integer (n : Int) : (Quoted.ofText (integer n).text).plain = true := by
  refine List.all_eq_true.2 fun c hc => ?_
  have hsymbol : Symbol.char c ∈ Symbol.ofText (integer n).text := List.mem_map_of_mem hc
  rw [text_integer, List.mem_append] at hsymbol
  rcases hsymbol with h | h
  · split at h
    · cases List.mem_singleton.1 h
      decide
    · cases h
  · obtain ⟨d, hd, hdc⟩ := List.mem_map.1 h
    cases hdc
    rw [Quoted.not_escapes_of_isDigit (Text.isDigit_of_mem_toDigits hd)]
    rfl

namespace Grants

/-- **The id of a group is read back from the key that is written for it.** -/
theorem groupId?_written (id : Int64) : groupId? (.ofText (toString id.toInt)) = some id := by
  have hfits : (Number.integer id.toInt).Fits :=
    ⟨id.le_toInt, Int.lt_trans id.toInt_lt (by decide)⟩
  obtain ⟨m, hscan, hnumber⟩ := Number.readsBack_integer hfits
  have hplain := Number.plain_integer id.toInt
  rw [Number.text] at hscan hplain
  rw [groupId?, hplain, Quoted.ofText]
  simp only [if_true, hscan, Numeral.integer?_of_number? hnumber, Option.map_some]
  exact Json.Restores.int64.read_write id

end Grants

/-! ## Entities

One proof for each kind.  Those that contain others use what was proved of them before. -/

theorem Schedule.restores_date : Json.Restores dateOfJson? fun d => .string d.text where
  read_write := Date.ofText?_text
  isWord _ _ h := nomatch h

/-- A schedule is read as it was written. -/
theorem Schedule.restored : Json.Restores ofJson? toValue := by
  refine Schema.restores readBy_schema writtenBy_schema ?_
  simp only [schema, List.forall_mem_cons]
  exact ⟨.optional .uint64, .optional .string, .optional .string, .optional restores_date,
    List.forall_mem_nil _⟩

/-- Changes are read as they were written. -/
theorem ScheduleChanges.restored : Json.Restores ofJson? toValue where
  read_write c := by
    rw [ofJson?, toValue, Record.ofJson?_written (show shape.Proper by decide) rfl]
    simp [Record.required?, Record.get?, findEntry, Schedule.restored.read_write]
  isWord c n hn := by
    obtain ⟨m, hm, hn⟩ := Value.mem_numbers_object.1 hn
    cases List.mem_singleton.1 hm
    exact Schedule.restored.isWord c.schedule n hn

/-- A query is read as it was written. -/
theorem Query.restored : Json.Restores ofJson? toValue := by
  refine Schema.restores readBy_schema writtenBy_schema ?_
  simp only [schema, List.forall_mem_cons]
  exact ⟨.optional .int64, .string, .bool, .bool, .bool, .string, .optional .bool,
    .optional Schedule.restored, .optional .string, .optional .int64,
    List.forall_mem_nil _⟩

/-- A dashboard is read as it was written. -/
theorem Dashboard.restored : Json.Restores ofJson? toValue := by
  refine Schema.restores readBy_schema writtenBy_schema ?_
  simp only [schema, List.forall_mem_cons]
  exact ⟨.optional .int64, .optional .bool, .optional .string, .list .int64,
    List.forall_mem_nil _⟩

/-- A grant is read as it was written. -/
theorem GroupAccess.restored : Json.Restores ofJson? toValue := by
  refine Schema.restores readBy_schema writtenBy_schema ?_
  simp only [schema, List.forall_mem_cons]
  exact ⟨.list .string, .bool, List.forall_mem_nil _⟩

namespace Grants

theorem entries?_written (entries : List (Int64 × GroupAccess)) :
    entries? (entries.map fun e => (.ofText (toString e.1.toInt), e.2.toValue.json)) =
      some entries := by
  induction entries with
  | nil => rfl
  | cons e rest ih =>
    rw [List.map_cons, entries?, groupId?_written, GroupAccess.restored.read_write, ih]
    rfl

/-- Grants are read as they were written. -/
theorem restored : Json.Restores ofJson? toValue where
  read_write g := by
    rw [toValue, Value.json, Value.jsonOfMembers_eq, List.map_map]
    show (entries? (g.entries.map fun e =>
      (.ofText (toString e.1.toInt), e.2.toValue.json))).map Table.ofList = some g
    rw [entries?_written, Option.map_some, Table.ofList_entries]
  isWord g n hn := by
    obtain ⟨m, hm, hn⟩ := Value.mem_numbers_object.1 hn
    obtain ⟨e, -, rfl⟩ := List.mem_map.1 hm
    exact GroupAccess.restored.isWord e.2 n hn

end Grants

/-- A data source is read as it was written. -/
theorem DataSource.restored : Json.Restores ofJson? toValue := by
  refine Schema.restores readBy_schema writtenBy_schema ?_
  simp only [schema, List.forall_mem_cons]
  exact ⟨.optional .int64, .bool, Grants.restored, List.forall_mem_nil _⟩

/-- A user is read as it was written. -/
theorem User.restored : Json.Restores ofJson? toValue := by
  refine Schema.restores readBy_schema writtenBy_schema ?_
  simp only [schema, List.forall_mem_cons]
  exact ⟨.optional .int64, .string, .optional .string, .bool,
    .map (.list .string) NameSet.ofNames_keys, .list .int64, List.forall_mem_nil _⟩

/-- **Entities are sent as texts without loss.**  The text of an entity is JSON that is read as the
entity, and no two entities of a kind have the same text. -/
theorem entities_lossless :
    Json.Lossless Schedule.ofJson? Schedule.toValue ∧
    Json.Lossless ScheduleChanges.ofJson? ScheduleChanges.toValue ∧
    Json.Lossless Query.ofJson? Query.toValue ∧
    Json.Lossless Dashboard.ofJson? Dashboard.toValue ∧
    Json.Lossless GroupAccess.ofJson? GroupAccess.toValue ∧
    Json.Lossless Grants.ofJson? Grants.toValue ∧
    Json.Lossless DataSource.ofJson? DataSource.toValue ∧
    Json.Lossless User.ofJson? User.toValue :=
  ⟨Schedule.restored.lossless, ScheduleChanges.restored.lossless, Query.restored.lossless,
    Dashboard.restored.lossless, GroupAccess.restored.lossless, Grants.restored.lossless,
    DataSource.restored.lossless, User.restored.lossless⟩

end QueryRights
