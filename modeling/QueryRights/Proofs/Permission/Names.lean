import Mathlib.Data.List.TFAE
import Mathlib.Tactic.TFAE
import QueryRights.Proofs.Json.Schema
import QueryRights.Proofs.Policy.Defaults

/-!
# The names of permissions

A permission is looked up by its name in three places: in the table, in payloads, and among the
permissions that a user holds.  Each goes by names of its own making: the table by those that are
listed, payloads by the label in lower case with underscores (but for two), users by whatever
strings they were given.  These are the same names, and no other string is one.

That the names made from labels are the ones that are listed is a finite matter, and it is checked
permission by permission (`Permission.payloadName_eq_name`).  What is not finite is the other half:
that no further string is a name, in a table or in a payload.  Lookups are therefore characterized
by equivalences, of the form that a lookup gives a permission exactly if the string is its name.
Any two of them then agree on all strings, and a string that is refused in one place is refused in
the others.

A payload does not contain a string but a text that denotes one, and there are many of them: any
character may be escaped, and there may be white space around.  `Json.Denotes` takes all of them
in.  So a name is recognized however it is written, and a text that denotes something else is
refused however close it looks.  Only strings are covered; a payload may also give a name as the
key of an object, with null for a value.

Names are compared as they are, with capital letters and spaces and all.  That is said positively,
by what names are made of, so that a whole class of strings is ruled out at once and not by a list
of examples.

## What is here

* `Json.Denotes`: the JSON texts of a string, escapes and white space included.
* `Permission.parse_eq_ok_iff` and `Permission.parse_eq_error_iff`: what the table knows.
* `Permission.ofJson?_eq_some_iff`: what payloads know.
* `Permission.spelled`: names are made of small letters and underscores, so that a string with any
  other character is none.
* `Permission.names_agree`: **the same strings name the same permissions everywhere**.
-/

set_option autoImplicit false

namespace QueryRights

/-- The text is that of a JSON string, in one of the ways to write it, which denotes `s`. -/
def Json.Denotes (text s : String) : Prop :=
  ∃ q, ofText? text = some (.string q) ∧ q.text? = some s

/-- A string has a JSON text. -/
theorem Json.denotes_text (s : String) : Denotes (Value.string s).text s :=
  ⟨.ofText s, ofText?_text fun n hn => ((Restores.string.isWord s) n hn).readsBack, rfl⟩

namespace Permission

variable {s text : String} {p : Permission}

/-! ## The table

A lookup succeeds with the permission of the name, or fails with the string that was looked up. -/

theorem parse_eq_ok_iff : parse s = .ok p ↔ p.name = s := by
  rw [eq_comm (a := p.name), ← ofName?_eq_some_iff, parse]
  cases ofName? s with
  | none => simp
  | some q => simp

/-- A string that is no name is refused, and said to be none. -/
theorem parse_eq_error_iff {e : Failure} :
    parse s = .error e ↔ (∀ p : Permission, p.name ≠ s) ∧ e = .config (.unknownPermission s) := by
  have hnone : ofName? s = none ↔ ∀ p : Permission, p.name ≠ s := by
    rw [Option.eq_none_iff_forall_ne_some]
    exact forall_congr' fun p => not_congr (ofName?_eq_some_iff.trans eq_comm)
  rw [← hnone, parse]
  cases ofName? s with
  | none => simp [eq_comm]
  | some q => simp

/-! ## Payloads

Both directions: what is read, from any text that denotes the string, and what is written. -/

/-- Payloads are looked up in the table. -/
theorem ofJson?_eq (j : Json) : ofJson? j = j.name?.bind ofName? := by
  simp only [ofJson?, payloadName_eq_name]
  rfl

theorem ofJson?_eq_some_iff (h : Json.Denotes text s) :
    (Json.ofText? text).bind ofJson? = some p ↔ p.name = s := by
  obtain ⟨q, htext, hq⟩ := h
  rw [htext, Option.bind_some, ofJson?_eq, Json.name?, hq, Option.bind_some, ofName?_eq_some_iff,
    eq_comm]

theorem toValue_eq (p : Permission) : p.toValue = .string p.name := by
  rw [toValue, payloadName_eq_name]

/-- What is written of a permission tells its name. -/
theorem text_toValue_eq_iff : p.toValue.text = (Value.string s).text ↔ p.name = s := by
  rw [toValue_eq]
  exact Json.Restores.string.lossless.text_injective.eq_iff

/-! ## Strings that are no names

The fourteen names have a common alphabet, which is enough to refuse most strings without a look at
the table. -/

/-- Names are made of small letters and underscores. -/
theorem spelled (p : Permission) : ∀ c ∈ p.name.toList, c.isLower = true ∨ c = '_' := by
  cases p <;> simp [name]

/-- So a string with a capital letter, a space or a digit in it is no name. -/
theorem name_ne_of_mem {c : Char} (hc : c ∈ s.toList) (hother : ¬(c.isLower = true ∨ c = '_'))
    (p : Permission) : p.name ≠ s := by
  rintro rfl
  exact hother (p.spelled c hc)

/-! ## All together -/

/-- What the table says of a string is what users are told by it. -/
theorem message_of_parse_eq_error {e : Failure} (h : parse s = .error e) :
    e.message = "Configuration error: Unknown permission: " ++ s := by
  obtain ⟨-, rfl⟩ := parse_eq_error_iff.1 h
  show "Configuration error: " ++ ("Unknown permission: " ++ s) = _
  rw [← String.append_assoc]
  rfl

/-- **The same strings name the same permissions everywhere.**  A string names a permission in the
table exactly if its JSON text does so in payloads, however it is written there, and exactly if it
is the string that the permission is shown as, and the one that is written for it.  Any other string
is refused in both places, by the table with a failure that tells the string; so is, whatever else
is in it, a string with any character that is no small letter and no underscore.  No two permissions
have the same name, and a user who is granted a permission and no other one holds just the strings
that name it. -/
theorem names_agree (s : String) :
    (∃ text, Json.Denotes text s) ∧
    (∀ text, Json.Denotes text s → ∀ p : Permission,
      [parse s = .ok p, (Json.ofText? text).bind ofJson? = some p, p.name = s,
        p.toValue.text = (Value.string s).text].TFAE) ∧
    ((∀ p : Permission, p.name ≠ s) →
      parse s = .error (.config (.unknownPermission s)) ∧
      (Failure.config (.unknownPermission s)).message =
        "Configuration error: Unknown permission: " ++ s ∧
      ∀ text, Json.Denotes text s → (Json.ofText? text).bind ofJson? = none) ∧
    ((∃ c ∈ s.toList, ¬(c.isLower = true ∨ c = '_')) → ∀ p : Permission, p.name ≠ s) ∧
    (∀ p q : Permission, p.name = q.name → p = q) ∧
    ∀ p : Permission, (User.anonymous.grant p).holds s = true ↔ parse s = .ok p := by
  refine ⟨⟨_, Json.denotes_text s⟩, fun text htext p => ?_, fun hother => ?_, ?_,
    fun p q => name_injective, fun p => ?_⟩
  · tfae_have 1 ↔ 3 := parse_eq_ok_iff
    tfae_have 2 ↔ 3 := ofJson?_eq_some_iff htext
    tfae_have 4 ↔ 3 := text_toValue_eq_iff
    tfae_finish
  · have hparse : parse s = .error (.config (.unknownPermission s)) :=
      parse_eq_error_iff.2 ⟨hother, rfl⟩
    refine ⟨hparse, message_of_parse_eq_error hparse, fun text htext => ?_⟩
    rw [Option.eq_none_iff_forall_ne_some]
    exact fun p => mt (ofJson?_eq_some_iff htext).1 (hother p)
  · rintro ⟨c, hc, hother⟩
    exact name_ne_of_mem hc hother
  · rw [User.holds_grant, Bool.or_eq_true, decide_eq_true_eq, eq_comm, parse_eq_ok_iff]
    exact or_iff_left Bool.false_ne_true

/-- With an escape in it a payload still gives the name; with a space in front, with a capital
letter or without its end a name is none. -/
theorem names_agree_of_escape :
    let text := "\"\\u0065dit_query\""
    (Json.Denotes text "edit_query" ∧ parse "edit_query" = .ok .editQuery ∧
      (Json.ofText? text).bind ofJson? = some .editQuery) ∧
    ((∃ c ∈ " edit_query".toList, ¬(c.isLower = true ∨ c = '_')) ∧
      (∀ p : Permission, p.name ≠ " edit_query") ∧
      parse " edit_query" = .error (.config (.unknownPermission " edit_query"))) ∧
    ((∃ c ∈ editQuery.label.toList, ¬(c.isLower = true ∨ c = '_')) ∧
      ∀ p : Permission, p.name ≠ editQuery.label) ∧
    (∀ p : Permission, p.name ≠ "edit_quer") ∧
      (Json.ofText? (Value.string "edit_quer").text).bind ofJson? = none := by
  intro text
  have hunit : Piece.ofHex? '0' '0' '6' '5' = some 'e'.toNat := by decide
  have hread : Json.ofText? text = some (.string ⟨some "edit_query", false⟩) := by
    simp [text, Json.ofText?, Symbol.ofText, Json.read?, Json.readValue, Json.skipSpace,
      Piece.scanString, hunit, Piece.quoted, Piece.textOf?, Piece.isHigh, Piece.isLow,
      Piece.isPlain]
  have htext : Json.Denotes text "edit_query" := ⟨_, hread, rfl⟩
  have hname : parse "edit_query" = .ok .editQuery := rfl
  have hagree := (names_agree "edit_query").2.1 text htext .editQuery
  have hspace : ∃ c ∈ " edit_query".toList, ¬(c.isLower = true ∨ c = '_') := by simp
  have hspaced := (names_agree " edit_query").2.2.2.1 hspace
  have hcapital : ∃ c ∈ editQuery.label.toList, ¬(c.isLower = true ∨ c = '_') := by simp [label]
  have hshort : ∀ p : Permission, p.name ≠ "edit_quer" := by
    intro p
    cases p <;> decide
  exact ⟨⟨htext, hname, (hagree.out 0 1).1 hname⟩,
    ⟨hspace, hspaced, ((names_agree " edit_query").2.2.1 hspaced).1⟩,
    ⟨hcapital, (names_agree editQuery.label).2.2.2.1 hcapital⟩, hshort,
    ((names_agree "edit_quer").2.2.1 hshort).2.2 _ (Json.denotes_text "edit_quer")⟩

end Permission
end QueryRights
