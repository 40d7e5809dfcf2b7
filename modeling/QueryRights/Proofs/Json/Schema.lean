import QueryRights.Proofs.Json.Reading
import QueryRights.Proofs.Json.Records

/-!
# Things described field by field

Entities are read and written field by field, and there is nothing more to an entity than its
fields.  So what there is to say about reading and writing an entity is said here once, for
anything that has fields, and is proved of an entity by looking at one field at a time.

A schema is a list of fields, and each field has a type of its own for what it holds.  So nothing
can be said about all fields of an entity by a function on them; it is said by quantifying over the
list, and two properties tie the list to the type.  Things that agree in all fields are the same.
And the fields are independent: if for each field there is something that it may hold, then there
is a thing that holds all of these.  The second property is what gives existence.  That an object
describes something is proved by finding a part for each field, with no look at the others.

A reader *goes by* a schema if it gives a thing exactly when each field of it is read from the
record (`Schema.ReadBy`).  This is an equivalence about results and says nothing about the order of
steps, so it fits readers that are written as a sequence of them.  All results about readers start
from it:

* what an object describes (`ReadBy.object_iff`), and when it describes anything;
* what happens to fields that are missing, or null (`FilledInBy`);
* that a member can be exchanged for one that is read as the same (`object_replace`);
* that things are read again as they were written (`restores`).

The first part of the module is about single parts, of any type.  `Json.Restores` is the invariant
of writing: reading gives back what was written, and no number was written that is not read back.
It is closed under making a part optional, under lists and under changes of representation.  So the
fields of an entity are restored by composing what is known of simple parts, and then the entity is
a part itself, which may be a field of another one.

Objects are assumed to have keys that are texts, and fields are given at most once.  What is said
of arrays, as far as it is said at all, is said in the modules that need it.

## What is here

* `Json.Restores`: a part is read again as it was written; with the simple parts, optional parts
  and lists.  `Json.Lossless` says the same of texts, and `Json.Restores.lossless` concludes it.
* `Schema.Field` and `Schema`: the fields of a kind of thing.
* `Schema.ReadBy` and `Schema.WrittenBy`: readers and writers that go field by field.
* `Schema.ReadBy.object_iff`: **what an object describes**, and `Schema.FilledInBy`: the things
  that objects describe are the one of the empty object with some fields filled in.
* `Schema.ReadBy.object_replace`: what is read the same in an object may be given in another way.
* `Schema.restores`: **things are read again as they were written, if all their fields are**.
-/

set_option autoImplicit false

namespace QueryRights

variable {α β : Type}

/-! ## Parts

Parts that are written and read again, from the simple ones up.  Only an optional part has a
condition, since null is how nothing is written: what is written for a part that is there must be
something else. -/

/-- Integers that 64 bits hold, with or without a sign. -/
def Number.IsWord : Number → Prop
  | .integer n => (Number.integer n).Fits
  | .double _ => False

theorem Number.IsWord.fits {n : Number} (h : n.IsWord) : n.Fits := by
  cases n with
  | integer n => exact h
  | double x => trivial

theorem Number.IsWord.readsBack {n : Number} (h : n.IsWord) : n.ReadsBack := by
  cases n with
  | integer n => exact Number.readsBack_integer h
  | double x => exact h.elim

theorem Value.json_ne_null {v : Value} (h : v ≠ .null) : v.json ≠ .null := by
  cases v with
  | null => exact absurd rfl h
  | _ => simp [json]

namespace Json

/-- What is written for a part is read as the part again, and has no other numbers in it than
integers of 64 bits. -/
structure Restores (read : Json → Option α) (write : α → Value) : Prop where
  read_write : ∀ a, read (write a).json = some a
  isWord : ∀ a, ∀ n ∈ (write a).numbers, n.IsWord

/-- Things are sent as texts without loss. -/
structure Lossless (read : Json → Option α) (write : α → Value) : Prop where
  /-- The text of a thing is JSON, and it is read as the thing. -/
  read_text : ∀ a, (ofText? (write a).text).bind read = some a
  /-- So no two things have the same text. -/
  text_injective : Function.Injective fun a => (write a).text

namespace Restores

variable {read : Json → Option α} {write : α → Value}

theorem string : Restores string? .string := ⟨fun _ => rfl, fun _ _ h => nomatch h⟩

theorem bool : Restores bool? .bool := ⟨fun _ => rfl, fun _ _ h => nomatch h⟩

theorem int64 : Restores int64? fun n => .int n.toInt where
  read_write n := by
    have hfits : Word.FitsSigned n.toInt := ⟨n.le_toInt, n.toInt_lt⟩
    show (if Word.FitsSigned n.toInt then some (Int64.ofInt n.toInt) else none) = some n
    rw [if_pos hfits, Int64.ofInt_toInt]
  isWord n m hm := by
    rw [List.mem_singleton.1 hm]
    exact ⟨n.le_toInt, Int.lt_trans n.toInt_lt (by decide)⟩

theorem uint64 : Restores uint64? fun n => .int n.toNat where
  read_write n := by
    have hfits : Word.FitsUnsigned n.toNat := ⟨Int.natCast_nonneg _, Int.ofNat_lt.2 n.toNat_lt⟩
    show (if Word.FitsUnsigned n.toNat then some (UInt64.ofNat (n.toNat : Int).toNat) else none) =
      some n
    rw [if_pos hfits, Int.toNat_natCast, UInt64.ofNat_toNat]
  isWord n m hm := by
    have hlt : n.toNat < 18446744073709551616 := n.toNat_lt
    rw [List.mem_singleton.1 hm]
    exact ⟨by omega, by omega⟩

/-- A part that may be missing, and is never written as null. -/
theorem optional (h : Restores read write)
    (hnull : ∀ a, write a ≠ .null := by exact fun _ => Value.noConfusion) :
    Restores (optional? read) (.optional write) where
  read_write
    | none => rfl
    | some a => by
      rw [Value.optional, optional?_of_ne_null read (Value.json_ne_null (hnull a)), h.read_write]
      rfl
  isWord
    | none, _, hn => nomatch hn
    | some a, n, hn => h.isWord a n hn

theorem list (h : Restores read write) : Restores (list? read) (.list write) where
  read_write items := by
    rw [Value.list, Value.json, Value.jsonOfItems_eq, List.map_map]
    exact mapM_map_eq_some fun a _ => h.read_write a
  isWord items n hn := by
    obtain ⟨v, hv, hn⟩ := Value.mem_numbers_array.1 hn
    obtain ⟨a, -, rfl⟩ := List.mem_map.1 hv
    exact h.isWord a n hn

/-- A part that is kept in another form, from which the form it is written in can be found. -/
theorem map {f : α → β} {g : β → α} (h : Restores read write) (hfg : ∀ b, f (g b) = b) :
    Restores (fun j => (read j).map f) (fun b => write (g b)) where
  read_write b := by rw [h.read_write, Option.map_some, hfg]
  isWord b := h.isWord (g b)

theorem ofText?_bind (h : Restores read write) (a : α) :
    (ofText? (write a).text).bind read = some a := by
  rw [ofText?_text fun n hn => (h.isWord a n hn).readsBack, Option.bind_some, h.read_write]

/-- **Parts that are read again as they were written are sent as texts without loss.** -/
theorem lossless (h : Restores read write) : Lossless read write where
  read_text := h.ofText?_bind
  text_injective a b hab := by
    have htext : (write a).text = (write b).text := hab
    have ha := h.ofText?_bind a
    rw [htext, h.ofText?_bind b] at ha
    exact (Option.some.inj ha).symm

end Restores
end Json

/-! ## Fields

One field of a thing.  What is given for it in a record is a list of parts, mostly of length one or
zero; what it holds afterwards is determined by that list and by the default. -/

namespace Schema

/-- A field of a kind of thing: how what is given for it is read, and how it is written. -/
structure Field (α : Type) where
  /-- What the field holds. -/
  {Part : Type}
  name : String
  read : Json → Option Part
  write : Part → Value
  get : α → Part
  /-- Whether null may be given for the field, which means that nothing is. -/
  optional : Bool

namespace Field

/-- A field that may hold nothing. -/
def ofOptional (name : String) (read : Json → Option β) (write : β → Value) (get : α → Option β) :
    Field α :=
  ⟨name, Json.optional? read, .optional write, get, true⟩

/-- A field that always holds something. -/
def plain (name : String) (read : Json → Option β) (write : β → Value) (get : α → β) : Field α :=
  ⟨name, read, write, get, false⟩

/-- What a record gives for the field, or else what it holds in `absent`. -/
def ofRecord? (f : Field α) (absent : α) (r : Record Json) : Option f.Part :=
  r.field? f.name f.read (f.get absent)

/-- What the field holds if nothing is given for it, or a value. -/
inductive Filled (f : Field α) (absent : α) : List Json → f.Part → Prop where
  | missing : Filled f absent [] (f.get absent)
  | given {j : Json} {p : f.Part} (valid : f.read j = some p) : Filled f absent [j] p

/-- What is given for the field is acceptable: a valid value, or nothing. -/
def Accepts (f : Field α) (given : List Json) : Prop :=
  given.length ≤ 1 ∧ ∀ j ∈ given, ∃ p, f.read j = some p

variable {f : Field α} {absent : α} {given : List Json} {p : f.Part}

theorem Filled.length_le (h : f.Filled absent given p) : given.length ≤ 1 := by
  cases h <;> simp

theorem Filled.accepts (h : f.Filled absent given p) : f.Accepts given := by
  refine ⟨h.length_le, ?_⟩
  cases h with
  | missing => exact List.forall_mem_nil _
  | given valid => exact List.forall_mem_singleton.2 ⟨_, valid⟩

theorem Filled.eq_absent (h : f.Filled absent [] p) : p = f.get absent := by
  cases h
  rfl

theorem Accepts.exists_filled (h : f.Accepts given) (absent : α) :
    ∃ p, f.Filled absent given p := by
  obtain ⟨hlength, hvalid⟩ := h
  match given, hlength with
  | [], _ => exact ⟨_, .missing⟩
  | [j], _ =>
    obtain ⟨p, hp⟩ := hvalid j List.mem_cons_self
    exact ⟨p, .given hp⟩

/-- What is read of entries for the field depends on what they give for it, and on nothing else. -/
theorem ofRecord?_known_iff {s : Shape} {entries : List (String × Json)}
    (honce : (s.given f.name entries).length ≤ 1) :
    f.ofRecord? absent (Record.known s entries) = some p ↔
      f.Filled absent (s.given f.name entries) p := by
  rw [ofRecord?, Record.field?, Record.get?_known]
  match s.given f.name entries, honce with
  | [], _ =>
    refine ⟨fun h => Option.some.inj h ▸ .missing, fun h => ?_⟩
    cases h
    rfl
  | [j], _ =>
    refine ⟨fun h => .given h, fun h => ?_⟩
    cases h with
    | given valid => exact valid

end Field
end Schema

/-! ## Schemas

The fields together, and what it means for a reader and a writer to go by them.  Both are
statements about a reader or a writer that exists already. -/

/-- The fields of a kind of thing that objects describe. -/
structure Schema (α : Type) where
  shape : Shape
  fields : List (Schema.Field α)
  proper : shape.Proper := by decide
  names : fields.map (·.name) = shape.fields.map (·.1) := by rfl
  /-- There is nothing more to a thing than its fields, -/
  eq_of_fields : ∀ a b, (∀ f ∈ fields, f.get a = f.get b) → a = b
  /-- and they can hold anything, whatever the others hold. -/
  exists_of_fields : ∀ P : (f : Schema.Field α) → f.Part → Prop,
    (∀ f ∈ fields, ∃ p, P f p) → ∃ a, ∀ f ∈ fields, P f (f.get a)

namespace Schema

/-- What entries give for a field, in their order. -/
def given (s : Schema α) (f : Field α) (entries : List (String × Json)) : List Json :=
  s.shape.given f.name entries

/-- A reader that goes through a record field by field.  A missing field is as in `absent`. -/
def ReadBy (s : Schema α) (absent : α) (read : Json → Option α) : Prop :=
  ∀ j a, read j = some a ↔ ∃ r, Record.ofJson? s.shape j = some r ∧
    ∀ f ∈ s.fields, f.ofRecord? absent r = some (f.get a)

/-- A writer that writes the fields one after the other. -/
def WrittenBy (s : Schema α) (write : α → Value) : Prop :=
  ∀ a, write a = .object (s.fields.map fun f => (f.name, f.write (f.get a)))

/-- Objects are read by filling in `absent`, the thing that the empty object describes. -/
structure FilledInBy (s : Schema α) (absent : α) (read : Json → Option α) : Prop where
  /-- An object whose keys are texts is read exactly if it gives no field twice, and a valid value
  for each field that it gives. -/
  exists_iff : ∀ {members entries}, Record.keyed? members = some entries →
    ((∃ a, read (.object members) = some a) ↔ ∀ f ∈ s.fields, f.Accepts (s.given f entries))
  /-- Then a field that is given holds what is given for it, -/
  given : ∀ {members entries a}, Record.keyed? members = some entries →
    read (.object members) = some a →
      ∀ f ∈ s.fields, ∀ j, s.given f entries = [j] → f.read j = some (f.get a)
  /-- and a field that is not given is as in the empty object. -/
  missing : ∀ {members entries a}, Record.keyed? members = some entries →
    read (.object members) = some a →
      ∀ f ∈ s.fields, s.given f entries = [] → f.get a = f.get absent
  /-- Null is a valid value for optional fields only, and says no more than nothing. -/
  null : ∀ f ∈ s.fields, f.read .null = if f.optional then some (f.get absent) else none

end Schema

/-! ## Reading objects

From `ReadBy` to what objects describe, and from there to everything else that is said of reading.
-/

namespace Schema

variable {s : Schema α} {read : Json → Option α} {write : α → Value}
  {members : List (Quoted × Json)} {entries : List (String × Json)} {a absent : α}

/-- **What an object describes**: the thing whose fields hold what is given for them, or what they
hold in the thing that the empty object describes. -/
theorem ReadBy.object_iff (h : s.ReadBy absent read)
    (hkeys : Record.keyed? members = some entries) :
    read (.object members) = some a ↔
      ∀ f ∈ s.fields, f.Filled absent (s.given f entries) (f.get a) := by
  rw [h]
  constructor
  · rintro ⟨r, hr, hfields⟩ f hf
    obtain ⟨honce, rfl⟩ := (Record.ofJson?_object_eq_some_iff hkeys).1 hr
    exact (Field.ofRecord?_known_iff (honce f.name)).1 (hfields f hf)
  · intro hfilled
    refine ⟨_, (Record.ofJson?_object_eq_some_iff hkeys).2 ⟨fun name => ?_, rfl⟩, fun f hf =>
      (Field.ofRecord?_known_iff (hfilled f hf).length_le).2 (hfilled f hf)⟩
    by_cases hname : name ∈ s.fields.map (·.name)
    · obtain ⟨f, hf, rfl⟩ := List.mem_map.1 hname
      exact (hfilled f hf).length_le
    · rw [Shape.given_of_not_mem (s.names ▸ hname)]
      exact Nat.zero_le 1

/-- **A reader that goes field by field fills in the thing that the empty object describes.** -/
theorem ReadBy.filledIn (h : s.ReadBy absent read)
    (hnull : ∀ f ∈ s.fields, f.read .null = if f.optional then some (f.get absent) else none) :
    s.FilledInBy absent read where
  exists_iff hkeys := by
    constructor
    · rintro ⟨a, ha⟩ f hf
      exact ((h.object_iff hkeys).1 ha f hf).accepts
    · intro haccepts
      obtain ⟨a, ha⟩ := s.exists_of_fields _ fun f hf => (haccepts f hf).exists_filled absent
      exact ⟨a, (h.object_iff hkeys).2 ha⟩
  given hkeys ha f hf j hj := by
    have hfilled := (h.object_iff hkeys).1 ha f hf
    rw [hj] at hfilled
    cases hfilled with
    | given valid => exact valid
  missing hkeys ha f hf hnone := by
    have hfilled := (h.object_iff hkeys).1 ha f hf
    rw [hnone] at hfilled
    exact hfilled.eq_absent
  null := hnull

/-- A part that is read as the same makes no difference to a field. -/
theorem Field.Filled.replace {f : Field α} {p : f.Part} {j j' : Json} {first last : List Json}
    (hread : f.read j' = f.read j) (h : f.Filled absent (first ++ j :: last) p) :
    f.Filled absent (first ++ j' :: last) p := by
  have hlength := h.length_le
  rw [List.length_append, List.length_cons] at hlength
  obtain rfl : first = [] := List.eq_nil_of_length_eq_zero (by omega)
  obtain rfl : last = [] := List.eq_nil_of_length_eq_zero (by omega)
  cases h with
  | given valid => exact .given (hread.trans valid)

/-- **A member may be replaced by one that is read as the same**, wherever it stands. -/
theorem ReadBy.object_replace (h : s.ReadBy absent read) {before after : List (Quoted × Json)}
    {key : Quoted} {name : String} {j j' : Json} (hkey : key.text? = some name)
    (hread : ∀ f ∈ s.fields, s.shape.fieldOf? name = some f.name → f.read j' = f.read j)
    (ha : read (.object (before ++ (key, j) :: after)) = some a) :
    read (.object (before ++ (key, j') :: after)) = some a := by
  obtain ⟨r, hr, -⟩ := (h _ _).1 ha
  obtain ⟨entries, hentries, -⟩ := Option.bind_eq_some_iff.1 hr
  obtain ⟨first, last, rfl, hreplace⟩ := Record.keyed?_replace hkey hentries
  refine (h.object_iff (hreplace j')).2 fun f hf => ?_
  have hfilled := (h.object_iff hentries).1 ha f hf
  rw [given, Shape.given_append, Shape.given_cons] at hfilled ⊢
  split at hfilled
  · rename_i hname
    rw [if_pos hname]
    exact hfilled.replace (hread f hf hname)
  · rename_i hname
    rw [if_neg hname]
    exact hfilled

/-! ## Writing

A thing is written with all its fields in order, so the record that is read has each of them under
its name. -/

/-- **Things are read again as they were written, if all their fields are.** -/
theorem restores (hread : s.ReadBy absent read) (hwrite : s.WrittenBy write)
    (hfields : ∀ f ∈ s.fields, Json.Restores f.read f.write) : Json.Restores read write where
  read_write a := by
    have hnames : (s.fields.map fun f => (f.name, f.write (f.get a))).map (·.1) =
        s.shape.fields.map (·.1) := by
      rw [List.map_map, ← s.names]
      rfl
    have hrecord := Record.ofJson?_written s.proper hnames
    rw [hwrite, hread]
    refine ⟨_, hrecord, fun f hf => ?_⟩
    have hget : Record.get? ((s.fields.map fun f => (f.name, f.write (f.get a))).map fun e =>
        (e.1, e.2.json)) f.name = some (f.write (f.get a)).json := by
      refine findEntry_of_mem ?_ (List.mem_map_of_mem (List.mem_map_of_mem hf))
      rw [List.map_map]
      exact hnames ▸ s.proper.nodup
    rw [Field.ofRecord?, Record.field?, hget]
    exact (hfields f hf).read_write (f.get a)
  isWord a n hn := by
    rw [hwrite] at hn
    obtain ⟨m, hm, hn⟩ := Value.mem_numbers_object.1 hn
    obtain ⟨f, hf, rfl⟩ := List.mem_map.1 hm
    exact (hfields f hf).isWord (f.get a) n hn

end Schema
end QueryRights
