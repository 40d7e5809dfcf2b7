import QueryRights.Proofs.Entity.Fields
import QueryRights.Proofs.Flags.Memoized

/-!
# Entities that are given in part

A payload need not say everything about an entity.  What it leaves open is as in the entity that
stands for nothing at all, and that one grants nothing: in particular, a data source of which it is
not said whether it is view-only counts as one that is not known.

For each kind of entity `filledIn` says what its reader does with any object whose keys are texts:
when it succeeds, what the fields hold that are given, what those hold that are not, and what null
does.  All four follow from the schema (`Schema.ReadBy.filledIn`).  The only thing left to look at
in an entity is null.  A field that may be null must be empty in the default entity, so that null
and nothing come to the same, and a field that always holds something must refuse null.  Each line
of a proof here is one field.

A record may also be given as an array, where fields can be missing at the end.  Arrays are not
covered, nor are objects with a key that denotes no text; no record is read from those.

What makes the choice of defaults matter is a data source.  The mark that restricts it may have
been left out, in an otherwise full description with an id and with grants to groups, and the flags
of any query on it are then those on a source that nobody knows anything about.

## What is here

* `filledIn` for each kind of entity and for configurations.
* `DataSource.viewOnly_of_object`: what is not said of a data source.
* `entities_filled_in`: **whatever objects leave open is as in the default, and a data source is no
  less restricted for what else is known of it**.
-/

set_option autoImplicit false

namespace QueryRights

theorem Schedule.filledIn : schema.FilledInBy empty ofJson? := by
  refine readBy_schema.filledIn ?_
  simp only [schema, List.forall_mem_cons]
  exact ⟨rfl, rfl, rfl, rfl, List.forall_mem_nil _⟩

theorem Query.filledIn : schema.FilledInBy empty ofJson? := by
  refine readBy_schema.filledIn ?_
  simp only [schema, List.forall_mem_cons]
  exact ⟨rfl, rfl, rfl, rfl, rfl, rfl, rfl, rfl, rfl, rfl, List.forall_mem_nil _⟩

theorem Dashboard.filledIn : schema.FilledInBy empty ofJson? := by
  refine readBy_schema.filledIn ?_
  simp only [schema, List.forall_mem_cons]
  exact ⟨rfl, rfl, rfl, rfl, List.forall_mem_nil _⟩

theorem GroupAccess.filledIn : schema.FilledInBy empty ofJson? := by
  refine readBy_schema.filledIn ?_
  simp only [schema, List.forall_mem_cons]
  exact ⟨rfl, rfl, List.forall_mem_nil _⟩

theorem DataSource.filledIn : schema.FilledInBy restricted ofJson? := by
  refine readBy_schema.filledIn ?_
  simp only [schema, List.forall_mem_cons]
  exact ⟨rfl, rfl, rfl, List.forall_mem_nil _⟩

theorem User.filledIn : schema.FilledInBy anonymous ofJson? := by
  refine readBy_schema.filledIn ?_
  simp only [schema, List.forall_mem_cons]
  exact ⟨rfl, rfl, rfl, rfl, rfl, rfl, List.forall_mem_nil _⟩

theorem ClientConfig.filledIn (room : Nat) :
    (schema room).FilledInBy empty (ofJson? room) := by
  refine (readBy_schema room).filledIn ?_
  simp only [schema, List.forall_mem_cons]
  exact ⟨rfl, rfl, List.forall_mem_nil _⟩

/-! ## Flags

Flags look at nothing but the mark of a source, so all sources with the mark are alike to them. -/

/-- A data source is view-only unless an object says whether it is. -/
theorem DataSource.viewOnly_of_object {members : List (Quoted × Json)} {d : DataSource}
    (hread : ofJson? (.object members) = some d)
    (h : ∀ m ∈ members, m.1.text? ≠ some "view_only") : d.viewOnly = true := by
  obtain ⟨r, hr, -⟩ := (readBy_schema _ _).1 hread
  obtain ⟨entries, hkeys, -⟩ := Option.bind_eq_some_iff.1 hr
  have hfield : Schema.Field.plain "view_only" Json.bool? .bool viewOnly ∈ schema.fields :=
    List.mem_cons_of_mem _ List.mem_cons_self
  exact filledIn.missing hkeys hread _ hfield (Record.given_ofNames_eq_nil hkeys h)

/-- **Entities that are given in part are filled in.**  Whatever an object leaves open is as in the
default, and all data sources of which it is left open whether they are view-only have the same
flags, which are those of an unknown one. -/
theorem entities_filled_in :
    Schedule.schema.FilledInBy .empty Schedule.ofJson? ∧
    Query.schema.FilledInBy .empty Query.ofJson? ∧
    Dashboard.schema.FilledInBy .empty Dashboard.ofJson? ∧
    DataSource.schema.FilledInBy .restricted DataSource.ofJson? ∧
    GroupAccess.schema.FilledInBy .empty GroupAccess.ofJson? ∧
    User.schema.FilledInBy .anonymous User.ofJson? ∧
    (∀ room, (ClientConfig.schema room).FilledInBy .empty (ClientConfig.ofJson? room)) ∧
    DataSource.restricted.viewOnly = true ∧
    ∀ (c : Context) (q : Query),
      QueryFlags.derive c q (some .restricted) = QueryFlags.derive c q none ∧
      ∀ members d, DataSource.ofJson? (.object members) = some d →
        (∀ m ∈ members, m.1.text? ≠ some "view_only") →
          QueryFlags.derive c q (some d) = QueryFlags.derive c q none := by
  refine ⟨Schedule.filledIn, Query.filledIn, Dashboard.filledIn, DataSource.filledIn,
    GroupAccess.filledIn, User.filledIn, ClientConfig.filledIn, rfl, fun c q =>
      ⟨QueryFlags.derive_source c q rfl, fun members d hread h => ?_⟩⟩
  exact QueryFlags.derive_source c q (DataSource.viewOnly_of_object hread h)

/-- A data source with an id, with a grant that is not view-only, and with a number beyond all
doubles under a key that is not known. -/
theorem entities_filled_in_of_granted_source :
    let grant : Json := .object [(.ofText "permissions", .array [.string (.ofText "edit_query")])]
    let members : List (Quoted × Json) := [(.ofText "groups", .object [(.ofText "-3", grant)]),
      (.ofText "hue", .number none), (.ofText "id", .number (some (.integer 7)))]
    let d : DataSource := ⟨some 7, true, Table.ofList [(-3, ⟨["edit_query"], false⟩)]⟩
    let q : Query := { Query.empty with text := "select 1" }
    DataSource.ofJson? (.object members) = some d ∧
      QueryFlags.derive (.ofUser User.admin.principal .empty) q (some d) =
        QueryFlags.derive (.ofUser User.admin.principal .empty) q none := by
  intro grant members d q
  have hread : DataSource.ofJson? (.object members) = some d := by decide +kernel
  obtain ⟨-, -, -, -, -, -, -, -, hflags⟩ := entities_filled_in
  exact ⟨hread, (hflags _ q).2 members d hread (by simp [members, Quoted.ofText])⟩

end QueryRights
