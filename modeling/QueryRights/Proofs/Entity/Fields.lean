import QueryRights.Config.ClientConfig
import QueryRights.Entity.Dashboard
import QueryRights.Entity.DataSource
import QueryRights.Entity.Query
import QueryRights.Entity.User
import QueryRights.Proofs.Json.Schema

/-!
# The fields of entities

Every kind of entity has its schema: the fields that payloads give for it, which of them may be
null, and the entity that an empty object describes.  What payloads leave open is settled there: a
data source is view-only unless a payload says otherwise, while a grant to a group is not.

A schema is not another definition of an entity, but a way to speak about the readers and writers
that there are.  A reader takes a record apart in a sequence of steps, each of which may fail; that
this is the same as to ask for each field on its own, in any order, is `readBy_schema`.  Once that
is known no proof has to follow a reader again, and what is true of things with fields is true of
entities: what objects describe, what they leave open, and that what is written is read again.

The lists of fields are where the kinds of entities differ, and they are data.  For each kind it
has to be checked that the fields are all that there is to the entity and that they do not depend
on one another.  A record with a field that is made from two others would fail the second, and no
schema could be given for it.

Users are not quite of this form.  Their permissions are given as a list and kept as a set, and the
set is made when all fields have been read.  Since making it cannot fail, it may as well be made
when the field is read.  Changes to a schedule have no schema either, for their one field must be
given; they are read in `QueryRights.Proofs.Entity.Written`.

## What is here

* The schemas of schedules, queries, dashboards, grants, data sources, users and configurations.
* `readBy_schema` and `writtenBy_schema` for each of them: **the entity is read and written field
  by field**.  Configurations are only read so; how their settings are written is another matter.
-/

set_option autoImplicit false

namespace QueryRights

open Schema (Field)

namespace Schedule

/-- What there is to a schedule. -/
def schema : Schema Schedule where
  shape := shape
  fields :=
    [.ofOptional "interval" Json.uint64? (fun n => .int n.toNat) interval,
     .ofOptional "time" Json.string? .string time,
     .ofOptional "day_of_week" Json.string? .string dayOfWeek,
     .ofOptional "until" dateOfJson? (fun d => .string d.text) lastDay]
  eq_of_fields := by
    rintro ⟨⟩ ⟨⟩ h
    simpa [Field.ofOptional] using h
  exists_of_fields := by
    intro P h
    simp only [List.forall_mem_cons] at h ⊢
    obtain ⟨⟨interval, h₁⟩, ⟨time, h₂⟩, ⟨dayOfWeek, h₃⟩, ⟨lastDay, h₄⟩, -⟩ := h
    exact ⟨⟨interval, time, dayOfWeek, lastDay⟩, h₁, h₂, h₃, h₄, List.forall_mem_nil _⟩

theorem readBy_schema : schema.ReadBy empty ofJson? := by
  rintro j ⟨⟩
  simp [ofJson?, schema, empty, Field.ofRecord?, Field.ofOptional, Option.bind_eq_some_iff]

theorem writtenBy_schema : schema.WrittenBy toValue := fun _ => rfl

end Schedule

namespace Query

/-- What there is to a query. -/
def schema : Schema Query where
  shape := shape
  fields :=
    [.ofOptional "id" Json.int64? (fun n => .int n.toInt) id,
     .plain "name" Json.string? .string name,
     .plain "is_draft" Json.bool? .bool isDraft,
     .plain "is_archived" Json.bool? .bool isArchived,
     .plain "is_safe" Json.bool? .bool isSafe,
     .plain "query" Json.string? .string text,
     .ofOptional "can_edit" Json.bool? .bool editable,
     .ofOptional "schedule" Schedule.ofJson? Schedule.toValue schedule,
     .ofOptional "api_key" Json.string? .string apiKey,
     .ofOptional "data_source_id" Json.int64? (fun n => .int n.toInt) sourceId]
  eq_of_fields := by
    rintro ⟨⟩ ⟨⟩ h
    simpa [Field.ofOptional, Field.plain] using h
  exists_of_fields := by
    intro P h
    simp only [List.forall_mem_cons] at h ⊢
    obtain ⟨⟨id, h₁⟩, ⟨name, h₂⟩, ⟨isDraft, h₃⟩, ⟨isArchived, h₄⟩, ⟨isSafe, h₅⟩, ⟨text, h₆⟩,
      ⟨editable, h₇⟩, ⟨schedule, h₈⟩, ⟨apiKey, h₉⟩, ⟨sourceId, h₁₀⟩, -⟩ := h
    exact ⟨⟨id, name, isDraft, isArchived, isSafe, text, editable, schedule, apiKey, sourceId⟩,
      h₁, h₂, h₃, h₄, h₅, h₆, h₇, h₈, h₉, h₁₀, List.forall_mem_nil _⟩

theorem readBy_schema : schema.ReadBy empty ofJson? := by
  rintro j ⟨⟩
  simp [ofJson?, schema, empty, Field.ofRecord?, Field.ofOptional, Field.plain,
    Option.bind_eq_some_iff, -Bool.exists_bool]

theorem writtenBy_schema : schema.WrittenBy toValue := fun _ => rfl

end Query

namespace Dashboard

/-- What there is to a dashboard. -/
def schema : Schema Dashboard where
  shape := shape
  fields :=
    [.ofOptional "id" Json.int64? (fun n => .int n.toInt) id,
     .ofOptional "can_edit" Json.bool? .bool editable,
     .ofOptional "api_key" Json.string? .string apiKey,
     .plain "query_ids" (Json.list? Json.int64?) (.list fun n => .int n.toInt) queryIds]
  eq_of_fields := by
    rintro ⟨⟩ ⟨⟩ h
    simpa [Field.ofOptional, Field.plain] using h
  exists_of_fields := by
    intro P h
    simp only [List.forall_mem_cons] at h ⊢
    obtain ⟨⟨id, h₁⟩, ⟨editable, h₂⟩, ⟨apiKey, h₃⟩, ⟨queryIds, h₄⟩, -⟩ := h
    exact ⟨⟨id, editable, apiKey, queryIds⟩, h₁, h₂, h₃, h₄, List.forall_mem_nil _⟩

theorem readBy_schema : schema.ReadBy empty ofJson? := by
  rintro j ⟨⟩
  simp [ofJson?, schema, empty, Field.ofRecord?, Field.ofOptional, Field.plain,
    Option.bind_eq_some_iff, -Bool.exists_bool]

theorem writtenBy_schema : schema.WrittenBy toValue := fun _ => rfl

end Dashboard

namespace GroupAccess

/-- What there is to a grant. -/
def schema : Schema GroupAccess where
  shape := shape
  fields :=
    [.plain "permissions" (Json.list? Json.string?) (.list .string) permissions,
     .plain "view_only" Json.bool? .bool viewOnly]
  eq_of_fields := by
    rintro ⟨⟩ ⟨⟩ h
    simpa [Field.plain] using h
  exists_of_fields := by
    intro P h
    simp only [List.forall_mem_cons] at h ⊢
    obtain ⟨⟨permissions, h₁⟩, ⟨viewOnly, h₂⟩, -⟩ := h
    exact ⟨⟨permissions, viewOnly⟩, h₁, h₂, List.forall_mem_nil _⟩

theorem readBy_schema : schema.ReadBy empty ofJson? := by
  rintro j ⟨⟩
  simp [ofJson?, schema, empty, Field.ofRecord?, Field.plain, Option.bind_eq_some_iff]

theorem writtenBy_schema : schema.WrittenBy toValue := fun _ => rfl

end GroupAccess

namespace DataSource

/-- What there is to a data source. -/
def schema : Schema DataSource where
  shape := shape
  fields :=
    [.ofOptional "id" Json.int64? (fun n => .int n.toInt) id,
     .plain "view_only" Json.bool? .bool viewOnly,
     .plain "groups" Grants.ofJson? Grants.toValue groups]
  eq_of_fields := by
    rintro ⟨⟩ ⟨⟩ h
    simpa [Field.ofOptional, Field.plain] using h
  exists_of_fields := by
    intro P h
    simp only [List.forall_mem_cons] at h ⊢
    obtain ⟨⟨id, h₁⟩, ⟨viewOnly, h₂⟩, ⟨groups, h₃⟩, -⟩ := h
    exact ⟨⟨id, viewOnly, groups⟩, h₁, h₂, h₃, List.forall_mem_nil _⟩

theorem readBy_schema : schema.ReadBy restricted ofJson? := by
  rintro j ⟨⟩
  simp [ofJson?, schema, restricted, Field.ofRecord?, Field.ofOptional, Field.plain,
    Option.bind_eq_some_iff, -Bool.exists_bool]

theorem writtenBy_schema : schema.WrittenBy toValue := fun _ => rfl

end DataSource

namespace User

/-- What there is to a user.  The permissions are given in any order, and as often as you like. -/
def schema : Schema User where
  shape := shape
  fields :=
    [.ofOptional "id" Json.int64? (fun n => .int n.toInt) id,
     .plain "name" Json.string? .string name,
     .ofOptional "email" Json.string? .string email,
     .plain "is_admin" Json.bool? .bool adminFlag,
     .plain "permissions" (fun j => (Json.list? Json.string? j).map NameSet.ofNames)
       (fun names => .list .string names.keys) permissions,
     .plain "groups" (Json.list? Json.int64?) (.list fun n => .int n.toInt) groupIds]
  eq_of_fields := by
    rintro ⟨⟩ ⟨⟩ h
    simpa [Field.ofOptional, Field.plain] using h
  exists_of_fields := by
    intro P h
    simp only [List.forall_mem_cons] at h ⊢
    obtain ⟨⟨id, h₁⟩, ⟨name, h₂⟩, ⟨email, h₃⟩, ⟨adminFlag, h₄⟩, ⟨permissions, h₅⟩,
      ⟨groupIds, h₆⟩, -⟩ := h
    exact ⟨⟨id, name, email, adminFlag, permissions, groupIds⟩, h₁, h₂, h₃, h₄, h₅, h₆,
      List.forall_mem_nil _⟩

theorem readBy_schema : schema.ReadBy anonymous ofJson? := by
  rintro j ⟨⟩
  -- The reader makes a set of the names only when all fields are read.
  have hnames : ∀ (r : Record Json), r.field? "permissions"
        (fun j => (Json.list? Json.string? j).map NameSet.ofNames) Table.empty =
      (r.field? "permissions" (Json.list? Json.string?) []).map NameSet.ofNames := by
    intro r
    rw [Record.field?, Record.field?]
    cases r.get? "permissions" <;> rfl
  simp only [ofJson?, Option.pure_def, Option.bind_eq_bind, Option.bind_eq_some_iff,
    Option.some.injEq, mk.injEq, ↓existsAndEq, and_true, true_and, exists_and_left, schema,
    Field.ofOptional, Field.plain, anonymous, List.mem_cons, List.not_mem_nil, or_false,
    Field.ofRecord?, forall_eq_or_imp, hnames, Option.map_eq_some_iff, forall_eq]
  constructor
  · rintro ⟨r, hr, hid, hname, hemail, hflag, names, hgiven, hgroups, rfl⟩
    exact ⟨r, hr, hid, hname, hemail, hflag, ⟨names, hgiven, rfl⟩, hgroups⟩
  · rintro ⟨r, hr, hid, hname, hemail, hflag, ⟨names, hgiven, rfl⟩, hgroups⟩
    exact ⟨r, hr, hid, hname, hemail, hflag, names, hgiven, hgroups, rfl⟩

theorem writtenBy_schema : schema.WrittenBy toValue := fun _ => rfl

end User

namespace ClientConfig

/-- What there is to a configuration, in which arrays and objects are nested no deeper than
`room`. -/
def schema (room : Nat) : Schema ClientConfig where
  shape := shape
  fields :=
    [.ofOptional "queryRefreshIntervals" (Setting.ofJson? (room - 1)) Setting.toValue querySetting,
     .ofOptional "dashboardRefreshIntervals" (Setting.ofJson? (room - 1)) Setting.toValue
       dashboardSetting]
  eq_of_fields := by
    rintro ⟨⟩ ⟨⟩ h
    simpa [Field.ofOptional] using h
  exists_of_fields := by
    intro P h
    simp only [List.forall_mem_cons] at h ⊢
    obtain ⟨⟨querySetting, h₁⟩, ⟨dashboardSetting, h₂⟩, -⟩ := h
    exact ⟨⟨querySetting, dashboardSetting⟩, h₁, h₂, List.forall_mem_nil _⟩

theorem readBy_schema (room : Nat) : (schema room).ReadBy empty (ofJson? room) := by
  rintro j ⟨⟩
  simp [ofJson?, schema, empty, Field.ofRecord?, Field.ofOptional, Option.bind_eq_some_iff]

end ClientConfig
end QueryRights
