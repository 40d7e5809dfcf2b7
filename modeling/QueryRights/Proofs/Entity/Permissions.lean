import Mathlib.Data.List.Sort
import QueryRights.Proofs.Entity.Written
import QueryRights.Proofs.Policy.Defaults

/-!
# The permissions of a user

A user starts out with a list of permissions, given by a payload or by the host, and may be granted
more, one after the other.  What is kept is a set of names.  So in the end it matters which names
were listed or granted, and not in which order, how often, or whether by one way or the other.

That the order makes no difference should be more than a statement about what is held.  Two users
who hold the same are to be *the same user*, so that nothing can tell them apart, the text that is
written for them included.  For this the set must be determined by its names, and it is, because it
is kept sorted: a sorted list without repetitions is determined by its members (`Table.ext_find?`).
The order is that of code points, and it is stated here as a lexicographic order on texts, since it
shows in what is written.

Names are compared as they are.  There is no list of names that a user may hold: one that is not in
the table of permissions, or that is spelled with a capital letter, is held like any other, and it
is not the permission that it resembles.  Only what is granted one by one is a permission of the
table.

A payload lists what it likes, in any order and with repetitions, and the user that it describes
holds just that (`Lists.holds_iff`).  That such payloads exist for every list, whatever the user is
otherwise, is proved as well (`User.exists_json_members`); without it, what is said of users who
start with a list could be about very few lists.

## What is here

* `Text.Precedes` and `Text.before_iff_precedes`: the order of texts is that of their code points.
* `Table.ext_find?` and `NameSet.ext_contains`: tables with the same look-ups are the same table.
* `User.Lists`: a user and the list of permissions they start with.
* `User.grantAll` and `User.holds_grantAll`: a user after a sequence of grants.
* `User.permissions_after_grants`: **what a user holds, is and is written as in the end**.
-/

set_option autoImplicit false

namespace QueryRights

/-! ## Sorted sets of texts

A set of names is a table with nothing in it but keys.  Two tables with the same look-ups have the
same entries, and a sorted list is determined by those. -/

namespace Text

/-- The first text comes before the second, going by code points. -/
def Precedes (a b : String) : Prop :=
  List.Lex (fun c d : Char => c.toNat < d.toNat) a.toList b.toList

theorem before_iff_lex {s t : List Char} :
    before s t = true ↔ List.Lex (fun c d : Char => c.toNat < d.toNat) s t := by
  induction s generalizing t with
  | nil =>
    cases t with
    | nil => exact ⟨fun h => (nomatch h), fun h => (nomatch h)⟩
    | cons d t => exact ⟨fun _ => .nil, fun _ => rfl⟩
  | cons c s ih =>
    cases t with
    | nil => exact ⟨fun h => (nomatch h), fun h => (nomatch h)⟩
    | cons d t =>
      rw [before, Bool.or_eq_true, Bool.and_eq_true, Nat.blt_eq, Nat.beq_eq, ih]
      constructor
      · rintro (h | ⟨h, hrest⟩)
        · exact .rel h
        · exact Char.toNat_inj.1 h ▸ .cons hrest
      · rintro (_ | h | h)
        · exact .inl h
        · exact .inr ⟨rfl, h⟩

theorem before_iff_precedes {a b : String} : KeyOrder.before a b = true ↔ Precedes a b :=
  before_iff_lex

end Text

theorem Table.ext_find? {κ ν : Type} [KeyOrder κ] [DecidableEq κ] {s t : Table κ ν}
    (h : ∀ k, s.find? k = t.find? k) : s = t := by
  let before (a b : κ × ν) : Prop := KeyOrder.before a.1 b.1 = true
  have : Std.Irrefl before := ⟨fun _ ha => KeyOrder.ne_of_before ha rfl⟩
  have : Std.Antisymm before := ⟨fun _ _ hab hba =>
    absurd hba (by simp [before, KeyOrder.before_asymm hab])⟩
  refine Table.ext (List.Pairwise.eq_of_mem_iff (r := before) s.increasing t.increasing ?_)
  rintro ⟨k, v⟩
  rw [← find?_eq_some_iff, ← find?_eq_some_iff, h]

namespace NameSet

/-- **Sets of the same names are the same set.** -/
theorem ext_contains {s t : NameSet} (h : ∀ n, s.contains n = t.contains n) : s = t := by
  refine Table.ext_find? fun n => ?_
  have hn := h n
  rw [Table.contains, Table.contains] at hn
  cases hs : s.find? n <;> cases ht : t.find? n <;> simp_all

theorem mem_keys_iff {s : NameSet} {n : String} : n ∈ s.keys ↔ s.contains n = true := by
  rw [Table.contains, Option.isSome_iff_exists, Table.keys, List.mem_map]
  simp only [Table.find?_eq_some_iff]
  constructor
  · rintro ⟨e, he, rfl⟩
    exact ⟨e.2, he⟩
  · rintro ⟨v, hv⟩
    exact ⟨(n, v), hv, rfl⟩

/-- The names of a set are in the order of their code points, none twice. -/
theorem precedes_keys (s : NameSet) : s.keys.Pairwise Text.Precedes :=
  List.pairwise_map.2 (s.increasing.imp Text.before_iff_precedes.1)

end NameSet

namespace User

open Json (Restores)

/-! ## Listed permissions

Where a user's first permissions come from.  There are two ways, and from here on they are one:
what counts is that the set was made from the list. -/

/-- The permissions that a payload lists for a user. -/
def listed? (j : Json) : Option (List String) := do
  let r ← Record.ofJson? shape j
  r.field? "permissions" (Json.list? Json.string?) []

/-- The user starts with a list of permissions. -/
inductive Lists : User → List String → Prop where
  /-- The host makes a user with the list, -/
  | made (names : List String) : Lists (withPermissions names) names
  /-- or a payload describes the user and gives the list. -/
  | read {j : Json} {u : User} {names : List String} (hread : ofJson? j = some u)
      (hlisted : listed? j = some names) : Lists u names

/-- A payload that describes a user lists permissions, if only none, and the user has just these. -/
theorem exists_listed {j : Json} {u : User} (h : ofJson? j = some u) :
    ∃ names, listed? j = some names ∧ u.permissions = NameSet.ofNames names := by
  obtain ⟨r, hr, h⟩ := Option.bind_eq_some_iff.1 h
  obtain ⟨id, -, h⟩ := Option.bind_eq_some_iff.1 h
  obtain ⟨name, -, h⟩ := Option.bind_eq_some_iff.1 h
  obtain ⟨email, -, h⟩ := Option.bind_eq_some_iff.1 h
  obtain ⟨adminFlag, -, h⟩ := Option.bind_eq_some_iff.1 h
  obtain ⟨names, hnames, h⟩ := Option.bind_eq_some_iff.1 h
  obtain ⟨groupIds, -, h⟩ := Option.bind_eq_some_iff.1 h
  cases h
  exact ⟨names, by rw [listed?, hr]; exact hnames, rfl⟩

theorem Lists.permissions_eq {u : User} {names : List String} (h : u.Lists names) :
    u.permissions = NameSet.ofNames names := by
  cases h with
  | made => rfl
  | read hread hlisted =>
    obtain ⟨names', hlisted', hpermissions⟩ := exists_listed hread
    cases hlisted.symm.trans hlisted'
    exact hpermissions

theorem Lists.holds_iff {u : User} {names : List String} (h : u.Lists names) {n : String} :
    u.holds n = true ↔ n ∈ names := by
  rw [holds, h.permissions_eq, NameSet.contains_ofNames, decide_eq_true_eq]

/-- The members of an object that describes the user and lists permissions, in any order and as
often as you like. -/
def members (u : User) (names : List String) : List (String × Value) :=
  [("id", .optional (fun n => .int n.toInt) u.id),
   ("name", .string u.name),
   ("email", .optional .string u.email),
   ("is_admin", .bool u.adminFlag),
   ("permissions", .list .string names),
   ("groups", .list (fun n => .int n.toInt) u.groupIds)]

theorem isWord_of_mem_numbers {u : User} {names : List String} {n : Number}
    (hn : n ∈ (Value.object (u.members names)).numbers) : n.IsWord := by
  obtain ⟨m, hm, hn⟩ := Value.mem_numbers_object.1 hn
  simp only [members, List.mem_cons, List.not_mem_nil, or_false] at hm
  rcases hm with rfl | rfl | rfl | rfl | rfl | rfl
  · exact (Restores.optional .int64).isWord u.id n hn
  · exact Restores.string.isWord u.name n hn
  · exact (Restores.optional .string).isWord u.email n hn
  · exact Restores.bool.isWord u.adminFlag n hn
  · exact (Restores.list .string).isWord names n hn
  · exact (Restores.list .int64).isWord u.groupIds n hn

/-- **Any list of permissions may be given**, whatever the user is otherwise. -/
theorem exists_json_members (u : User) (names : List String) :
    ∃ j, Json.ofText? (Value.object (u.members names)).text = some j ∧ listed? j = some names ∧
      ofJson? j = some { u with permissions := NameSet.ofNames names } := by
  have hrecord : Record.ofJson? shape (Value.object (u.members names)).json =
      some ((u.members names).map fun e => (e.1, e.2.json)) :=
    Record.ofJson?_written (by decide) rfl
  refine ⟨_, Json.ofText?_text fun n hn => (isWord_of_mem_numbers hn).readsBack, ?_, ?_⟩
  · rw [listed?, hrecord]
    exact (Restores.list .string).read_write names
  · rw [ofJson?, hrecord]
    simp [members, Record.field?, Record.get?, findEntry,
      (Restores.optional Restores.int64).read_write, Restores.string.read_write,
      (Restores.optional Restores.string).read_write, Restores.bool.read_write,
      (Restores.list Restores.string).read_write, (Restores.list Restores.int64).read_write]

/-! ## Grants

A run of grants, each of which adds a name and changes nothing else.  By induction on the run, with
what was held before left open, so that the step is about one grant. -/

/-- The user after permissions are granted one after the other. -/
def grantAll (u : User) (ps : List Permission) : User := ps.foldl grant u

/-- Grants change nothing but the permissions. -/
theorem grantAll_eq (u : User) (ps : List Permission) :
    u.grantAll ps = { u with permissions := (u.grantAll ps).permissions } := by
  induction ps generalizing u with
  | nil => rfl
  | cons p rest ih => exact ih (u.grant p)

/-- **After some grants a user holds what they held before and what was granted.** -/
theorem holds_grantAll {u : User} {ps : List Permission} {n : String} :
    (u.grantAll ps).holds n = true ↔ u.holds n = true ∨ ∃ p ∈ ps, p.name = n := by
  induction ps generalizing u with
  | nil => simp [grantAll]
  | cons p rest ih =>
    rw [grantAll, List.foldl_cons, ← grantAll, ih, holds_grant, Bool.or_eq_true, decide_eq_true_eq,
      List.exists_mem_cons_iff, or_comm (a := n = p.name), or_assoc, eq_comm (a := n)]

theorem isAdmin_grantAll {u : User} {ps : List Permission} :
    (u.grantAll ps).isAdmin = true ↔ u.isAdmin = true ∨ .admin ∈ ps := by
  have hflag : (u.grantAll ps).adminFlag = u.adminFlag := by rw [grantAll_eq]
  have hnamed : (∃ p ∈ ps, p.name = Permission.admin.name) ↔ .admin ∈ ps :=
    ⟨fun ⟨p, hp, hname⟩ => Permission.name_injective hname ▸ hp, fun h => ⟨_, h, rfl⟩⟩
  rw [isAdmin, isAdmin, Bool.or_eq_true, Bool.or_eq_true, hflag, holds_grantAll, hnamed, or_assoc]

/-- Users who are alike but for their permissions, and hold the same, are the same. -/
theorem ext_holds {u v : User} (halike : v = { u with permissions := v.permissions })
    (h : ∀ n, v.holds n = u.holds n) : v = u := by
  rw [halike, NameSet.ext_contains h]

/-! ## In the end

Both together.  A name is held in the end if it was listed or granted, and users that are alike
otherwise are the same as soon as this is so of the same names. -/

/-- A name that is listed, or that of a permission that is granted. -/
def Given (names : List String) (ps : List Permission) (n : String) : Prop :=
  n ∈ names ∨ ∃ p ∈ ps, p.name = n

theorem Lists.holds_grantAll_iff {u : User} {names : List String} (h : u.Lists names)
    {ps : List Permission} {n : String} :
    (u.grantAll ps).holds n = true ↔ Given names ps n := by
  rw [holds_grantAll, h.holds_iff, Given]

theorem Lists.isAdmin_grantAll_iff {u : User} {names : List String} (h : u.Lists names)
    {ps : List Permission} :
    (u.grantAll ps).isAdmin = true ↔
      u.adminFlag = true ∨ "admin" ∈ names ∨ .admin ∈ ps := by
  rw [isAdmin_grantAll, isAdmin, Bool.or_eq_true, h.holds_iff, or_assoc]
  rfl

/-- **The order does not matter, nor does repetition**, nor whether a name is listed or granted. -/
theorem Lists.grantAll_congr {u v : User} {names names' : List String} (hu : u.Lists names)
    (hv : v.Lists names') {ps ps' : List Permission}
    (halike : v = { u with permissions := v.permissions })
    (hgiven : ∀ n, Given names' ps' n ↔ Given names ps n) : v.grantAll ps' = u.grantAll ps := by
  refine ext_holds ?_ fun n => ?_
  · rw [grantAll_eq v, grantAll_eq u, halike]
  · rw [Bool.eq_iff_iff, hu.holds_grantAll_iff, hv.holds_grantAll_iff, hgiven]

/-- **What a user holds, is and is written as in the end.**  Every payload that describes a user
lists permissions, and any list may be given.  Whether it is a payload or the host that lists them,
after any sequence of grants the user holds what was listed or granted and nothing else, is an
administrator by the flag or by having been listed or granted the permission for it, and is the same
as before in all other fields; and users who are given the same names are the same in the end.  The
permissions are written each once, in the order of their code points. -/
theorem permissions_after_grants :
    (∀ j u, ofJson? j = some u → ∃ names, listed? j = some names) ∧
    (∀ (u : User) (names : List String), ∃ j,
      Json.ofText? (Value.object (u.members names)).text = some j ∧ listed? j = some names ∧
        ofJson? j = some { u with permissions := NameSet.ofNames names }) ∧
    ∀ (u : User) (names : List String) (ps : List Permission), u.Lists names →
      (∀ n, (u.grantAll ps).holds n = true ↔ Given names ps n) ∧
      ((u.grantAll ps).isAdmin = true ↔
        u.adminFlag = true ∨ "admin" ∈ names ∨ .admin ∈ ps) ∧
      (∀ (v : User) names' ps', v.Lists names' → v = { u with permissions := v.permissions } →
        (∀ n, Given names' ps' n ↔ Given names ps n) → v.grantAll ps' = u.grantAll ps) ∧
      u.grantAll ps = { u with permissions := (u.grantAll ps).permissions } ∧
      ∃ written, (u.grantAll ps).toValue = .object ((u.grantAll ps).members written) ∧
        written.Pairwise Text.Precedes ∧ ∀ n, n ∈ written ↔ Given names ps n := by
  refine ⟨fun j u h => ?_, exists_json_members, fun u names ps h =>
    ⟨fun n => h.holds_grantAll_iff, h.isAdmin_grantAll_iff,
      fun v names' ps' hv halike => h.grantAll_congr hv halike, grantAll_eq u ps,
      (u.grantAll ps).permissions.keys, rfl, NameSet.precedes_keys _, fun n => ?_⟩⟩
  · obtain ⟨names, hlisted, -⟩ := exists_listed h
    exact ⟨names, hlisted⟩
  · rw [NameSet.mem_keys_iff]
    exact h.holds_grantAll_iff

/-- Names with a capital letter or with a space are names of their own.  The user of a payload who
is granted permissions, one of them twice, is the same in the end as one made by the host with
other lists. -/
theorem permissions_after_grants_of_repetitions :
    let names := ["view_query", "Admin", " edit_query", "view_query"]
    let j : Json := .object [(.ofText "permissions", (Value.list .string names).json)]
    let u := withPermissions names
    let v := withPermissions [" edit_query", "schedule_query", "Admin", "view_query"]
    let ps : List Permission := [.scheduleQuery, .admin, .scheduleQuery]
    ofJson? j = some u ∧ (u.grantAll ps).holds "edit_query" = false ∧
      (u.grantAll [.scheduleQuery]).isAdmin = false ∧ (u.grantAll ps).isAdmin = true ∧
      v.grantAll [.admin] = u.grantAll ps := by
  intro names j u v ps
  have hread : ofJson? j = some u := by decide +kernel
  have hlists : u.Lists names := .read hread (by decide +kernel)
  obtain ⟨-, -, hend⟩ := permissions_after_grants
  obtain ⟨hholds, hadmin, hsame, -, -⟩ := hend u names ps hlists
  have hother := (hend u names [.scheduleQuery] hlists).2.1
  refine ⟨hread, ?_, ?_, hadmin.2 (by decide), hsame v _ [.admin] (.made _) rfl fun n => ?_⟩
  · rw [Bool.eq_false_iff, Ne, hholds]
    simp [Given, names, ps, Permission.name]
  · rw [Bool.eq_false_iff, Ne, hother]
    decide
  · simp only [Given, names, ps, Permission.name, List.mem_cons, List.not_mem_nil, or_false,
      exists_eq_or_imp, exists_eq_left]
    grind

end User
end QueryRights
