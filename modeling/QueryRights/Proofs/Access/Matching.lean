import QueryRights.Access

/-!
# Access by matching grants

The level of a principal is found by going through the ids of their groups, which may be in any
order, given more than once, and without a grant to them.  What counts in the end are the grants
that match, which are those that name the permission and are given to a group of the principal.

`Grants.level?` is a fold.  It looks every id up in the table of grants, drops the grants that do
not name the permission, and keeps the more permissive of the level so far and the next one.
Nothing of this should be visible in what is promised about access, so the proof takes two steps
away from it.

* `AccessLevel.Highest` says which one of some levels is the highest, if there are any: a member,
  and a bound for all of them.  It is what the fold keeps with every level that it takes in, so
  that `Highest.foldl` is an induction without any case distinction on levels.  And the highest
  level depends on nothing but which levels there are (`Highest.unique`), so order and repetition
  of the ids are gone.
* `mem_matching` turns the two filters of the scan into `Grants.Matches`, an `∃` over the entries
  of the table.  With it the ids are gone to which there is no grant.

Administrators are outside of all this: they have the full level, even where nothing is granted to
anybody.  For everybody else there are three outcomes, with one lemma for each.  That there is no
level at all is an outcome of its own and not the lowest level, since it is not even enough for
viewing.

## What is here

* `AccessLevel.Highest`, and `AccessLevel.Highest.foldl`: going through levels one after the other
  finds the highest.
* `Grants.Matches` and `Grants.highest_level?`: the level of anybody but an administrator is the
  highest of the grants that match.
* `Grants.level?_eq_full_iff`, `Grants.level?_eq_view_iff`, `Grants.level?_eq_none_iff`.
* `Grants.access_by_matching_grants`: **what a principal may do is what matching grants allow**.
-/

set_option autoImplicit false

namespace QueryRights

/-! ## The highest level

Levels are ordered by their rank, and `join` is the larger one of two.  This section is about lists
of levels and knows nothing of grants; what it establishes is that the fold of `Grants.level?`
finds the highest level of the list, and that this level does not depend on how the list is
arranged. -/

namespace AccessLevel

theorem atMost_refl (a : AccessLevel) : a.atMost a = true := by
  cases a <;> rfl

theorem atMost_trans {a b c : AccessLevel} (hab : a.atMost b = true) (hbc : b.atMost c = true) :
    a.atMost c = true :=
  Nat.ble_eq ▸ Nat.le_trans (Nat.ble_eq ▸ hab) (Nat.ble_eq ▸ hbc)

theorem atMost_antisymm {a b : AccessLevel} (hab : a.atMost b = true) (hba : b.atMost a = true) :
    a = b := by
  revert hab hba
  cases a <;> cases b <;> decide

theorem full_atMost_iff {a : AccessLevel} : full.atMost a = true ↔ a = full := by
  cases a <;> decide

theorem ofViewOnly_eq_full_iff {viewOnly : Bool} :
    ofViewOnly viewOnly = full ↔ viewOnly = false := by
  cases viewOnly <;> decide

theorem join_eq (a b : AccessLevel) : a.join b = a ∨ a.join b = b := by
  rw [join]
  split
  · exact .inr rfl
  · exact .inl rfl

/-- One more level, or the highest so far if that is higher. -/
def raised (best : Option AccessLevel) (l : AccessLevel) : Option AccessLevel :=
  some (match best with
    | none => l
    | some b => b.join l)

/-- The highest of some levels, which there is unless there are none. -/
def Highest (levels : List AccessLevel) : Option AccessLevel → Prop
  | none => levels = []
  | some a => a ∈ levels ∧ ∀ b ∈ levels, b.atMost a = true

namespace Highest

variable {xs ys : List AccessLevel} {best : Option AccessLevel}

theorem concat (h : Highest xs best) (l : AccessLevel) : Highest (xs ++ [l]) (raised best l) := by
  cases best with
  | none =>
    have hxs : xs = [] := h
    rw [hxs]
    exact ⟨List.mem_singleton_self l, List.forall_mem_singleton.2 (atMost_refl l)⟩
  | some b =>
    obtain ⟨hb, hmost⟩ := h
    have hjoin : b.atMost (b.join l) = true ∧ l.atMost (b.join l) = true := by
      rw [← Bool.and_eq_true, ← atMost_join_iff]
      exact atMost_refl _
    refine ⟨?_, fun a ha => ?_⟩
    · show b.join l ∈ xs ++ [l]
      rcases join_eq b l with heq | heq <;> rw [heq]
      · exact List.mem_append_left _ hb
      · exact List.mem_append_right _ (List.mem_singleton_self l)
    · rcases List.mem_append.1 ha with ha | ha
      · exact atMost_trans (hmost a ha) hjoin.1
      · exact List.mem_singleton.1 ha ▸ hjoin.2

/-- **Going through levels one after the other finds the highest.** -/
theorem foldl (h : Highest xs best) (ys : List AccessLevel) :
    Highest (xs ++ ys) (ys.foldl raised best) := by
  induction ys generalizing xs best with
  | nil => exact (List.append_nil xs).symm ▸ h
  | cons l rest ih =>
    rw [List.append_cons, List.foldl_cons]
    exact ih (h.concat l)

theorem eq_none_iff (h : Highest xs best) : best = none ↔ xs = [] := by
  cases best with
  | none => exact ⟨fun _ => h, fun _ => rfl⟩
  | some a =>
    refine ⟨fun hnone => (nomatch hnone), fun hxs => ?_⟩
    rw [hxs] at h
    exact absurd h.1 List.not_mem_nil

theorem eq_full_iff (h : Highest xs best) : best = some .full ↔ .full ∈ xs := by
  constructor
  · rintro rfl
    exact h.1
  · intro hfull
    cases best with
    | none => exact absurd (h ▸ hfull) List.not_mem_nil
    | some a => rw [full_atMost_iff.1 (h.2 _ hfull)]

/-- The highest level depends on nothing but which levels there are. -/
theorem unique {best' : Option AccessLevel} (h : Highest xs best) (h' : Highest ys best')
    (hmem : ∀ l, l ∈ xs ↔ l ∈ ys) : best = best' := by
  cases best with
  | none =>
    have hys : ys = [] := List.eq_nil_iff_forall_not_mem.2 fun l hl => by
      rw [← hmem, show xs = [] from h] at hl
      exact List.not_mem_nil hl
    exact (h'.eq_none_iff.2 hys).symm
  | some a =>
    cases best' with
    | none => exact absurd (h' ▸ (hmem a).1 h.1) List.not_mem_nil
    | some b =>
      have hab : a.atMost b = true := h'.2 a ((hmem a).1 h.1)
      have hba : b.atMost a = true := h.2 b ((hmem b).2 h'.1)
      rw [atMost_antisymm hab hba]

end Highest
end AccessLevel

/-! ## Grants that match

One id may lead to a grant more than once, and `matching` has the grant as often.  `Matches` does
not show that, which is why it is the vocabulary of all statements here, and `matching` only
appears in the proofs. -/

theorem GroupAccess.names_iff {g : GroupAccess} {permission : String} :
    g.names permission = true ↔ permission ∈ g.permissions := by
  simp [names]

namespace Grants

open AccessLevel (Highest)

variable (groups : Grants) (user : Principal) (permission : String)

/-- A grant matches if it is given to a group of the principal and names the permission. -/
def Matches (g : GroupAccess) : Prop :=
  ∃ id, id ∈ user.groupIds ∧ (id, g) ∈ groups.entries ∧ permission ∈ g.permissions

/-- The grants that match, in the order of the ids. -/
def matching : List GroupAccess :=
  (user.groupIds.filterMap groups.find?).filter (·.names permission)

variable {groups user permission}

theorem mem_matching {g : GroupAccess} :
    g ∈ groups.matching user permission ↔ groups.Matches user permission g := by
  rw [matching, List.mem_filter, List.mem_filterMap, GroupAccess.names_iff]
  simp only [Table.find?_eq_some_iff]
  constructor
  · rintro ⟨⟨id, hid, hgrant⟩, hnamed⟩
    exact ⟨id, hid, hgrant, hnamed⟩
  · rintro ⟨id, hid, hgrant, hnamed⟩
    exact ⟨⟨id, hid, hgrant⟩, hnamed⟩

theorem level?_of_isAdmin (h : user.isAdmin = true) :
    groups.level? user permission = some .full :=
  if_pos h

/-- **The level of anybody but an administrator is the highest of the grants that match.** -/
theorem highest_level? (h : user.isAdmin = false) :
    Highest ((groups.matching user permission).map fun g => AccessLevel.ofViewOnly g.viewOnly)
      (groups.level? user permission) := by
  have hnone : Highest [] none := rfl
  rw [level?, if_neg (by rw [h]; exact Bool.false_ne_true)]
  exact hnone.foldl _

theorem level?_eq_none_iff (h : user.isAdmin = false) :
    groups.level? user permission = none ↔ ∀ g, ¬ groups.Matches user permission g := by
  rw [(highest_level? h).eq_none_iff, List.map_eq_nil_iff, List.eq_nil_iff_forall_not_mem]
  simp only [mem_matching]

theorem level?_eq_full_iff (h : user.isAdmin = false) :
    groups.level? user permission = some .full ↔
      ∃ g, groups.Matches user permission g ∧ g.viewOnly = false := by
  rw [(highest_level? h).eq_full_iff, List.mem_map]
  simp only [mem_matching, AccessLevel.ofViewOnly_eq_full_iff]

theorem level?_eq_view_iff (h : user.isAdmin = false) :
    groups.level? user permission = some .view ↔
      (∃ g, groups.Matches user permission g) ∧
        ∀ g, groups.Matches user permission g → g.viewOnly = true := by
  have hview : groups.level? user permission = some .view ↔
      groups.level? user permission ≠ none ∧ groups.level? user permission ≠ some .full := by
    rcases groups.level? user permission with - | - | - <;> decide
  rw [hview, Ne, Ne, level?_eq_none_iff h, level?_eq_full_iff h]
  simp only [Classical.not_forall_not, not_exists, not_and, Bool.not_eq_false]

/-- Any level is enough for viewing, and only the full one for more. -/
theorem permits_iff {viewing : Bool} :
    groups.permits user viewing permission = true ↔
      groups.level? user permission ≠ none ∧
        (viewing = true ∨ groups.level? user permission = some .full) := by
  rw [permits]
  rcases groups.level? user permission with - | - | - <;> cases viewing <;> decide

/-- Only those ids of a principal matter to which there are grants, and only whether they are among
the ids. -/
theorem level?_congr_of_keys {other : Principal} (hadmin : other.isAdmin = user.isAdmin)
    (hids : ∀ id ∈ groups.keys, id ∈ other.groupIds ↔ id ∈ user.groupIds) :
    groups.level? other permission = groups.level? user permission := by
  have hmatches : ∀ g, groups.Matches other permission g ↔ groups.Matches user permission g := by
    intro g
    refine exists_congr fun id => ?_
    rw [and_congr_left]
    intro hgrant
    exact hids id (List.mem_map_of_mem hgrant.1)
  cases h : user.isAdmin with
  | true => rw [level?_of_isAdmin h, level?_of_isAdmin (hadmin.trans h)]
  | false =>
    refine (highest_level? (hadmin.trans h)).unique (highest_level? h) fun l => ?_
    simp only [List.mem_map, mem_matching, hmatches]

/-- **What a principal may do is what matching grants allow.**  Beside being an administrator,
nothing else counts: of the ids of groups, neither the order nor the number, nor any to which there
is no grant. -/
theorem access_by_matching_grants (groups : Grants) (user : Principal) (permission : String) :
    (∀ viewing, groups.permits user viewing permission = true ↔ user.isAdmin = true ∨
      (∃ g, groups.Matches user permission g) ∧
        (viewing = true ∨ ∃ g, groups.Matches user permission g ∧ g.viewOnly = false)) ∧
    (user.isAdmin = true → groups.level? user permission = some .full) ∧
    (user.isAdmin = false →
      (groups.level? user permission = none ↔ ∀ g, ¬ groups.Matches user permission g) ∧
      (groups.level? user permission = some .view ↔ (∃ g, groups.Matches user permission g) ∧
        ∀ g, groups.Matches user permission g → g.viewOnly = true) ∧
      (groups.level? user permission = some .full ↔
        ∃ g, groups.Matches user permission g ∧ g.viewOnly = false)) ∧
    ∀ other : Principal, other.isAdmin = user.isAdmin →
      (∀ id ∈ groups.keys, id ∈ other.groupIds ↔ id ∈ user.groupIds) →
        groups.level? other permission = groups.level? user permission ∧
        ∀ viewing, groups.permits other viewing permission =
          groups.permits user viewing permission := by
  refine ⟨fun viewing => ?_, level?_of_isAdmin, fun h => ⟨level?_eq_none_iff h,
    level?_eq_view_iff h, level?_eq_full_iff h⟩, fun other hadmin hids => ?_⟩
  · rw [permits_iff]
    cases h : user.isAdmin with
    | true => simp [level?_of_isAdmin h]
    | false =>
      rw [Ne, level?_eq_none_iff h, level?_eq_full_iff h]
      simp
  · have hlevel : groups.level? other permission = groups.level? user permission :=
      level?_congr_of_keys hadmin hids
    exact ⟨hlevel, fun viewing => by rw [permits, permits, hlevel]⟩

/-- A principal in a group whose grant is view-only, and in one whose grant names something else.
The same group given twice, and a group without any grant, change nothing. -/
theorem access_by_matching_grants_of_viewer :
    let groups : Grants := Table.ofList [(-1, ⟨["execute_query"], false⟩),
      (2, ⟨["view_query", "execute_query"], true⟩), (5, ⟨["view_query"], false⟩)]
    let user := (User.anonymous.inGroups [9, 2, 5, 2]).principal
    let other := (User.anonymous.inGroups [5, 2]).principal
    groups.level? user "execute_query" = some .view ∧
      groups.permits user true "execute_query" = true ∧
      groups.permits user false "execute_query" = false ∧
      groups.level? other "execute_query" = some .view := by
  intro groups user other
  obtain ⟨hpermits, -, hlevel, hothers⟩ := access_by_matching_grants groups user "execute_query"
  have hentries : groups.entries = [(-1, ⟨["execute_query"], false⟩),
      (2, ⟨["view_query", "execute_query"], true⟩), (5, ⟨["view_query"], false⟩)] := by decide
  have hmatch : groups.Matches user "execute_query" ⟨["view_query", "execute_query"], true⟩ :=
    ⟨2, by decide, by simp [hentries], by decide⟩
  have hviewing : ∀ g, groups.Matches user "execute_query" g → g.viewOnly = true := by
    rintro g ⟨id, hid, hgrant, hnamed⟩
    simp only [hentries, List.mem_cons, List.not_mem_nil, or_false, Prod.mk.injEq] at hgrant
    rcases hgrant with ⟨rfl, rfl⟩ | ⟨rfl, rfl⟩ | ⟨rfl, rfl⟩
    · exact absurd hid (by decide)
    · rfl
    · exact absurd hnamed (by decide)
  have hview := ((hlevel (by decide)).2.1).2 ⟨⟨_, hmatch⟩, hviewing⟩
  have hids : ∀ id ∈ groups.keys, id ∈ other.groupIds ↔ id ∈ user.groupIds := by
    rw [Table.keys, hentries]
    simp only [List.map_cons, List.forall_mem_cons]
    exact ⟨by decide, by decide, by decide, List.forall_mem_nil _⟩
  have hsame := hothers other (by decide) hids
  refine ⟨hview, (hpermits true).2 (.inr ⟨⟨_, hmatch⟩, .inl rfl⟩), ?_, hsame.1.trans hview⟩
  rw [Bool.eq_false_iff, Ne, hpermits]
  rintro (hadmin | ⟨-, hfalse | ⟨g, hg, hfull⟩⟩)
  · exact absurd hadmin (by decide)
  · cases hfalse
  · rw [hviewing g hg] at hfull
    cases hfull

end Grants
end QueryRights
