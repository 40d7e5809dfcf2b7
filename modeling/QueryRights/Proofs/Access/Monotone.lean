import QueryRights.Proofs.Access.Matching

/-!
# More groups and more grants

A principal who is let into further groups, and a data source that gets further grants, lose
nothing: no grant takes anything away.  In particular a view-only grant does not weaken another one
that is not view-only.

The way in which access is computed does not show this.  The level is the result of a fold over all
grants that match, and one could think of designs in which a view-only grant limits what other
groups are allowed, so that somebody who joins such a group has less than before.  What rules it
out is `Grants.permits_iff_exists_matches`: a use is permitted as soon as a *single* grant matches
and is enough for it, and nothing is asked of the others.  To have more groups or more grants means
that there are more candidates for this one grant.

More is meant in the widest sense in which that is true.  `GroupAccess.AtMost` lets the permissions
of a grant grow and its view-only mark be lifted.  `Grants.AtMost` wants, for every grant to a
group, some grant to the same group that gives at least as much, so that grants can be added and
widened in one step.  And of the ids of the principal only inclusion is asked, so they can be put
in another order and repeated on the way.

For one more grant the difference can be told exactly (`Grants.permits_insert_iff`).  The group
must not have a grant yet: where it has one, inserting replaces it, and a narrower grant in the
place of a wider one does take something away.

## What is here

* `GroupAccess.AtMost` and `Grants.AtMost`: grants that give more, and tables with more grants.
* `Grants.permits_iff_exists_matches`: one grant that matches and is enough decides.
* `Grants.permits_mono` and `Grants.level?_mono`: more groups and more grants.
* `Grants.permits_insert_iff`: **what one more grant adds**.
* `Grants.access_monotone`: **what was permitted remains permitted**.
-/

set_option autoImplicit false

namespace QueryRights

/-! ## Grants side by side -/

/-- The second grant gives all that the first one gives. -/
structure GroupAccess.AtMost (g h : GroupAccess) : Prop where
  permissions : g.permissions ⊆ h.permissions
  /-- A grant that is not view-only stays so. -/
  viewOnly : g.viewOnly = false → h.viewOnly = false

/-- For every grant the second table has one to the same group that gives all that it gives. -/
def Grants.AtMost (groups more : Grants) : Prop :=
  ∀ id g, (id, g) ∈ groups.entries → ∃ h, (id, h) ∈ more.entries ∧ g.AtMost h

theorem GroupAccess.AtMost.refl (g : GroupAccess) : g.AtMost g :=
  ⟨List.Subset.refl _, fun h => h⟩

namespace Grants

variable {groups more : Grants} {user other : Principal} {permission : String} {viewing : Bool}

theorem AtMost.refl (groups : Grants) : groups.AtMost groups :=
  fun _ g hg => ⟨g, hg, .refl g⟩

/-- What matches is still given to principals with more groups, by a grant that gives more. -/
theorem Matches.mono {g : GroupAccess} (hg : groups.Matches user permission g)
    (hgroups : groups.AtMost more) (hids : user.groupIds ⊆ other.groupIds) :
    ∃ h, more.Matches other permission h ∧ g.AtMost h := by
  obtain ⟨id, hid, hgrant, hnamed⟩ := hg
  obtain ⟨h, hmore, hle⟩ := hgroups id g hgrant
  exact ⟨h, ⟨id, hids hid, hmore, hle.permissions hnamed⟩, hle⟩

/-! ## What is permitted

Both ways of asking, by `permits` and by `level?`, come down to the one grant that decides.  For
the level this takes a detour: it is known by what it is enough for, which is what `permits`
answers. -/

/-- **One grant decides**: a use is permitted to administrators, and to others by a single grant
that matches and is enough for it, whatever the other grants are. -/
theorem permits_iff_exists_matches :
    groups.permits user viewing permission = true ↔ user.isAdmin = true ∨
      ∃ g, groups.Matches user permission g ∧ (viewing = true ∨ g.viewOnly = false) := by
  rw [permits_iff]
  cases h : user.isAdmin with
  | true => simp [level?_of_isAdmin h]
  | false =>
    rw [Ne, level?_eq_none_iff h, level?_eq_full_iff h, Classical.not_forall_not]
    cases viewing with
    | true => simp
    | false =>
      simp only [Bool.false_eq_true, false_or]
      exact ⟨And.right, fun hfull => ⟨hfull.imp fun _ => And.left, hfull⟩⟩

/-- **With more groups and more grants more is permitted.** -/
theorem permits_mono (hgroups : groups.AtMost more) (hids : user.groupIds ⊆ other.groupIds)
    (hadmin : user.isAdmin = true → other.isAdmin = true)
    (h : groups.permits user viewing permission = true) :
    more.permits other viewing permission = true := by
  rw [permits_iff_exists_matches] at h ⊢
  rcases h with h | ⟨g, hg, henough⟩
  · exact .inl (hadmin h)
  · obtain ⟨g', hg', hle⟩ := hg.mono hgroups hids
    exact .inr ⟨g', hg', henough.imp_right hle.viewOnly⟩

/-- Whoever may use a permission in full may also use it for viewing. -/
theorem permits_viewing (h : groups.permits user false permission = true) :
    groups.permits user true permission = true := by
  rw [permits_iff_exists_matches] at h ⊢
  exact h.imp_right fun ⟨g, hg, _⟩ => ⟨g, hg, .inl rfl⟩

/-- What is permitted is what the level is enough for. -/
theorem permits_iff_exists_level :
    groups.permits user viewing permission = true ↔
      ∃ a, groups.level? user permission = some a ∧
        (AccessLevel.ofViewOnly viewing).atMost a = true := by
  rw [permits]
  cases groups.level? user permission with
  | none => simp
  | some a => simp

/-- **With more groups and more grants the level does not go down**: it is enough for all that it
was enough for before. -/
theorem level?_mono (hgroups : groups.AtMost more) (hids : user.groupIds ⊆ other.groupIds)
    (hadmin : user.isAdmin = true → other.isAdmin = true) {a : AccessLevel}
    (ha : groups.level? user permission = some a) :
    ∃ b, more.level? other permission = some b ∧ a.atMost b = true := by
  obtain ⟨viewing, rfl⟩ : ∃ viewing, AccessLevel.ofViewOnly viewing = a := by
    cases a with
    | view => exact ⟨true, rfl⟩
    | full => exact ⟨false, rfl⟩
  have hpermits : groups.permits user viewing permission = true :=
    permits_iff_exists_level.2 ⟨_, ha, AccessLevel.atMost_refl _⟩
  exact permits_iff_exists_level.1 (permits_mono hgroups hids hadmin hpermits)

/-! ## One more grant

The new entry is all that distinguishes the two tables, so the difference in what they permit can
be read off the entry. -/

variable {id : Int64} {g : GroupAccess}

/-- A grant to another group replaces none. -/
theorem mem_entries_insert (hnew : id ∉ groups.keys) {id' : Int64} {g' : GroupAccess} :
    (id', g') ∈ Table.entries (groups.insert id g) ↔
      (id' = id ∧ g' = g) ∨ (id', g') ∈ groups.entries := by
  rw [← Table.find?_eq_some_iff, Table.find?_insert, ← Table.find?_eq_some_iff]
  by_cases h : id' = id
  · have hnone : groups.find? id' ≠ some g' := fun hfound =>
      hnew (h ▸ List.mem_map_of_mem (Table.find?_eq_some_iff.1 hfound))
    simp [h, h ▸ hnone, eq_comm]
  · simp [h]

theorem matches_insert_iff (hnew : id ∉ groups.keys) {g' : GroupAccess} :
    Matches (groups.insert id g) user permission g' ↔
      (g' = g ∧ id ∈ user.groupIds ∧ permission ∈ g.permissions) ∨
        groups.Matches user permission g' := by
  simp only [Matches, mem_entries_insert hnew]
  constructor
  · rintro ⟨id', hid, ⟨rfl, rfl⟩ | hgrant, hnamed⟩
    · exact .inl ⟨rfl, hid, hnamed⟩
    · exact .inr ⟨id', hid, hgrant, hnamed⟩
  · rintro (⟨rfl, hid, hnamed⟩ | ⟨id', hid, hgrant, hnamed⟩)
    · exact ⟨id, hid, .inl ⟨rfl, rfl⟩, hnamed⟩
    · exact ⟨id', hid, .inr hgrant, hnamed⟩

/-- **What one more grant adds** is what it gives to those in its group, and nothing else. -/
theorem permits_insert_iff (hnew : id ∉ groups.keys) :
    permits (groups.insert id g) user viewing permission = true ↔
      groups.permits user viewing permission = true ∨
        id ∈ user.groupIds ∧ permission ∈ g.permissions ∧
          (viewing = true ∨ g.viewOnly = false) := by
  simp only [permits_iff_exists_matches, matches_insert_iff hnew]
  constructor
  · rintro (hadmin | ⟨g', ⟨rfl, hid, hnamed⟩ | hg', henough⟩)
    · exact .inl (.inl hadmin)
    · exact .inr ⟨hid, hnamed, henough⟩
    · exact .inl (.inr ⟨g', hg', henough⟩)
  · rintro ((hadmin | ⟨g', hg', henough⟩) | ⟨hid, hnamed, henough⟩)
    · exact .inl hadmin
    · exact .inr ⟨g', .inr hg', henough⟩
    · exact .inr ⟨g, .inl ⟨rfl, hid, hnamed⟩, henough⟩

/-- A view-only grant to another group makes no difference to full use. -/
theorem permits_insert_of_viewOnly (hnew : id ∉ groups.keys) (hview : g.viewOnly = true) :
    permits (groups.insert id g) user false permission =
      groups.permits user false permission := by
  rw [Bool.eq_iff_iff, permits_insert_iff hnew, hview]
  simp

/-- **What was permitted remains permitted** with more groups and more grants, and the level does
not go down.  So a principal in further groups may do no less, and a view-only grant to another
group neither gives nor takes away full use; and whoever may use a permission in full may view. -/
theorem access_monotone (groups : Grants) (user : Principal) (permission : String) :
    (∀ (more : Grants) (other : Principal), groups.AtMost more →
      user.groupIds ⊆ other.groupIds → (user.isAdmin = true → other.isAdmin = true) →
        (∀ viewing, groups.permits user viewing permission = true →
          more.permits other viewing permission = true) ∧
        ∀ a, groups.level? user permission = some a →
          ∃ b, more.level? other permission = some b ∧ a.atMost b = true) ∧
    (∀ ids, user.groupIds ⊆ ids → ∀ viewing, groups.permits user viewing permission = true →
      groups.permits { user with groupIds := ids } viewing permission = true) ∧
    (∀ id g, id ∉ groups.keys → g.viewOnly = true →
      permits (groups.insert id g) user false permission =
        groups.permits user false permission) ∧
    (groups.permits user false permission = true →
      groups.permits user true permission = true) := by
  refine ⟨fun more other hgroups hids hadmin => ⟨fun viewing => permits_mono hgroups hids hadmin,
    fun a => level?_mono hgroups hids hadmin⟩, fun ids hids viewing => ?_,
    fun id g => permits_insert_of_viewOnly, permits_viewing⟩
  exact permits_mono (.refl groups) hids fun h => h

/-- A member of one group with a full grant, then of further groups, one of them with a view-only
grant for the same permission, while the grant of the first group names more. -/
theorem access_monotone_of_member :
    let grant : GroupAccess := ⟨["execute_query"], false⟩
    let viewing : GroupAccess := ⟨["execute_query"], true⟩
    let groups : Grants := Table.ofList [(1, grant)]
    let more : Grants := Table.ofList [(2, viewing), (1, ⟨["view_query", "execute_query"], false⟩)]
    let user := (User.anonymous.inGroups [1]).principal
    let other := (User.anonymous.inGroups [2, 7, 1]).principal
    groups.AtMost more ∧ groups.permits user false "execute_query" = true ∧
      more.permits other false "execute_query" = true ∧
      groups.permits { user with groupIds := [2, 1] } false "execute_query" = true ∧
      permits (groups.insert 2 viewing) other false "execute_query" = true ∧
      groups.permits user true "execute_query" = true := by
  intro grant viewing groups more user other
  obtain ⟨hmore, hids, -, hviewing⟩ := access_monotone groups user "execute_query"
  obtain ⟨-, -, hinsert, -⟩ := access_monotone groups other "execute_query"
  have hpermits : groups.permits user false "execute_query" = true := by decide
  have hgroups : groups.AtMost more := by
    intro id g hg
    have hentries : groups.entries = [(1, grant)] := rfl
    rw [hentries, List.mem_singleton] at hg
    cases hg
    exact ⟨⟨["view_query", "execute_query"], false⟩, by decide, by decide, fun h => h⟩
  have hincluded : user.groupIds ⊆ other.groupIds := by decide
  have hadmin : user.isAdmin = true → other.isAdmin = true := fun h => h
  exact ⟨hgroups, hpermits, (hmore more other hgroups hincluded hadmin).1 false hpermits,
    hids [2, 1] (by decide) false hpermits, (hinsert 2 viewing (by decide) rfl).trans (by decide),
    hviewing hpermits⟩

end Grants
end QueryRights
