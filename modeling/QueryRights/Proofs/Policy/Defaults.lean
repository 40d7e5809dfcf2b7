import QueryRights.Access
import QueryRights.Proofs.Flags.Ordered

/-!
# What default decisions depend on

The default policy asks of a user either to be an administrator or to hold permissions of the
table, and never to hold the permission that makes an administrator.  So of two users who are alike
in these respects it says the same, whoever they are otherwise.  The flags of a query leave even
the administrators aside.  And all of it goes one way: a user with more rights is allowed more.

A user is an administrator by a flag of the record or by holding one particular permission, and it
is not clear at first sight that it makes no difference by which.  The permission is a permission
like others, so somebody could ask for it by name.  What has to be seen is that no question does
(`Question.ne_admin_of_requirement`): being an administrator is a requirement of its own, and the
permissions that other questions require are others.  With that, users are compared by two
relations.  `Principal.HoldsAs` leaves the permission of administrators out; `Principal.AtMost` is
about names and takes all of them, also those that are not in the table.

The two relations are used in the same way.  Each is first carried through the requirement of a
single question, by its three cases, and then from questions to the policy and to the flags.  The
policy comes out as equal, not just as equal in its answers, since a default policy is made of its
answers.  For flags nothing has to be proved here: what they depend on and in which direction was
settled for all policies, and it only remains to see that default policies fit.

All of this is about a policy that is made for a user and a configuration.  The two configurations
may differ where only plain questions are asked; they are what the intervals come from, and no
comparison is made of these.

## What is here

* `Principal.HoldsAs` and `Principal.AtMost`: users alike in the permissions of the table, and
  users with more rights.
* `Question.metBy_congr` and `Question.metBy_mono`: the same for what single questions require.
* `Policy.ofUser_congr`, `Context.answersAs_ofUser` and `Grants.level?_congr`: what decisions
  depend on.
* `Answers.ofUser_atMost` and `FlagsRequest.atMost_ofUser`: the direction.
* `User.default_decisions`: **all of it, for the users of sessions**.
-/

set_option autoImplicit false

namespace QueryRights

/-! ## Users side by side -/

namespace Principal

/-- The users hold the same permissions of the table, leaving aside the one of administrators. -/
def HoldsAs (u v : Principal) : Prop :=
  ∀ p : Permission, p ≠ .admin → u.holds p.name = v.holds p.name

/-- The second user has all the rights of the first. -/
structure AtMost (u v : Principal) : Prop where
  holds : ∀ name, u.holds name = true → v.holds name = true
  isAdmin : u.isAdmin = true → v.isAdmin = true

end Principal

/-! ## Requirements

A requirement is nothing, being an administrator, or holding some permissions.  Both relations pass
through each of these, and this is the only place where the table of requirements is opened. -/

theorem Requirement.metBy_permissions_iff {u : Principal} {ps : List Permission} :
    (permissions ps).metBy u = true ↔ ∀ p ∈ ps, u.holds p.name = true :=
  List.all_eq_true

namespace Question

/-- No question requires the permission of administrators: to be one is a requirement of its own. -/
theorem ne_admin_of_requirement {k : Question} {ps : List Permission}
    (h : k.requirement = .permissions ps) : ∀ p ∈ ps, p ≠ .admin := by
  cases k <;> cases h <;> decide

/-- Users who hold the same permissions of the table meet the requirement of a question alike, if
they are alike in being an administrator, should the question require that. -/
theorem metBy_congr {u v : Principal} {k : Question} (h : u.HoldsAs v)
    (hadmin : k.requirement = .administrator → u.isAdmin = v.isAdmin) :
    k.requirement.metBy u = k.requirement.metBy v := by
  cases hk : k.requirement with
  | nothing => rfl
  | administrator => exact hadmin hk
  | permissions ps =>
    have hps : ∀ p ∈ ps, u.holds p.name = v.holds p.name := fun p hp =>
      h p (ne_admin_of_requirement hk p hp)
    rw [Bool.eq_iff_iff, Requirement.metBy_permissions_iff, Requirement.metBy_permissions_iff]
    exact forall₂_congr fun p hp => by rw [hps p hp]

/-- A user with more rights meets every requirement that one with less meets. -/
theorem metBy_mono {u v : Principal} (h : u.AtMost v) (k : Question)
    (hmet : k.requirement.metBy u = true) : k.requirement.metBy v = true := by
  cases hk : k.requirement with
  | nothing => rfl
  | administrator =>
    rw [hk] at hmet
    exact h.isAdmin hmet
  | permissions ps =>
    rw [hk, Requirement.metBy_permissions_iff] at hmet
    rw [Requirement.metBy_permissions_iff]
    exact fun p hp => h.holds p.name (hmet p hp)

end Question

/-! ## What decisions depend on

From single questions to whole policies, to the flags of a query and to access by groups.  Flags
ask no question that requires an administrator, which is why they do without the second hypothesis.
-/

/-- **The default policy depends on the permissions of the table and on being an administrator.** -/
theorem Policy.ofUser_congr {u v : Principal} (h : u.HoldsAs v) (hadmin : u.isAdmin = v.isAdmin)
    (c : ClientConfig) : Policy.ofUser u c = .ofUser v c := by
  have hallows : (Answers.ofUser u c).allows = (Answers.ofUser v c).allows :=
    funext fun _ => Question.metBy_congr h fun _ => hadmin
  rw [Policy.ofUser, Policy.ofUser, Answers.ofUser, Answers.ofUser]
  exact congrArg (fun allows => Policy.mk (.mk allows _ _ _) [] .settled) hallows

/-- **Flags do not depend on being an administrator**: under default policies, contexts of users who
hold the same permissions of the table answer alike, whatever the configurations. -/
theorem Context.answersAs_ofUser {u v : Principal} (h : u.HoldsAs v) (c d : ClientConfig)
    (q : Query) : (Context.ofUser u c).AnswersAs (.ofUser v d) q where
  holds p hp := h p (by revert p; decide)
  allowsEdit := rfl
  allows k hk := by
    have hadmin : k.requirement ≠ .administrator := by
      revert k
      simp [QueryFlags.questions, Question.requirement]
    exact Question.metBy_congr h fun hk => absurd hk hadmin

/-- Access by groups depends on being an administrator and on the groups. -/
theorem Grants.level?_congr {u v : Principal} (hadmin : u.isAdmin = v.isAdmin)
    (hgroups : u.groupIds = v.groupIds) (groups : Grants) (permission : String) :
    groups.level? u permission = groups.level? v permission := by
  rw [level?, level?, hadmin, hgroups]

/-! ## The direction

The same once more with more rights in the place of equal ones, and with a query and a source that
may be open to more as well. -/

/-- The default policy lets edit what the server lets edit. -/
theorem Answers.allowsEdit_ofUser {u : Principal} {c : ClientConfig} {hint : Option Bool} :
    (Answers.ofUser u c).allowsEdit hint = true ↔ hint = some true :=
  beq_iff_eq

/-- **A user with more rights is allowed more.** -/
theorem Answers.ofUser_atMost {u v : Principal} (h : u.AtMost v) (c d : ClientConfig) :
    (Answers.ofUser u c).AtMost (.ofUser v d) where
  allows k := Question.metBy_mono h k
  allowsEdit _ := id

/-- The second query may be run and edited wherever the first may, as far as that is up to the
queries. -/
structure Query.AtMost (q r : Query) : Prop where
  text : q.text ≠ "" → r.text ≠ ""
  isSafe : q.isSafe = true → r.isSafe = true
  editable : q.editable = some true → r.editable = some true

/-- Under default policies a user with more rights finds more, the more so about a query that is
open to more and on a source that is. -/
theorem FlagsRequest.atMost_ofUser {u v : Principal} (h : u.AtMost v) (c d : ClientConfig)
    {q r : Query} (hquery : q.AtMost r) {s t : Option DataSource}
    (hsource : DataSource.isViewOnly s = false → DataSource.isViewOnly t = false) :
    FlagsRequest.AtMost ⟨.ofUser u c, q, s⟩ ⟨.ofUser v d, r, t⟩ where
  holds p _ := h.holds p.name
  allows k _ := Question.metBy_mono h k
  allowsEdit := Answers.allowsEdit_ofUser.2 ∘ hquery.editable ∘ Answers.allowsEdit_ofUser.1
  text := hquery.text
  isSafe := hquery.isSafe
  writable := hsource

/-! ## Users of sessions

Up to here users were known by what they hold.  The users of sessions can be granted a permission,
and what that does is what the two ways to be an administrator are compared by. -/

namespace User

/-- A permission that is granted is held, and no other one besides those held before. -/
theorem holds_grant (u : User) (p : Permission) (name : String) :
    (u.grant p).holds name = (decide (name = p.name) || u.holds name) := by
  by_cases h : name = p.name <;> simp [grant, holds, Table.contains, h]

/-- The permission of administrators makes an administrator, -/
theorem isAdmin_grant_admin (u : User) : (u.grant .admin).isAdmin = true := by
  rw [isAdmin, holds_grant, decide_eq_true rfl, Bool.true_or, Bool.or_true]

/-- and changes nothing about the other permissions of the table. -/
theorem holdsAs_grant_admin (u : User) :
    u.principal.HoldsAs (u.grant .admin).principal := by
  intro p hp
  have hname : p.name ≠ Permission.admin.name := fun h => hp (Permission.name_injective h)
  have hgrant : (u.grant .admin).holds p.name = u.holds p.name := by
    rw [holds_grant, decide_eq_false hname, Bool.false_or]
  exact hgrant.symm

/-- **What default decisions depend on, and in which direction.**  The default policy is the same
for two users who are both administrators or both not, and who hold the same permissions of the
table, the one of administrators left aside.  So it makes no difference, nor does it for access by
groups, whether a user is an administrator by the flag or by the permission.  The flags of a query
do not even tell an administrator from another user.  And a user who holds all that another one
holds, and is an administrator if the other one is, is allowed all that the other one is, and has
every flag that grants something to the other one, also where the server says more about an entity,
where the query is open to more, or where the source is. -/
theorem default_decisions (u v : User) (c d : ClientConfig) :
    (u.isAdmin = v.isAdmin → (∀ p : Permission, p ≠ .admin → u.holds p.name = v.holds p.name) →
      Policy.ofUser u.principal c = .ofUser v.principal c) ∧
    (Policy.ofUser { u with adminFlag := true }.principal c =
        .ofUser (u.grant .admin).principal c ∧
      ∀ (groups : Grants) (permission : String),
        groups.level? { u with adminFlag := true }.principal permission =
          groups.level? (u.grant .admin).principal permission) ∧
    ((∀ p : Permission, p ≠ .admin → u.holds p.name = v.holds p.name) →
      ∀ (q : Query) (s : Option DataSource),
        QueryFlags.derive (.ofUser u.principal c) q s = .derive (.ofUser v.principal d) q s) ∧
    ((∀ name, u.holds name = true → v.holds name = true) → (u.isAdmin = true → v.isAdmin = true) →
      (∀ k : Question, (Answers.ofUser u.principal c).allows k = true →
        (Answers.ofUser v.principal d).allows k = true) ∧
      (∀ hint hint' : Option Bool, (hint = some true → hint' = some true) →
        (Answers.ofUser u.principal c).allowsEdit hint = true →
          (Answers.ofUser v.principal d).allowsEdit hint' = true) ∧
      ∀ (q r : Query) (s t : Option DataSource), q.AtMost r →
        (DataSource.isViewOnly s = false → DataSource.isViewOnly t = false) →
        (QueryFlags.derive (.ofUser u.principal c) q s).AtMost
          (.derive (.ofUser v.principal d) r t)) := by
  refine ⟨fun hadmin hholds => ?_, ?_, fun hholds q s => ?_, fun hholds hadmin => ?_⟩
  · have hsame : u.principal.HoldsAs v.principal := hholds
    exact Policy.ofUser_congr hsame hadmin c
  · have hsame : { u with adminFlag := true }.principal.HoldsAs (u.grant .admin).principal :=
      u.holdsAs_grant_admin
    have hadmin : { u with adminFlag := true }.principal.isAdmin =
        (u.grant .admin).principal.isAdmin := u.isAdmin_grant_admin.symm
    exact ⟨Policy.ofUser_congr hsame hadmin c, Grants.level?_congr hadmin rfl⟩
  · have hsame : u.principal.HoldsAs v.principal := hholds
    exact QueryFlags.derive_congr (Context.answersAs_ofUser hsame c d q) s
  · have hmore : u.principal.AtMost v.principal := ⟨hholds, hadmin⟩
    refine ⟨(Answers.ofUser_atMost hmore c d).allows, fun hint hint' hraised hedit => ?_,
      fun q r s t hquery hsource => FlagsRequest.flags_mono
        (FlagsRequest.atMost_ofUser hmore c d hquery hsource)⟩
    exact Answers.allowsEdit_ofUser.2 (hraised (Answers.allowsEdit_ofUser.1 hedit))

/-- Three users who may fork: two administrators, the one by the flag and the other one by the
permission, and a user who is none.  The administrators are allowed the same; the flags of the user
are those of the administrators, and do not go down where a query is safe and its source is not
view-only. -/
theorem default_decisions_of_three_users :
    let a : User :=
      { withPermissions ["fork_query", "view_alert"] with adminFlag := true, groupIds := [3] }
    let b : User := withPermissions ["admin", "fork_query"]
    let m : User := withPermissions ["fork_query"]
    let q := Query.saved 1 "select 1"
    let r : Query := { q with isSafe := true, editable := some true }
    (a.isAdmin = b.isAdmin ∧ (∀ p : Permission, p ≠ .admin → a.holds p.name = b.holds p.name) ∧
      Policy.ofUser a.principal .empty = .ofUser b.principal .empty) ∧
    (a.isAdmin ≠ m.isAdmin ∧ (∀ p : Permission, p ≠ .admin → a.holds p.name = m.holds p.name) ∧
      QueryFlags.derive (.ofUser a.principal .empty) q none =
        .derive (.ofUser m.principal .withDefaults) q none) ∧
    ((∀ name, m.holds name = true → a.holds name = true) ∧
      (m.isAdmin = true → a.isAdmin = true) ∧ q.AtMost r ∧
      (QueryFlags.derive (.ofUser m.principal .empty) q none).AtMost
        (.derive (.ofUser a.principal .withDefaults) r (some .writable))) := by
  intro a b m q r
  have hadmin : a.isAdmin = b.isAdmin := by decide
  have hab : ∀ p : Permission, p ≠ .admin → a.holds p.name = b.holds p.name := by
    intro p; cases p <;> decide
  have ham : ∀ p : Permission, p ≠ .admin → a.holds p.name = m.holds p.name := by
    intro p; cases p <;> decide
  have hheld : ∀ name, m.holds name = true → a.holds name = true := by
    simp +contextual [a, m, holds, withPermissions]
  have hquery : q.AtMost r := ⟨fun h => h, fun _ => rfl, fun _ => rfl⟩
  have hmember : m.isAdmin = true → a.isAdmin = true := fun _ => rfl
  exact ⟨⟨hadmin, hab, (default_decisions a b .empty .empty).1 hadmin hab⟩,
    ⟨by decide, ham, (default_decisions a m .empty .withDefaults).2.2.1 ham q none⟩,
    hheld, hmember, hquery,
    ((default_decisions m a .empty .withDefaults).2.2.2 hheld hmember).2.2 q r none (some .writable)
      hquery fun _ => rfl⟩

end User
end QueryRights
