import QueryRights.Access

/-!
# The scope of an API key

A key opens the query that it belongs to, and the queries on a dashboard that it belongs to.  Each
dashboard counts by itself: the key of one does not open what only another one shows.

`Query.opensWith` is handed a list of dashboards and stops at the first one that has the key and
shows the query.  Callers hand over whatever they have loaded, in no particular order and perhaps
more than is needed, so what matters in practice is which of those dashboards can make a
difference.  They are the ones for which `Query.ShownUnder` holds, a property of one dashboard and
nothing around it.  Everything in this file is read off `opensWith_iff`, which puts an `∃ d ∈ ds`
in the place of the scan: with that, order and repetition are gone, a list made of two counts as
either of them does, and lists with the same dashboards of this kind open the same queries.

Two ends of the matter deserve a word.  A query that was never saved has no id, so that no
dashboard can show it; its own key opens it all the same.  And a missing key is not an empty one:
where nobody has a key, the empty text opens nothing either, because keys are compared with what is
there or not there, and not with a default.

## What is here

* `Query.ShownUnder`: a dashboard shows the query and has the key.
* `Query.opensWith_iff`: what a key opens, and `Query.opensWith_congr`: which dashboards matter.
* `Query.apiKey_scope`: **the scope of a key**.
-/

set_option autoImplicit false

namespace QueryRights
namespace Query

/-- The dashboard has the key and shows the query, which must have an id for that. -/
def ShownUnder (q : Query) (key : String) (d : Dashboard) : Prop :=
  d.apiKey = some key ∧ ∃ id, q.id = some id ∧ id ∈ d.queryIds

variable {q : Query} {key : String} {ds es : List Dashboard}

theorem not_shownUnder_of_no_id (h : q.id = none) (d : Dashboard) : ¬ q.ShownUnder key d := by
  rintro ⟨-, id, hid, -⟩
  rw [h] at hid
  cases hid

/-! ## What a key opens

The scan as an `∃`, and its consequences for the list of dashboards: which of them matter, and what
becomes of two lists. -/

/-- **What a key opens**: its own query, and the queries that a dashboard shows under it. -/
theorem opensWith_iff :
    q.opensWith key ds = true ↔ q.apiKey = some key ∨ ∃ d ∈ ds, q.ShownUnder key d := by
  rw [opensWith, Bool.or_eq_true, decide_eq_true_eq]
  refine or_congr_right ?_
  cases hid : q.id with
  | none =>
    refine ⟨fun h => absurd h Bool.false_ne_true, ?_⟩
    rintro ⟨d, -, hd⟩
    exact absurd hd (not_shownUnder_of_no_id hid d)
  | some id => simp [ShownUnder, hid]

/-- **Only those dashboards matter that show the query under the key**, and only whether they are
there. -/
theorem opensWith_congr (h : ∀ d, q.ShownUnder key d → (d ∈ es ↔ d ∈ ds)) :
    q.opensWith key es = q.opensWith key ds := by
  rw [Bool.eq_iff_iff, opensWith_iff, opensWith_iff]
  exact or_congr_right (exists_congr fun d => and_congr_left (h d))

/-- Of two lists of dashboards each counts by itself. -/
theorem opensWith_append :
    q.opensWith key (ds ++ es) = (q.opensWith key ds || q.opensWith key es) := by
  rw [Bool.eq_iff_iff, Bool.or_eq_true, opensWith_iff, opensWith_iff, opensWith_iff]
  simp only [List.mem_append, or_and_right, exists_or]
  exact or_or_distrib_left

/-! ## Queries without an id, and keys that are not there -/

/-- No dashboard opens a query without an id. -/
theorem opensWith_of_no_id (h : q.id = none) :
    q.opensWith key ds = decide (q.apiKey = some key) := by
  rw [Bool.eq_iff_iff, opensWith_iff, decide_eq_true_eq]
  refine or_iff_left ?_
  rintro ⟨d, -, hd⟩
  exact not_shownUnder_of_no_id h d hd

/-- Where there are no keys, no text is one. -/
theorem opensWith_of_no_keys (hquery : q.apiKey = none) (hds : ∀ d ∈ ds, d.apiKey = none) :
    q.opensWith key ds = false := by
  rw [Bool.eq_false_iff, Ne, opensWith_iff]
  rintro (h | ⟨d, hd, h, -⟩)
  · rw [hquery] at h
    cases h
  · rw [hds d hd] at h
    cases h

/-- **The scope of a key.**  A key opens its own query, and those that a dashboard of the same key
shows; so every dashboard counts by itself, and of all of them only those that have the key and show
the query, in whatever order and however often.  A query without an id is on no dashboard, and
without keys nothing is opened, not even by the empty text. -/
theorem apiKey_scope (q : Query) (key : String) (ds : List Dashboard) :
    (q.opensWith key ds = true ↔ q.apiKey = some key ∨ ∃ d ∈ ds, q.ShownUnder key d) ∧
    (∀ es, q.opensWith key (ds ++ es) = (q.opensWith key ds || q.opensWith key es)) ∧
    (∀ es, (∀ d, q.ShownUnder key d → (d ∈ es ↔ d ∈ ds)) →
      q.opensWith key es = q.opensWith key ds) ∧
    (q.id = none → q.opensWith key ds = decide (q.apiKey = some key)) ∧
    (q.apiKey = none → (∀ d ∈ ds, d.apiKey = none) → q.opensWith key ds = false) :=
  ⟨opensWith_iff, fun _ => opensWith_append, fun _ => opensWith_congr, opensWith_of_no_id,
    opensWith_of_no_keys⟩

/-- Two dashboards, of which only the one that does not show the query has the key that is given.
The other one, given twice and in another order, opens the query by its own key.  An unsaved query
and a missing key are opened by nothing. -/
theorem apiKey_scope_of_two_dashboards :
    let q := Query.saved 1 "select 1"
    let a : Dashboard := { Dashboard.empty with apiKey := some "a", queryIds := [2] }
    let b : Dashboard := { Dashboard.empty with apiKey := some "b", queryIds := [4, 1] }
    let c : Dashboard := { Dashboard.empty with queryIds := [1] }
    q.opensWith "a" [a, b, c] = false ∧ q.opensWith "b" [a, b, c] = true ∧
      q.opensWith "b" [b, c, b] = q.opensWith "b" [a, b, c] ∧
      Query.empty.opensWith "b" [a, b, c] = false ∧ q.opensWith "" [c] = false := by
  intro q a b c
  obtain ⟨hb, -, hsame, -, -⟩ := apiKey_scope q "b" [a, b, c]
  obtain ⟨ha, -, -, -, -⟩ := apiKey_scope q "a" [a, b, c]
  have hopens : q.opensWith "b" [a, b, c] = true :=
    hb.2 (.inr ⟨b, by simp, rfl, 1, rfl, by decide⟩)
  have hclosed : q.opensWith "a" [a, b, c] = false := by
    rw [Bool.eq_false_iff, Ne, ha]
    simp [ShownUnder, q, a, b, c, saved, Query.empty, Dashboard.empty]
  have hnew := (apiKey_scope Query.empty "b" [a, b, c]).2.2.2.1 rfl
  have hempty := (apiKey_scope q "" [c]).2.2.2.2 rfl (by simp [c, Dashboard.empty])
  refine ⟨hclosed, hopens, hsame _ fun d hd => ?_, hnew, hempty⟩
  have hne : d ≠ a := by
    rintro rfl
    exact absurd hd.1 (by decide)
  grind

end Query
end QueryRights
