import Mathlib.Data.List.Induction
import QueryRights.Dialog.Modal

/-!
# How modals are resolved

The two ends of a modal move independently.  The responder acts once, at any time, and whether or
not anybody is still there; the waiting end asks, leaves a callback behind, or goes away, also at
any time.  Whatever the order, what the waiting end learns is what the responder did, after it did
it, and it learns that once: either by asking or through its callback.

The moves are taken from both ends in any order, also in orders that ownership would not allow,
such as a second answer of a responder that was used up by its first.  Nothing comes of these, and
it is simpler to say so than to rule them out: what is proved for all lists of moves holds in
particular for those that can happen.

`History` is the state of the channel together with what the waiting end has learned by asking, and
the callback's calls are in the channel.  Seen from there a modal can stand in five ways, and each
is given by the answer alone: somebody is waiting, or has learned the outcome, or has left a
callback that is waiting, or whose time has come, or is gone.  Three of the five are final as far
as the waiting end is concerned (`step_resolved`, `step_called`, `step_gone`), and the moves that
lead out of the others are few.  `Standing` is the invariant, and its constructors say what each
way has to do with the moves that were made: the answer is the first that was given, and where
there is a callback, it was left behind.

Two questions need more than the invariant, because they are about the order of moves.  What
becomes of an outcome if nobody leaves the waiting end (`after_of_keeps`)?  And what becomes of it
after the waiting end was left for a callback (`after_listened`) or for good (`after_closed`)?
Each is an induction of its own, from the invariant's step lemmas.

That the responder disappears without a word is an answer like the other two.  It is learned as a
dismissal, and a callback hears of neither.

## What is here

* `Channel.Move`, `Channel.History` and `Channel.after`: all that can happen to a modal, in any
  order, and what has come of it.
* `Channel.History.waiting`, `resolved`, `listening`, `called` and `gone`: the five ways in which a
  modal can stand, given the answer, with the moves that lead from one to another.
* `Channel.standing_after`: after any moves a modal stands in one of these ways.
* `Channel.resolves_once`: **how a modal is resolved, in every order of moves**.
-/

set_option autoImplicit false

namespace QueryRights

namespace Answer

/-- The schedules that a callback is called with. -/
def chosen : Answer → List Schedule
  | .confirm s => [s]
  | .dismiss => []
  | .drop => []

variable {a : Answer} {s : Schedule}

theorem outcome_eq_confirmed_iff : a.outcome = .confirmed s ↔ a = .confirm s := by
  cases a <;> simp [outcome]

theorem outcome_eq_dismissed_iff : a.outcome = .dismissed ↔ a = .dismiss ∨ a = .drop := by
  cases a <;> simp [outcome]

theorem mem_chosen_iff : s ∈ a.chosen ↔ a = .confirm s := by
  cases a <;> simp [chosen, eq_comm]

theorem length_chosen_le (a : Answer) : a.chosen.length ≤ 1 := by
  cases a <;> simp [chosen]

end Answer

namespace Channel

/-! ## Moves

The operations of `QueryRights.Dialog.Modal` as one step function over both ends, and the five ways
in which a modal can stand after any of them. -/

/-- What can happen to a modal.  To wait for the outcome is to ask for it until it is there. -/
inductive Move where
  /-- The responder acts; once it has, it is used up, and nothing comes of another answer. -/
  | responded (answer : Answer)
  /-- The waiting end asks for the outcome.  Once it has learned it, it learns nothing more. -/
  | polled
  /-- The waiting end leaves a callback behind. -/
  | listened
  /-- The task that waits for the callback's sake takes a step. -/
  | advanced
  /-- The waiting end goes away. -/
  | closed
  deriving DecidableEq

namespace Move

/-- What the responder does. -/
def answer? : Move → Option Answer
  | .responded a => some a
  | _ => none

/-- Whether the waiting end is left to be asked. -/
def keeps : Move → Bool
  | .listened => false
  | .closed => false
  | _ => true

end Move

/-- One move: what the waiting end learns by asking, and the modal after it. -/
def step (c : Channel) : Move → Option Outcome × Channel
  | .responded a => (none, c.respond a)
  | .polled => c.poll
  | .listened => (none, c.listen)
  | .advanced => (none, c.advance)
  | .closed => (none, c.close)

/-- What has come of some moves: the outcomes learned by asking, in their order, and the modal. -/
structure History where
  learned : List Outcome
  channel : Channel
  deriving DecidableEq

namespace History

/-- One more move. -/
def step (h : History) (m : Move) : History :=
  ⟨h.learned ++ (h.channel.step m).1.toList, (h.channel.step m).2⟩

/-- Nobody has left the waiting end, and nothing was learned. -/
def waiting (a : Option Answer) : History := ⟨[], a, .held, []⟩

/-- The outcome was learned by asking. -/
def resolved (a : Answer) : History := ⟨[a.outcome], some a, .resolved a.outcome, []⟩

/-- A callback was left behind. -/
def listening (a : Option Answer) : History := ⟨[], a, .listening, []⟩

/-- The outcome has come to the callback. -/
def called (a : Answer) : History := ⟨[], some a, .resolved a.outcome, a.chosen⟩

/-- The waiting end is gone. -/
def gone (a : Option Answer) : History := ⟨[], a, .closed, []⟩

variable {a : Option Answer} {b : Answer} {m : Move}

/-! ## What one move changes

For each of the five ways, where a move can lead from it.  The answer is kept along as an option: a
move of the responder fills it in if it is still empty. -/

/-- What has been learned stays so, and it is all there is to learn. -/
theorem step_resolved : (resolved b).step m = resolved b := by
  cases m <;> rfl

theorem step_called : (called b).step m = called b := by
  cases m <;> simp [step, called, Channel.step, respond, poll, listen, advance, close]

/-- Nothing but an answer, which nobody learns, can come after the waiting end is gone. -/
theorem step_gone : (gone a).step m = gone (a.or m.answer?) := by
  cases m <;> cases a <;> rfl

theorem step_waiting_of_keeps (h : m.keeps = true) :
    (waiting a).step m = waiting (a.or m.answer?) ∨
      ∃ b, a = some b ∧ (waiting a).step m = resolved b := by
  cases m with
  | responded b => exact .inl (by cases a <;> rfl)
  | polled =>
    cases a with
    | none => exact .inl rfl
    | some b => exact .inr ⟨b, rfl, rfl⟩
  | advanced => exact .inl (by cases a <;> rfl)
  | listened => cases h
  | closed => cases h

theorem step_waiting_listened :
    (waiting a).step .listened = listening (a.or Move.listened.answer?) := by
  cases a <;> rfl

theorem step_waiting_closed : (waiting a).step .closed = gone (a.or Move.closed.answer?) := by
  cases a <;> rfl

theorem step_listening :
    (listening a).step m = listening (a.or m.answer?) ∨
      ∃ b, a = some b ∧ (listening a).step m = called b := by
  cases m with
  | advanced =>
    cases a with
    | none => exact .inl rfl
    | some b => exact .inr ⟨b, rfl, by cases b <;> rfl⟩
  | _ => exact .inl (by cases a <;> rfl)

end History

open History

/-! ## Runs

The invariant, by induction on the last move.  What was answered is read off the moves, so that the
invariant ties the modal to what has happened and not only to itself. -/

/-- What has come of a modal that was just shown after some moves, the first of them first. -/
def after (moves : List Move) : History := moves.foldl History.step ⟨[], opened⟩

/-- What the responder did, which is the first answer. -/
def answerIn (moves : List Move) : Option Answer := moves.findSome? Move.answer?

/-- The outcomes that the waiting end learned by asking. -/
def learnedIn (moves : List Move) : List Outcome := (after moves).learned

/-- The schedules that the callback was called with. -/
def calledIn (moves : List Move) : List Schedule := (after moves).channel.called

theorem after_concat (moves : List Move) (m : Move) :
    after (moves ++ [m]) = (after moves).step m := by
  simp [after]

theorem answerIn_concat (moves : List Move) (m : Move) :
    answerIn (moves ++ [m]) = (answerIn moves).or m.answer? := by
  simp [answerIn, List.findSome?_append]

/-- An answer that was given stays the answer. -/
theorem answerIn_concat_of_some {moves : List Move} {b : Answer} (h : answerIn moves = some b)
    (m : Move) : answerIn (moves ++ [m]) = some b := by
  rw [answerIn_concat, h, Option.some_or]

/-- How a modal can stand after some moves. -/
inductive Standing (moves : List Move) : History → Prop
  | waiting : Standing moves (.waiting (answerIn moves))
  | resolved {b : Answer} (hanswer : answerIn moves = some b) : Standing moves (.resolved b)
  | listening (hlistened : .listened ∈ moves) : Standing moves (.listening (answerIn moves))
  | called {b : Answer} (hlistened : .listened ∈ moves) (hanswer : answerIn moves = some b) :
      Standing moves (.called b)
  | gone : Standing moves (.gone (answerIn moves))

/-- **A move takes a modal from one way to stand to another.** -/
theorem Standing.step {moves : List Move} {h : History} (hs : Standing moves h) (m : Move) :
    Standing (moves ++ [m]) (h.step m) := by
  cases hs with
  | waiting =>
    cases hm : m.keeps with
    | true =>
      rcases step_waiting_of_keeps hm with hstep | ⟨b, hanswer, hstep⟩
      · rw [hstep, ← answerIn_concat]
        exact .waiting
      · rw [hstep]
        exact .resolved (answerIn_concat_of_some hanswer m)
    | false =>
      cases m with
      | listened =>
        rw [step_waiting_listened, ← answerIn_concat]
        exact .listening (List.mem_append_right _ List.mem_cons_self)
      | closed =>
        rw [step_waiting_closed, ← answerIn_concat]
        exact .gone
      | _ => cases hm
  | resolved hanswer =>
    rw [step_resolved]
    exact .resolved (answerIn_concat_of_some hanswer m)
  | listening hlistened =>
    have hlistened' : Move.listened ∈ moves ++ [m] := List.mem_append_left _ hlistened
    rcases step_listening (a := answerIn moves) (m := m) with hstep | ⟨b, hanswer, hstep⟩
    · rw [hstep, ← answerIn_concat]
      exact .listening hlistened'
    · rw [hstep]
      exact .called hlistened' (answerIn_concat_of_some hanswer m)
  | called hlistened hanswer =>
    rw [step_called]
    exact .called (List.mem_append_left _ hlistened) (answerIn_concat_of_some hanswer m)
  | gone =>
    rw [step_gone, ← answerIn_concat]
    exact .gone

/-- **After any moves a modal stands in one of these ways.** -/
theorem standing_after (moves : List Move) : Standing moves (after moves) := by
  induction moves using List.reverseRecOn with
  | nil => exact .waiting
  | append_singleton moves m ih =>
    rw [after_concat]
    exact ih.step m

/-! ## What becomes of the waiting end

Here the order matters: what happened up to the moment when the waiting end was left, and
afterwards.  Each lemma splits the moves at that moment. -/

/-- Left to be asked, it waits, or it has learned the outcome. -/
theorem after_of_keeps {moves : List Move} (h : ∀ m ∈ moves, m.keeps = true) :
    after moves = .waiting (answerIn moves) ∨
      ∃ b, answerIn moves = some b ∧ after moves = .resolved b := by
  induction moves using List.reverseRecOn with
  | nil => exact .inl rfl
  | append_singleton moves m ih =>
    have hm : m.keeps = true := h m (List.mem_append_right _ List.mem_cons_self)
    rw [after_concat]
    rcases ih fun x hx => h x (List.mem_append_left _ hx) with hbefore | ⟨b, hanswer, hbefore⟩
    · rw [hbefore]
      rcases step_waiting_of_keeps hm with hstep | ⟨b, hanswer, hstep⟩
      · exact .inl (by rw [hstep, answerIn_concat])
      · exact .inr ⟨b, answerIn_concat_of_some hanswer m, hstep⟩
    · exact .inr ⟨b, answerIn_concat_of_some hanswer m, by rw [hbefore, step_resolved]⟩

theorem after_append (before rest : List Move) :
    after (before ++ rest) = rest.foldl History.step (after before) :=
  List.foldl_append

/-- An outcome that was learned by asking is not lost, and no other one is learned. -/
theorem foldl_resolved (b : Answer) (rest : List Move) :
    rest.foldl History.step (.resolved b) = .resolved b := by
  induction rest with
  | nil => rfl
  | cons m rest ih => rw [List.foldl_cons, step_resolved, ih]

theorem foldl_gone (a : Option Answer) (rest : List Move) :
    ∃ a', rest.foldl History.step (.gone a) = .gone a' := by
  induction rest generalizing a with
  | nil => exact ⟨a, rfl⟩
  | cons m rest ih =>
    rw [List.foldl_cons, step_gone]
    exact ih _

/-- Once it is gone, nothing is learned any more. -/
theorem after_closed {before : List Move} (h : ∀ m ∈ before, m.keeps = true) (rest : List Move) :
    learnedIn (before ++ .closed :: rest) = learnedIn before ∧
      calledIn (before ++ .closed :: rest) = [] := by
  rw [learnedIn, calledIn, learnedIn, after_append, List.foldl_cons]
  rcases after_of_keeps h with hbefore | ⟨b, -, hbefore⟩
  · obtain ⟨a, hrest⟩ := foldl_gone ((answerIn before).or Move.closed.answer?) rest
    rw [hbefore, step_waiting_closed, hrest]
    exact ⟨rfl, rfl⟩
  · rw [hbefore, step_resolved, foldl_resolved]
    exact ⟨rfl, rfl⟩

/-- A callback that was left behind in time waits, or it has the outcome. -/
theorem after_listened {before : List Move} (h : ∀ m ∈ before, m.keeps = true)
    (hlearned : learnedIn before = []) (rest : List Move) :
    after (before ++ .listened :: rest) = .listening (answerIn (before ++ .listened :: rest)) ∨
      ∃ b, answerIn (before ++ .listened :: rest) = some b ∧
        after (before ++ .listened :: rest) = .called b := by
  induction rest using List.reverseRecOn with
  | nil =>
    rcases after_of_keeps h with hbefore | ⟨b, -, hbefore⟩
    · left
      rw [after_concat, hbefore, step_waiting_listened, answerIn_concat]
    · rw [learnedIn, hbefore] at hlearned
      cases hlearned
  | append_singleton rest m ih =>
    rw [← List.cons_append, ← List.append_assoc, after_concat]
    rcases ih with hbefore | ⟨b, hanswer, hbefore⟩
    · rw [hbefore]
      rcases step_listening with hstep | ⟨b, hanswer, hstep⟩
      · exact .inl (by rw [hstep, answerIn_concat])
      · exact .inr ⟨b, answerIn_concat_of_some hanswer m, hstep⟩
    · exact .inr ⟨b, answerIn_concat_of_some hanswer m, by rw [hbefore, step_called]⟩

/-! ## All orders of moves

The statement of everything that is promised, and its proof from the lemmas above, clause by
clause. -/

/-- How a modal is resolved by some moves. -/
structure ResolvedBy (moves : List Move) : Prop where
  /-- The outcome comes at most once, to the waiting end or to its callback, -/
  once : (learnedIn moves).length + (calledIn moves).length ≤ 1
  /-- and not before the responder has acted. -/
  early : answerIn moves = none → learnedIn moves = [] ∧ calledIn moves = []
  /-- A schedule is learned exactly if the responder has confirmed it, -/
  confirmed : ∀ o ∈ learnedIn moves, ∀ s, o = .confirmed s ↔ answerIn moves = some (.confirm s)
  /-- and a dismissal exactly if it has dismissed the modal or was dropped. -/
  dismissed : ∀ o ∈ learnedIn moves,
    o = .dismissed ↔ answerIn moves = some .dismiss ∨ answerIn moves = some .drop
  /-- The waiting end learns the outcome if it is asked after the answer. -/
  asked : (∀ m ∈ moves, m.keeps = true) → ∀ b, answerIn moves = some b →
    learnedIn (moves ++ [.polled]) = [b.outcome]
  /-- Only a callback that was left behind is called, only with a schedule that was confirmed; -/
  chosen : ∀ s ∈ calledIn moves, .listened ∈ moves ∧ answerIn moves = some (.confirm s)
  /-- it is called with it if it was left behind before the outcome was learned, as soon as its task
  takes a step after the answer. -/
  notified : ∀ before rest, moves = before ++ .listened :: rest →
    (∀ m ∈ before, m.keeps = true) → learnedIn before = [] →
      ∀ s, answerIn moves = some (.confirm s) → calledIn (moves ++ [.advanced]) = [s]
  /-- After the waiting end is gone nothing makes a difference, and no answer does. -/
  gone : ∀ before rest, moves = before ++ .closed :: rest → (∀ m ∈ before, m.keeps = true) →
    learnedIn moves = learnedIn before ∧ calledIn moves = []

/-- Nothing has come of a modal yet; or it was learned what the responder did; or that has come to
the callback. -/
theorem Standing.observed {moves : List Move} {h : History} (hs : Standing moves h) :
    (h.learned = [] ∧ h.channel.called = []) ∨ ∃ b, answerIn moves = some b ∧
      (h.learned = [b.outcome] ∧ h.channel.called = [] ∨
        .listened ∈ moves ∧ h.learned = [] ∧ h.channel.called = b.chosen) := by
  cases hs with
  | waiting => exact .inl ⟨rfl, rfl⟩
  | resolved hanswer => exact .inr ⟨_, hanswer, .inl ⟨rfl, rfl⟩⟩
  | listening => exact .inl ⟨rfl, rfl⟩
  | called hlistened hanswer => exact .inr ⟨_, hanswer, .inr ⟨hlistened, rfl, rfl⟩⟩
  | gone => exact .inl ⟨rfl, rfl⟩

theorem answer_of_mem_learnedIn {moves : List Move} {o : Outcome} (ho : o ∈ learnedIn moves) :
    ∃ b, answerIn moves = some b ∧ o = b.outcome := by
  rw [learnedIn] at ho
  rcases (standing_after moves).observed with ⟨hnone, -⟩ | ⟨b, hb, ⟨hone, -⟩ | ⟨-, hnone, -⟩⟩
  · simp [hnone] at ho
  · rw [hone] at ho
    exact ⟨b, hb, List.mem_singleton.1 ho⟩
  · simp [hnone] at ho

/-- **How a modal is resolved, in every order of moves.**  Whatever the responder and the waiting
end do, and in whatever order: the outcome comes to the waiting end or to its callback at most once,
not before the responder has acted, and it is the one that the answer decides.  A waiting end that
is asked after the answer learns it, and a callback that was left behind in time is called with the
schedule that was confirmed, and never otherwise.  An answer after the waiting end is gone comes to
nothing. -/
theorem resolves_once (moves : List Move) : ResolvedBy moves where
  once := by
    rw [learnedIn, calledIn]
    rcases (standing_after moves).observed with
      ⟨hlearned, hcalled⟩ | ⟨b, -, ⟨hlearned, hcalled⟩ | ⟨-, hlearned, hcalled⟩⟩
    · simp [hlearned, hcalled]
    · simp [hlearned, hcalled]
    · simpa [hlearned, hcalled] using b.length_chosen_le
  early hnone := by
    rcases (standing_after moves).observed with hobserved | ⟨b, hb, -⟩
    · exact hobserved
    · cases hnone.symm.trans hb
  confirmed o ho s := by
    obtain ⟨b, hb, rfl⟩ := answer_of_mem_learnedIn ho
    rw [hb, Option.some.injEq, Answer.outcome_eq_confirmed_iff]
  dismissed o ho := by
    obtain ⟨b, hb, rfl⟩ := answer_of_mem_learnedIn ho
    rw [hb, Option.some.injEq, Option.some.injEq, Answer.outcome_eq_dismissed_iff]
  asked hkeeps b hb := by
    rw [learnedIn, after_concat]
    rcases after_of_keeps hkeeps with hafter | ⟨c, hc, hafter⟩
    · rw [hafter, hb]
      rfl
    · cases hb.symm.trans hc
      rw [hafter, step_resolved]
      rfl
  chosen s hs := by
    rw [calledIn] at hs
    rcases (standing_after moves).observed with
      ⟨-, hcalled⟩ | ⟨b, hb, ⟨-, hcalled⟩ | ⟨hlistened, -, hcalled⟩⟩
    · simp [hcalled] at hs
    · simp [hcalled] at hs
    · rw [hcalled, Answer.mem_chosen_iff] at hs
      exact ⟨hlistened, hs ▸ hb⟩
  notified before rest hmoves hkeeps hlearned s hs := by
    subst hmoves
    rw [calledIn, after_concat]
    rcases after_listened hkeeps hlearned rest with hafter | ⟨b, hb, hafter⟩
    · rw [hafter, hs]
      rfl
    · cases hs.symm.trans hb
      rw [hafter, step_called]
      rfl
  gone before rest hmoves hkeeps := by
    subst hmoves
    exact after_closed hkeeps rest

/-- A modal that is asked too early, answered and asked again; and one that is left before the
answer. -/
example :
    let s := Schedule.every 60
    learnedIn [.polled, .responded (.confirm s), .responded .dismiss, .polled, .listened,
        .advanced] = [.confirmed s] ∧
      calledIn [.listened, .advanced, .responded (.confirm s), .advanced, .advanced] = [s] ∧
      after [.closed, .responded (.confirm s), .polled, .advanced] = .gone (some (.confirm s)) := by
  decide

end Channel
end QueryRights
