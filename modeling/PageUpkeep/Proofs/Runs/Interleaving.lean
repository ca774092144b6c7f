/-! Two parties that take turns on one state.

Where the steps of one party leave alone what the other answers, and two steps of different parties leave the
same behind in either order, it does not matter how the turns are taken: each party answers as if it were
alone, and what is left behind is what the one and then the other would leave.
-/

set_option autoImplicit false

namespace PageUpkeep

/-- Takes steps on a state, and has an answer for each. -/
structure Party (State Step Answer : Type) where
  next : State → Step → State
  answer : State → Step → Answer

variable {State View Step Other Answer Reply : Type}

namespace Party

def run (party : Party State Step Answer) (state : State) (steps : List Step) : State :=
  steps.foldl party.next state

def answers (party : Party State Step Answer) (state : State) : List Step → List Answer
  | [] => []
  | step :: rest => party.answer state step :: answers party (party.next state step) rest

/-- Two parties on one state. Each turn is taken by the one or by the other. -/
def beside (left : Party State Step Answer) (right : Party State Other Reply) :
    Party State (Step ⊕ Other) (Answer ⊕ Reply) where
  next state
    | .inl step => left.next state step
    | .inr other => right.next state other
  answer state
    | .inl step => .inl (left.answer state step)
    | .inr other => .inr (right.answer state other)

end Party

/-- What is the left party's among the turns of both, or among their answers. -/
def lefts (both : List (Step ⊕ Other)) : List Step :=
  both.filterMap Sum.getLeft?

def rights (both : List (Step ⊕ Other)) : List Other :=
  both.filterMap Sum.getRight?

namespace Party

/-- A party that sees no more of a state than a view of it. -/
structure SeesOnly (party : Party State Step Answer) (view : State → View) : Prop where
  next : ∀ {first second : State}, view first = view second →
    ∀ step, view (party.next first step) = view (party.next second step)
  answer : ∀ {first second : State}, view first = view second →
    ∀ step, party.answer first step = party.answer second step

variable {party : Party State Step Answer} {view : State → View} {first second : State}

theorem SeesOnly.run (sees : party.SeesOnly view) (same : view first = view second) (steps : List Step) :
    view (party.run first steps) = view (party.run second steps) := by
  induction steps generalizing first second with
  | nil => exact same
  | cons step rest ih => exact ih (sees.next same step)

theorem SeesOnly.answers (sees : party.SeesOnly view) (same : view first = view second)
    (steps : List Step) : party.answers first steps = party.answers second steps := by
  induction steps generalizing first second with
  | nil => rfl
  | cons step rest ih => rw [Party.answers, Party.answers, sees.answer same, ih (sees.next same step)]

/-- Neither party has a say in what the other answers, and a step of the one can be swapped with a step of the
other. Both is asked in some states only, which no step leads out of. -/
structure Independent (Holds : State → Prop) (view : State → View) (left : Party State Step Answer)
    (right : Party State Other Reply) : Prop where
  seesLeft : left.SeesOnly view
  seesRight : right.SeesOnly view
  holdsLeft : ∀ {state}, Holds state → ∀ step, Holds (left.next state step)
  holdsRight : ∀ {state}, Holds state → ∀ other, Holds (right.next state other)
  swap : ∀ {state}, Holds state → ∀ step other,
    view (left.next (right.next state other) step) = view (right.next (left.next state step) other)
  answerLeft : ∀ {state}, Holds state → ∀ step other,
    left.answer (right.next state other) step = left.answer state step
  answerRight : ∀ {state}, Holds state → ∀ step other,
    right.answer (left.next state step) other = right.answer state other

variable {Holds : State → Prop} {left : Party State Step Answer} {right : Party State Other Reply}
  {state : State}

namespace Independent

theorem symm (independent : Independent Holds view left right) : Independent Holds view right left where
  seesLeft := independent.seesRight
  seesRight := independent.seesLeft
  holdsLeft := independent.holdsRight
  holdsRight := independent.holdsLeft
  swap holds step other := (independent.swap holds other step).symm
  answerLeft holds step other := independent.answerRight holds other step
  answerRight holds step other := independent.answerLeft holds other step

variable (independent : Independent Holds view left right)

include independent

/-- A step of the other party can be put off until a whole run is over. -/
theorem run_next (holds : Holds state) (steps : List Step) (other : Other) :
    view (left.run (right.next state other) steps) = view (right.next (left.run state steps) other) := by
  induction steps generalizing state with
  | nil => rfl
  | cons step rest ih =>
    have swapped := independent.seesLeft.run (independent.swap holds step other) rest
    exact swapped.trans (ih (independent.holdsLeft holds step))

theorem answers_next (holds : Holds state) (steps : List Step) (other : Other) :
    left.answers (right.next state other) steps = left.answers state steps := by
  induction steps generalizing state with
  | nil => rfl
  | cons step rest ih =>
    have swapped := independent.seesLeft.answers (independent.swap holds step other) rest
    rw [Party.answers, Party.answers, independent.answerLeft holds, swapped,
      ih (independent.holdsLeft holds step)]

theorem answers_run (holds : Holds state) (steps : List Step) (others : List Other) :
    left.answers (right.run state others) steps = left.answers state steps := by
  induction others generalizing state with
  | nil => rfl
  | cons other rest ih =>
    exact (ih (independent.holdsRight holds other)).trans (independent.answers_next holds steps other)

theorem run_run (holds : Holds state) (steps : List Step) (others : List Other) :
    view (left.run (right.run state others) steps) = view (right.run (left.run state steps) others) := by
  induction others generalizing state with
  | nil => rfl
  | cons other rest ih =>
    have later := independent.seesRight.run (independent.run_next holds steps other) rest
    exact (ih (independent.holdsRight holds other)).trans later

theorem run_beside (holds : Holds state) (both : List (Step ⊕ Other)) :
    view ((left.beside right).run state both) =
      view (right.run (left.run state (lefts both)) (rights both)) := by
  induction both generalizing state with
  | nil => rfl
  | cons turn rest ih =>
    cases turn with
    | inl step => exact ih (independent.holdsLeft holds step)
    | inr other =>
      -- The other party has gone first, which comes to the same as its going next.
      have put := independent.seesRight.run (independent.run_next holds (lefts rest) other) (rights rest)
      exact (ih (independent.holdsRight holds other)).trans put

theorem lefts_answers_beside (holds : Holds state) (both : List (Step ⊕ Other)) :
    lefts ((left.beside right).answers state both) = left.answers state (lefts both) := by
  induction both generalizing state with
  | nil => rfl
  | cons turn rest ih =>
    cases turn with
    | inl step => exact congrArg _ (ih (independent.holdsLeft holds step))
    | inr other =>
      exact (ih (independent.holdsRight holds other)).trans (independent.answers_next holds _ other)

theorem rights_answers_beside (holds : Holds state) (both : List (Step ⊕ Other)) :
    rights ((left.beside right).answers state both) = right.answers state (rights both) := by
  induction both generalizing state with
  | nil => rfl
  | cons turn rest ih =>
    cases turn with
    | inl step =>
      exact (ih (independent.holdsLeft holds step)).trans (independent.symm.answers_next holds _ step)
    | inr other => exact congrArg _ (ih (independent.holdsRight holds other))

end Independent

end Party

end PageUpkeep
