import InputMap.ActionSet

/-! # The builders of a program

A program can begin any number of builders and go on with each of them when it likes.  All of them
draw their numbers from one counter.  `Builders.run` does some steps one after the other, and
`Builders.handedOut` lists the ids that one of the builders hands out on the way.

A builder stands at the place in which it was begun.  What it is at the end of a run is the set that
it makes: once a set is made, nothing more is declared with its builder. -/

namespace InputMap

/-- Something that a program does with its builders. -/
inductive BuilderStep where
  /-- Begins one more builder. -/
  | new
  /-- Declares an action with the builder of a place. -/
  | declare (place : Nat) (category : Category) (name : String)

/-- The builders of a program in the order in which they were begun, and the counter that they draw
    their numbers from. -/
structure Builders where
  counter : SetCounter
  sets : List ActionSet

namespace Builders

/-- A program without builders. -/
def start : Builders := ⟨.zero, []⟩

/-- Does one step.  There is an answer if something is declared with a builder that is there. -/
def step (builders : Builders) : BuilderStep → Option (Except BindError ActionId) × Builders
  | .new =>
    let (set, counter) := ActionSet.builder builders.counter
    (none, ⟨counter, builders.sets ++ [set]⟩)
  | .declare place category name =>
    match builders.sets[place]? with
    | none => (none, builders)
    | some set =>
      let (answer, declared) := set.declare category name
      (some answer, { builders with sets := builders.sets.set place declared })

/-- The builders after some steps. -/
def run (builders : Builders) (steps : List BuilderStep) : Builders :=
  steps.foldl (fun builders step => (builders.step step).2) builders

/-- The ids that the builder of a place hands out in one step, which is none or one. -/
def handed (builders : Builders) (place : Nat) : BuilderStep → List ActionId
  | .new => []
  | .declare other category name =>
    if other = place then
      ((builders.step (.declare other category name)).1.bind Except.toOption).toList
    else []

/-- The ids that the builder of a place hands out in the course of some steps. -/
def handedOut (builders : Builders) (place : Nat) : List BuilderStep → List ActionId
  | [] => []
  | step :: rest => builders.handed place step ++ (builders.step step).2.handedOut place rest

@[simp] theorem run_nil (builders : Builders) : builders.run [] = builders := rfl

@[simp] theorem run_cons (builders : Builders) (step : BuilderStep) (rest : List BuilderStep) :
    builders.run (step :: rest) = (builders.step step).2.run rest := rfl

theorem run_append (builders : Builders) (first second : List BuilderStep) :
    builders.run (first ++ second) = (builders.run first).run second :=
  List.foldl_append

/-- The ids that are handed out later are those of the builders that the first steps lead to. -/
theorem handedOut_append (builders : Builders) (place : Nat) (first second : List BuilderStep) :
    builders.handedOut place (first ++ second) =
      builders.handedOut place first ++ (builders.run first).handedOut place second := by
  induction first generalizing builders with
  | nil => rfl
  | cons step rest ih =>
    rw [List.cons_append, handedOut, ih, handedOut, List.append_assoc, run_cons]

end Builders

end InputMap
