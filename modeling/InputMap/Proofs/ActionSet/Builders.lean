import Mathlib.Data.List.Induction
import InputMap.ActionSet.Builders
import InputMap.Proofs.ActionSet.Declarations

/-!
# Builders of one program

The builders of a program may take turns in any way.  Each of them still makes the set, and hands
out the ids, that it would if it were alone; and since all of them draw from one counter, the
numbers of their sets are the places in which they were begun.  So the sets of two builders are
never taken for each other, whatever has been declared with them.

## Key results

- `numbered_run`: the sets are numbered in the order in which their builders were begun
- `id_ne_of_ne`: two builders have different numbers
- `alone_run`: what a builder makes and hands out does not depend on the others
- `set_of_mem_handedOut_run`: its ids carry the number of its set
-/

namespace InputMap.Builders

open ActionSet (build builder)

variable {builders : Builders} {steps : List BuilderStep} {i j : Nat}
  {set ours theirs : ActionSet} {a : ActionId} {c : Category} {name : String}

/-! ## One step -/

/-- Without a builder in the place nothing is declared. -/
theorem step_declare_of_none (h : builders.sets[j]? = none) :
    builders.step (.declare j c name) = (none, builders) := by
  simp only [step, h]

/-- The builder of the place gives the answer, and is put back as the declaration leaves it. -/
theorem step_declare_of_some (h : builders.sets[j]? = some set) :
    builders.step (.declare j c name) =
      (some (set.declare c name).1,
        { builders with sets := builders.sets.set j (set.declare c name).2 }) := by
  simp only [step, h]

/-- A declaration changes the builder of one place, and no other. -/
theorem getElem?_sets_declare (builders : Builders) (i j : Nat) (c : Category) (name : String) :
    (builders.step (.declare j c name)).2.sets[i]? =
      if j = i then builders.sets[i]?.map fun set => (set.declare c name).2
      else builders.sets[i]? := by
  -- without a builder in the place, the step leaves all of them
  cases hset : builders.sets[j]? with
  | none =>
    rw [step_declare_of_none hset]
    split
    · subst j
      rw [hset, Option.map_none]
    · rfl
  | some set =>
    rw [step_declare_of_some hset]
    split
    · subst j
      have hlt : i < builders.sets.length := (List.getElem?_eq_some_iff.1 hset).1
      rw [hset, Option.map_some]
      exact List.getElem?_set_self hlt
    · rename_i hne
      exact List.getElem?_set_ne hne

/-- What a declaration hands out is the answer of the builder that it is made with. -/
theorem handed_declare_self (hset : builders.sets[i]? = some set) :
    builders.handed i (.declare i c name) = (set.declare c name).1.toOption.toList := by
  rw [handed, if_pos rfl, step_declare_of_some hset, Option.bind_some]

/-- A builder hands out nothing while something is declared with another one. -/
theorem handed_declare_of_ne (h : j ≠ i) : builders.handed i (.declare j c name) = [] := by
  rw [handed, if_neg h]

/-- Where no builder has been begun, nothing can be handed out. -/
theorem handed_of_none (h : builders.sets[i]? = none) (step : BuilderStep) :
    builders.handed i step = [] := by
  cases step with
  | new => rfl
  | declare j c name =>
    rw [handed]
    split
    · subst j
      rw [step_declare_of_none h]
      rfl
    · rfl

/-! ## Numbers -/

/-- The sets are numbered by their places, up to the number that the counter gives out next. -/
def Numbered (builders : Builders) : Prop :=
  builders.sets.map (·.id) = List.range builders.counter.next

/-- The number of the builder at a place is the number of its set. -/
theorem getElem?_map_id (hset : builders.sets[i]? = some set) :
    (builders.sets.map (·.id))[i]? = some set.id := by
  rw [List.getElem?_map, hset, Option.map_some]

/-- The counter is as far as there are builders. -/
theorem Numbered.next_eq (h : builders.Numbered) :
    builders.counter.next = builders.sets.length := by
  rw [← List.length_range (n := builders.counter.next), ← h, List.length_map]

/-- The number of a set is its place. -/
theorem Numbered.id_eq (h : builders.Numbered) (hset : builders.sets[i]? = some set) :
    set.id = i := by
  have hid := getElem?_map_id hset
  rw [h] at hid
  obtain ⟨_, hid⟩ := List.getElem?_eq_some_iff.1 hid
  rw [← hid, List.getElem_range]

/-- A new builder gets the next number, and a declaration leaves all numbers. -/
theorem Numbered.step (h : builders.Numbered) (step : BuilderStep) :
    (builders.step step).2.Numbered := by
  cases step with
  | new =>
    show (builders.sets ++ [ActionSet.empty builders.counter.next]).map (·.id) = _
    rw [List.map_append, h]
    exact List.range_succ.symm
  | declare j c name =>
    cases hset : builders.sets[j]? with
    | none =>
      rw [step_declare_of_none hset]
      exact h
    | some set =>
      rw [step_declare_of_some hset]
      show (builders.sets.set j (set.declare c name).2).map (·.id) = _
      -- the number that is written is the one that is there
      obtain ⟨_, hid⟩ := List.getElem?_eq_some_iff.1 (getElem?_map_id hset)
      rw [List.map_set, ActionSet.id_declare, ← hid, List.set_getElem_self]
      exact h

/-- The sets stay numbered, whatever is done with the builders. -/
theorem Numbered.run (h : builders.Numbered) (steps : List BuilderStep) :
    (builders.run steps).Numbered := by
  induction steps generalizing builders with
  | nil => exact h
  | cons step rest ih => exact ih (h.step step)

theorem numbered_start : start.Numbered := by
  simp [Numbered, start, SetCounter.zero]

/-- The sets of a program are numbered in the order in which their builders were begun. -/
theorem numbered_run (steps : List BuilderStep) : (start.run steps).Numbered :=
  numbered_start.run steps

/-- Two builders of a program have different numbers. -/
theorem id_ne_of_ne (hours : (start.run steps).sets[i]? = some ours)
    (htheirs : (start.run steps).sets[j]? = some theirs) (hij : i ≠ j) : ours.id ≠ theirs.id := by
  rw [(numbered_run steps).id_eq hours, (numbered_run steps).id_eq htheirs]
  exact hij

/-! ## Builders taking turns -/

/-- A builder has made and handed out what it would have if it had been alone with its number, and
    nothing has been handed out in a place where no builder has been begun. -/
def Alone (i : Nat) (handed : List ActionId) : Option ActionSet → Prop
  | none => handed = []
  | some set => ∃ declarations, set = build ⟨i⟩ declarations ∧
      handed = ActionSet.handedOut ⟨i⟩ declarations

/-- One step more, which may begin the builder or be one of its declarations. -/
theorem Alone.step {handed : List ActionId} (h : Alone i handed builders.sets[i]?)
    (hnumbered : builders.Numbered) (step : BuilderStep) :
    Alone i (handed ++ builders.handed i step) (builders.step step).2.sets[i]? := by
  cases step with
  | new =>
    show Alone i (handed ++ []) (builders.sets ++ [(builder builders.counter).1])[i]?
    rw [List.append_nil]
    rcases Nat.lt_trichotomy i builders.sets.length with hlt | heq | hgt
    · rwa [List.getElem?_append_left hlt]
    · -- the new builder stands in its place, and has not handed out anything
      subst heq
      rw [List.getElem?_eq_none (Nat.le_refl _)] at h
      rw [List.getElem?_concat_length, ← hnumbered.next_eq]
      exact ⟨[], rfl, h⟩
    · rw [List.getElem?_eq_none (Nat.le_of_lt hgt)] at h
      have hlength : (builders.sets ++ [(builder builders.counter).1]).length ≤ i := by
        rw [List.length_append]
        exact hgt
      rwa [List.getElem?_eq_none hlength]
  | declare j c name =>
    -- the declaration may be one of another builder, or one before this one has been begun
    rw [getElem?_sets_declare]
    cases hset : builders.sets[i]? with
    | none =>
      rw [hset] at h
      rwa [handed_of_none hset, Option.map_none, ite_self, List.append_nil]
    | some set =>
      rw [hset] at h
      by_cases hj : j = i
      · subst j
        obtain ⟨declarations, rfl, rfl⟩ := h
        rw [if_pos rfl, handed_declare_self hset, Option.map_some]
        exact ⟨declarations ++ [(c, name)], (ActionSet.build_concat _ _ _ _).symm,
          (ActionSet.handedOut_concat _ _ _ _).symm⟩
      · rwa [if_neg hj, handed_declare_of_ne hj, List.append_nil]

/-- Whatever the builders of a program have been asked for, and in whatever order, each of them has
    made and handed out what it would have if it had been alone. -/
theorem alone_run (steps : List BuilderStep) (i : Nat) :
    Alone i (start.handedOut i steps) (start.run steps).sets[i]? := by
  -- on the last step, as all those before it make the builders that it finds
  induction steps using List.reverseRecOn with
  | nil => rfl
  | append_singleton steps step ih =>
    rw [run_append, handedOut_append, handedOut, handedOut, List.append_nil]
    exact ih.step (numbered_run steps) step

/-- The set of a builder and its ids, as one builder alone would have made them. -/
theorem exists_build (hset : (start.run steps).sets[i]? = some set) :
    ∃ declarations, set = build ⟨i⟩ declarations ∧
      start.handedOut i steps = ActionSet.handedOut ⟨i⟩ declarations := by
  have halone := alone_run steps i
  rwa [hset] at halone

/-- The ids that a builder hands out in the course of a program carry the number of its set. -/
theorem set_of_mem_handedOut_run (htheirs : (start.run steps).sets[j]? = some theirs)
    (ha : a ∈ start.handedOut j steps) : a.set = theirs.id := by
  obtain ⟨declarations, rfl, hhanded⟩ := exists_build htheirs
  rw [hhanded] at ha
  rw [ActionSet.set_of_mem_handedOut ha, ActionSet.id_build]

end InputMap.Builders
