import Mathlib.Data.List.Nodup
import InputMap.Proofs.ActionSet.Order
import InputMap.Proofs.Change

/-!
# Names and ids of declared actions

A set of actions is built by declaring one name after the other.  What is refused leaves no trace,
so each category ends up with different names, and an action can be found again by its category and
its name.  Every id that is handed out on the way carries the number of the builder.

## Key results

- `atomic_declare`: a declaration that is refused changes nothing
- `nodup_names_build`: no category has a name twice
- `find?_describe`, `of_find?`: an action is found by its category and its name, and by no other
- `set_of_mem_handedOut`: an id remembers its builder
-/

namespace InputMap.ActionSet

variable {actions : ActionSet} {a : ActionId} {c : Category} {name : String} {counter : SetCounter}
  {declarations : List (Category × String)}

/-- The set that the next builder makes of a list of declarations. -/
def build (counter : SetCounter) (declarations : List (Category × String)) : ActionSet :=
  ((builder counter).1.declareAll declarations).2

/-- The ids that the next builder hands out for a list of declarations. -/
def handedOut (counter : SetCounter) (declarations : List (Category × String)) : List ActionId :=
  ((builder counter).1.declareAll declarations).1.filterMap Except.toOption

/-! ## One declaration -/

/-- A name that its category has already is refused, and the set stays as it is. -/
theorem declare_of_mem (h : name ∈ actions.names c) :
    actions.declare c name = (.error (.duplicateAction c name), actions) := by
  simp only [declare, if_pos h, changing_bind, changing_throw]

/-- A new name comes behind the ones that its category has. -/
theorem declare_of_notMem (h : name ∉ actions.names c) :
    actions.declare c name =
      (.ok ⟨c, (actions.names c).length, actions.id⟩, actions.append c name) := by
  simp only [declare, if_neg h, changing_bind, changing_pure, changing_modify, changing_get,
    names_append_self, id_append, List.length_append, List.length_singleton, Nat.add_sub_cancel]

/-- A declaration that is refused changes nothing. -/
theorem atomic_declare (actions : ActionSet) (c : Category) (name : String) :
    Atomic actions (actions.declare c name) := by
  intro error herror
  by_cases h : name ∈ actions.names c
  · rw [declare_of_mem h]
  · rw [declare_of_notMem h] at herror
    cases herror

/-- A declaration leaves the number of the set. -/
@[simp] theorem id_declare (actions : ActionSet) (c : Category) (name : String) :
    (actions.declare c name).2.id = actions.id := by
  by_cases h : name ∈ actions.names c
  · rw [declare_of_mem h]
  · rw [declare_of_notMem h, id_append]

/-- A declaration hands out an id of its own set. -/
theorem set_of_declare (h : (actions.declare c name).1 = .ok a) : a.set = actions.id := by
  by_cases hmem : name ∈ actions.names c
  · rw [declare_of_mem hmem] at h
    cases h
  · rw [declare_of_notMem hmem] at h
    cases h
    rfl

/-- A declaration keeps the names of each category different. -/
theorem nodup_names_declare (h : ∀ d, (actions.names d).Nodup) (c : Category) (name : String)
    (d : Category) : ((actions.declare c name).2.names d).Nodup := by
  by_cases hname : name ∈ actions.names c
  · rw [declare_of_mem hname]
    exact h d
  rw [declare_of_notMem hname]
  -- only the category that the name was added to has grown
  by_cases hd : d = c
  · subst hd
    rw [names_append_self]
    exact List.concat_eq_append ▸ (h d).concat hname
  · rw [names_append_of_ne actions name hd]
    exact h d

/-! ## A list of declarations -/

/-- Declarations leave the number of the set, be they refused or not. -/
theorem id_declareAll (actions : ActionSet) (declarations : List (Category × String)) :
    (actions.declareAll declarations).2.id = actions.id := by
  induction declarations generalizing actions with
  | nil => rfl
  | cons head rest ih => exact (ih _).trans (id_declare actions head.1 head.2)

/-- Declarations keep the names of each category different. -/
theorem nodup_names_declareAll (h : ∀ d, (actions.names d).Nodup)
    (declarations : List (Category × String)) (d : Category) :
    ((actions.declareAll declarations).2.names d).Nodup := by
  induction declarations generalizing actions with
  | nil => exact h d
  | cons head rest ih => exact ih (nodup_names_declare h head.1 head.2)

/-- Declarations hand out ids of their own set only. -/
theorem set_of_mem_declareAll (actions : ActionSet)
    (ha : .ok a ∈ (actions.declareAll declarations).1) : a.set = actions.id := by
  induction declarations generalizing actions with
  | nil => exact absurd ha List.not_mem_nil
  | cons head rest ih =>
    rcases List.mem_cons.1 ha with hfirst | hlater
    · exact set_of_declare hfirst.symm
    · exact (ih _ hlater).trans (id_declare actions head.1 head.2)

/-- A set has the number that its builder has drawn. -/
@[simp] theorem id_build (counter : SetCounter) (declarations : List (Category × String)) :
    (build counter declarations).id = counter.next :=
  id_declareAll (builder counter).1 declarations

/-- No category of a built set has a name twice. -/
theorem nodup_names_build (counter : SetCounter) (declarations : List (Category × String))
    (c : Category) : ((build counter declarations).names c).Nodup := by
  refine nodup_names_declareAll (fun d => ?_) declarations c
  cases d <;> exact List.nodup_nil

/-- An id remembers its builder. -/
theorem set_of_mem_handedOut (ha : a ∈ handedOut counter declarations) : a.set = counter.next := by
  obtain ⟨answer, hanswer, hok⟩ := List.mem_filterMap.1 ha
  cases answer with
  | error error => exact nomatch hok
  | ok b =>
    cases hok
    exact set_of_mem_declareAll (builder counter).1 hanswer

/-! ## Names -/

/-- An action of the set is described by the name that stands at its number. -/
theorem describe_eq_getElem (h : actions.contains a = true) :
    (actions.names a.category)[a.index]? = some (actions.describe a) := by
  have hlt : a.index < (actions.names a.category).length := (contains_eq_true_iff.1 h).2
  rw [describe, name?, if_pos h, List.getElem?_eq_getElem hlt, Option.getD_some]

/-- An action is found by its category and its name, if the category has each name once. -/
theorem find?_describe (hnodup : (actions.names a.category).Nodup)
    (h : actions.contains a = true) :
    actions.find? a.category (actions.describe a) = some a := by
  obtain ⟨hset, hlt⟩ := contains_eq_true_iff.1 h
  obtain ⟨_, hname⟩ := List.getElem?_eq_some_iff.1 (describe_eq_getElem h)
  have hindex : (actions.names a.category).idxOf? (actions.describe a) = some a.index := by
    refine List.idxOf?_eq_some_iff.2 ⟨hlt, hname, fun j hj hearlier => ?_⟩
    -- an earlier place with the same name would be the same place
    have hsame : j = a.index := (List.getElem_inj hnodup).1 (hearlier.trans hname.symm)
    omega
  rw [find?, hindex, Option.map_some, ← hset]

/-- An action of the set has the name that it is described by. -/
theorem name?_eq_some_describe (h : actions.contains a = true) :
    actions.name? a = some (actions.describe a) := by
  rw [name?, if_pos h, describe_eq_getElem h]

/-- What is found has the category and the name that it is looked up by. -/
theorem of_find? (h : actions.find? c name = some a) :
    actions.contains a = true ∧ a.category = c ∧ actions.name? a = some name := by
  rw [find?, Option.map_eq_some_iff] at h
  obtain ⟨index, hindex, rfl⟩ := h
  obtain ⟨hlt, hname, -⟩ := List.idxOf?_eq_some_iff.1 hindex
  have hcontains : actions.contains ⟨c, index, actions.id⟩ = true :=
    contains_eq_true_iff.2 ⟨rfl, hlt⟩
  refine ⟨hcontains, rfl, ?_⟩
  rw [name?, if_pos hcontains, List.getElem?_eq_getElem hlt, hname]

/-- Nothing is found under a name that the category does not have. -/
theorem find?_eq_none_iff : actions.find? c name = none ↔ name ∉ actions.names c := by
  rw [find?, Option.map_eq_none_iff, List.idxOf?_eq_none_iff]

/-- The first action of a category with a name that the category has. -/
def named (actions : ActionSet) (c : Category) (name : String) : ActionId :=
  ⟨c, (actions.names c).idxOf name, actions.id⟩

/-- A name that the category has is found. -/
theorem find?_of_mem (h : name ∈ actions.names c) :
    actions.find? c name = some (actions.named c name) := by
  cases hindex : (actions.names c).idxOf? name with
  | none => exact absurd h (List.idxOf?_eq_none_iff.1 hindex)
  | some index => rw [find?, named, hindex, List.idxOf_eq_getD_idxOf?, hindex]; rfl

/-- What is found is an action of the set. -/
theorem contains_named (h : name ∈ actions.names c) :
    actions.contains (actions.named c name) = true :=
  (of_find? (find?_of_mem h)).1

/-- It is described by the name that it was found under. -/
theorem describe_named (h : name ∈ actions.names c) :
    actions.describe (actions.named c name) = name := by
  obtain ⟨-, -, hname⟩ := of_find? (find?_of_mem h)
  rw [describe, hname, Option.getD_some]

/-- Different names, or names of different categories, stand for different actions. -/
theorem named_inj {d : Category} {other : String} (h : name ∈ actions.names c) :
    actions.named c name = actions.named d other ↔ c = d ∧ name = other := by
  constructor
  · intro hsame
    obtain ⟨rfl, hindex, -⟩ := ActionId.mk.inj hsame
    exact ⟨rfl, (List.idxOf_inj h).1 hindex⟩
  · rintro ⟨rfl, rfl⟩
    rfl

end InputMap.ActionSet
