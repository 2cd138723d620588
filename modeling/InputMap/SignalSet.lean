import InputMap.Signal

/-! # Sets of signals

Which signals a pad can answer for, and which ones a table of bindings may read.  There are only
finitely many signals, so a set is its membership test: two sets can be compared, and a set can be
listed.

* `SignalSet.mem_ofList`, `SignalSet.mem_toList`   a set is the members of its list
* `SignalSet.nodup_toList`                         each member is listed once -/

namespace InputMap

/-- A set of signals, by its membership test.  There are only finitely many signals, so two sets
    can be compared and a set can be listed. -/
structure SignalSet where
  contains : Signal → Bool

namespace SignalSet

instance : Membership Signal SignalSet := ⟨fun set s => set.contains s = true⟩

instance (s : Signal) (set : SignalSet) : Decidable (s ∈ set) :=
  inferInstanceAs (Decidable (set.contains s = true))

@[ext] theorem ext {a b : SignalSet} (h : ∀ s, s ∈ a ↔ s ∈ b) : a = b := by
  cases a with
  | mk f =>
    cases b with
    | mk g =>
      congr
      funext s
      exact Bool.eq_iff_iff.2 (h s)

instance : DecidableEq SignalSet := fun a b =>
  decidable_of_iff (∀ s ∈ Signal.all, (s ∈ a ↔ s ∈ b))
    ⟨fun h => ext fun s => h s (Signal.mem_all s), fun h _ _ => h ▸ Iff.rfl⟩

/-- All signals. -/
def all : SignalSet := ⟨fun _ => true⟩

/-- The signals of a list, whatever their order and number. -/
def ofList (signals : List Signal) : SignalSet := ⟨fun s => decide (s ∈ signals)⟩

/-- The members in the order in which they are read. -/
def toList (set : SignalSet) : List Signal := Signal.all.filter set.contains

/-- The number of members. -/
def size (set : SignalSet) : Nat := set.toList.length

@[simp] theorem mem_all (s : Signal) : s ∈ all := rfl

@[simp] theorem mem_ofList {s : Signal} {signals : List Signal} : s ∈ ofList signals ↔ s ∈ signals :=
  decide_eq_true_iff

@[simp] theorem mem_toList {s : Signal} {set : SignalSet} : s ∈ set.toList ↔ s ∈ set := by
  simp only [toList, List.mem_filter, Signal.mem_all, true_and]
  rfl

theorem nodup_toList (set : SignalSet) : set.toList.Nodup :=
  List.Pairwise.filter _ (by decide)

end SignalSet

end InputMap
