import InputMap.Change

/-!
# Refused changes

A change leaves a state whether it takes place or is refused, and most changes here are such that a
refusal leaves the old one.  The reason is always the same: they ask all that can be refused before
they write.  `settled` is what comes of such a change, and each change that is one of this kind is
shown to be so by an equation.

## Key results

- `settled_eq_ok`, `settled_eq_error`: the two things that can come of a change
- `atomic_settled`: a change that asks first and writes last is atomic
- `Atomic.ok_or_error`, `Atomic.preserves`: an atomic change has taken place, or has done nothing
-/

namespace InputMap

variable {ε σ α β : Type} {s t : σ} {error : ε} {asked : Except ε β} {write : β → σ}

/-- What comes of a change that asks first and then writes once: the answer to the question decides
    whether the state is the one that `write` says or still the old one. -/
def settled (s : σ) (asked : Except ε β) (write : β → σ) : Except ε Unit × σ :=
  match asked with
  | .ok b => (.ok (), write b)
  | .error error => (.error error, s)

/-- Such a change takes place if what it asks is granted, and then it writes. -/
theorem settled_eq_ok : settled s asked write = (.ok (), t) ↔ ∃ b, asked = .ok b ∧ t = write b := by
  cases asked <;> simp [settled, eq_comm]

/-- It is refused if what it asks is refused, and then the state is the old one. -/
theorem settled_eq_error :
    settled s asked write = (.error error, t) ↔ asked = .error error ∧ t = s := by
  cases asked <;> simp [settled, eq_comm]

/-- What asks first and writes last leaves the state as it was when it is refused. -/
theorem atomic_settled (s : σ) (asked : Except ε β) (write : β → σ) :
    Atomic s (settled s asked write) := by
  intro error herror
  cases asked with
  | ok _ => cases herror
  | error _ => rfl

/-- An atomic change has taken place, or has done nothing. -/
theorem Atomic.ok_or_error {done : Except ε Unit × σ} (h : Atomic s done) :
    (∃ t, done = (.ok (), t)) ∨ ∃ error, done = (.error error, s) := by
  obtain ⟨answer, t⟩ := done
  cases answer with
  | ok _ => exact .inl ⟨t, rfl⟩
  | error error => exact .inr ⟨error, Prod.ext rfl (h error rfl)⟩

/-- What is true of the old state, and of the new one if the change takes place, is true in any
    case. -/
theorem Atomic.preserves {done : Except ε Unit × σ} {P : σ → Prop} (h : Atomic s done) (hs : P s)
    (hok : ∀ t, done = (.ok (), t) → P t) : P done.2 := by
  rcases h.ok_or_error with ⟨t, ht⟩ | ⟨error, herror⟩
  · rw [ht]
    exact hok t ht
  · rw [herror]
    exact hs

/-- If an atomic change is refused, its answer says all of it. -/
theorem Atomic.eq_error {done : Except ε α × σ} (h : Atomic s done)
    (herror : done.1 = .error error) : done = (.error error, s) :=
  Prod.ext herror (h error herror)

end InputMap
