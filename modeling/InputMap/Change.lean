/-! # Changes that may be refused

A change works on its state step by step.  A step can refuse the change, and then the steps after it
are left out; but nothing is undone, so what has been written until then stays.  The answer and the
state that is left are there in either case.  That a change which is refused leaves the state as it
was is not built in here: it is a property of a change, `Atomic`, and each change has to show it. -/

namespace InputMap

variable {ε σ α β : Type}

/-- A change of a state, step by step. -/
abbrev Change (ε σ : Type) := ExceptT ε (StateM σ)

/-- What a change answers if it begins in the state `s`, and the state that it leaves. -/
def changing (s : σ) (change : Change ε σ α) : Except ε α × σ := Id.run (change.run.run s)

/-- A change as one step of another one. -/
def Change.of (f : σ → Except ε α × σ) : Change ε σ α := ExceptT.mk fun s => f s

/-- Whether a change that began in the state `s` has left it as it was, if it was refused. -/
def Atomic (s : σ) (done : Except ε α × σ) : Prop := ∀ error, done.1 = .error error → done.2 = s

section Steps

variable (s : σ)

@[simp] theorem changing_pure (a : α) : changing s (pure a : Change ε σ α) = (.ok a, s) := rfl

@[simp] theorem changing_throw (error : ε) :
    changing s (throw error : Change ε σ α) = (.error error, s) := rfl

@[simp] theorem changing_get : changing s (get : Change ε σ σ) = (.ok s, s) := rfl

@[simp] theorem changing_modify (f : σ → σ) :
    changing s (modify f : Change ε σ PUnit) = (.ok (), f s) := rfl

/-- A question that may be answered by a refusal leaves the state. -/
@[simp] theorem changing_lift (x : Except ε α) :
    changing s (liftM x : Change ε σ α) = (x, s) := rfl

@[simp] theorem changing_of (f : σ → Except ε α × σ) : changing s (Change.of f) = f s := rfl

/-- The second step begins where the first one ends, and is left out if the first one refuses. -/
@[simp] theorem changing_bind (x : Change ε σ α) (f : α → Change ε σ β) :
    changing s (x >>= f) =
      match changing s x with
      | (.ok a, t) => changing t (f a)
      | (.error error, t) => (.error error, t) := by
  show Id.run (ExceptT.bindCont f (changing s x).1 (changing s x).2) = _
  obtain ⟨answer, t⟩ := changing s x
  cases answer <;> rfl

end Steps

end InputMap
