import InputMap.Expr.Evaluation
import InputMap.Expr.Typing

/-!
# What an expression reads

An expression reads the signals that it names, and the action's previous value if `previous` stands
in it.  Its value depends on nothing else, and neither does its category.

## Key results

- `evaluate?_congr`: readings and previous values that agree on what is read give the same value
- `infer_congr`: sets of signals that agree on what is named give the same category or error
-/

namespace InputMap.Expr

/-- Whether `previous` stands somewhere in an expression. -/
def readsPrevious : Expr → Bool
  | .input _ => false
  | .constant _ => false
  | .add a b => a.readsPrevious || b.readsPrevious
  | .multiply a b => a.readsPrevious || b.readsPrevious
  | .branch c a b => c.readsPrevious || a.readsPrevious || b.readsPrevious
  | .xor a b => a.readsPrevious || b.readsPrevious
  | .join x y => x.readsPrevious || y.readsPrevious
  | .split e _ => e.readsPrevious
  | .threshold e _ => e.readsPrevious
  | .previous => true

variable {e : Expr} {r r' : Snapshot} {v v' : Value} {own own' : Category}
  {available available' : SignalSet}

/-- An expression has the same value on readings that agree on its signals and on previous values
    that are the same, where the latter matters only if it reads the previous value. -/
theorem evaluate?_congr (hr : ∀ s ∈ e.signals, r.get s = r'.get s)
    (hv : e.readsPrevious = true → v = v') : e.evaluate? r v = e.evaluate? r' v' := by
  -- on the expression; what an operand reads the whole expression reads
  induction e with
  | input s => exact congrArg some (hr s (List.mem_singleton_self s))
  | constant w => rfl
  | add a b iha ihb =>
    obtain ⟨hra, hrb⟩ := List.forall_mem_append.1 hr
    simp only [readsPrevious, Bool.or_eq_true] at hv
    simp only [evaluate?, iha hra fun h => hv (.inl h), ihb hrb fun h => hv (.inr h)]
  | multiply a b iha ihb =>
    obtain ⟨hra, hrb⟩ := List.forall_mem_append.1 hr
    simp only [readsPrevious, Bool.or_eq_true] at hv
    simp only [evaluate?, iha hra fun h => hv (.inl h), ihb hrb fun h => hv (.inr h)]
  | branch c a b ihc iha ihb =>
    obtain ⟨hrca, hrb⟩ := List.forall_mem_append.1 hr
    obtain ⟨hrc, hra⟩ := List.forall_mem_append.1 hrca
    simp only [readsPrevious, Bool.or_eq_true] at hv
    simp only [evaluate?, ihc hrc fun h => hv (.inl (.inl h)),
      iha hra fun h => hv (.inl (.inr h)), ihb hrb fun h => hv (.inr h)]
  | xor a b iha ihb =>
    obtain ⟨hra, hrb⟩ := List.forall_mem_append.1 hr
    simp only [readsPrevious, Bool.or_eq_true] at hv
    simp only [evaluate?, iha hra fun h => hv (.inl h), ihb hrb fun h => hv (.inr h)]
  | join x y ihx ihy =>
    obtain ⟨hrx, hry⟩ := List.forall_mem_append.1 hr
    simp only [readsPrevious, Bool.or_eq_true] at hv
    simp only [evaluate?, ihx hrx fun h => hv (.inl h), ihy hry fun h => hv (.inr h)]
  | split e axis ih => simp only [evaluate?, ih hr hv]
  | threshold e limit ih => simp only [evaluate?, ih hr hv]
  | previous => exact congrArg some (hv rfl)

/-- An expression without `previous` does not see the previous value. -/
theorem evaluate?_of_not_readsPrevious (h : e.readsPrevious = false) (v v' : Value) :
    e.evaluate? r v = e.evaluate? r v' :=
  evaluate?_congr (fun _ _ => rfl) fun htrue => nomatch h.symm.trans htrue

/-- The category of an expression, or the error, is the same under sets of signals that agree on
    the signals that it names and for own categories that are the same, where the latter matters
    only if it reads the previous value. -/
theorem infer_congr (hs : ∀ s ∈ e.signals, (s ∈ available ↔ s ∈ available'))
    (hown : e.readsPrevious = true → own = own') :
    e.infer own available = e.infer own' available' := by
  -- on the expression, as for its value; the checks after the operands see their categories only
  induction e with
  | input s => simp only [infer, hs s (List.mem_singleton_self s)]
  | constant w => rfl
  | add a b iha ihb =>
    obtain ⟨hsa, hsb⟩ := List.forall_mem_append.1 hs
    simp only [readsPrevious, Bool.or_eq_true] at hown
    simp only [infer, iha hsa fun h => hown (.inl h), ihb hsb fun h => hown (.inr h)]
  | multiply a b iha ihb =>
    obtain ⟨hsa, hsb⟩ := List.forall_mem_append.1 hs
    simp only [readsPrevious, Bool.or_eq_true] at hown
    simp only [infer, iha hsa fun h => hown (.inl h), ihb hsb fun h => hown (.inr h)]
  | branch c a b ihc iha ihb =>
    obtain ⟨hsca, hsb⟩ := List.forall_mem_append.1 hs
    obtain ⟨hsc, hsa⟩ := List.forall_mem_append.1 hsca
    simp only [readsPrevious, Bool.or_eq_true] at hown
    simp only [infer, ihc hsc fun h => hown (.inl (.inl h)),
      iha hsa fun h => hown (.inl (.inr h)), ihb hsb fun h => hown (.inr h)]
  | xor a b iha ihb =>
    obtain ⟨hsa, hsb⟩ := List.forall_mem_append.1 hs
    simp only [readsPrevious, Bool.or_eq_true] at hown
    simp only [infer, iha hsa fun h => hown (.inl h), ihb hsb fun h => hown (.inr h)]
  | join x y ihx ihy =>
    obtain ⟨hsx, hsy⟩ := List.forall_mem_append.1 hs
    simp only [readsPrevious, Bool.or_eq_true] at hown
    simp only [infer, ihx hsx fun h => hown (.inl h), ihy hsy fun h => hown (.inr h)]
  | split e axis ih => simp only [infer, ih hs hown]
  | threshold e limit ih => simp only [infer, ih hs hown]
  | previous => exact congrArg Except.ok (hown rfl)

end InputMap.Expr
