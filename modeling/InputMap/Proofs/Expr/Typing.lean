import InputMap.Expr.Typing
import InputMap.Proofs.ForStd

/-!
# The typing rules of expressions

`Expr.HasCategory` states the typing rules one node at a time, apart from the order in which
`Expr.infer` checks them and from the errors that it gives.  Everything that follows about checked
expressions is by induction on these rules.

## Key results

- `infer_eq_ok_iff`: `infer` accepts exactly what the rules allow
- `HasCategory.mono`: other signals do as well if they include the ones that are read
-/

namespace InputMap

/-- A category is accepted where it is the expected one. -/
theorem expectCategory_eq_ok {node : Node} {expected found : Category} {u : Unit} :
    expectCategory node expected found = .ok u ↔ found = expected := by
  simp only [expectCategory]
  split
  · simp_all
  · simp_all

/-- Operands can be calculated with if they have the same category and it is not digital. -/
theorem arithmeticCategory_eq_ok {node : Node} {left right c : Category} :
    arithmeticCategory node left right = .ok c ↔ left = c ∧ right = c ∧ c ≠ .digital := by
  simp only [arithmeticCategory]
  -- operands that differ are refused first, digital ones only after that
  split
  · rename_i hne
    exact ⟨fun h => (nomatch h), fun ⟨hl, hr, _⟩ => absurd (hl.trans hr.symm) hne⟩
  · rename_i heq
    split
    · rename_i hdigital
      exact ⟨fun h => (nomatch h), fun ⟨hl, _, hc⟩ => absurd (hl ▸ hdigital) hc⟩
    · rename_i hdigital
      have hright : left = right := Decidable.not_not.1 heq
      constructor
      · intro h
        cases h
        exact ⟨rfl, hright.symm, hdigital⟩
      · rintro ⟨rfl, -, -⟩
        rfl

/-- Two arms have a category if it is the same. -/
theorem armCategory_eq_ok {left right c : Category} :
    armCategory left right = .ok c ↔ left = c ∧ right = c := by
  simp only [armCategory]
  split
  · rename_i hne
    exact ⟨fun h => (nomatch h), fun ⟨hl, hr⟩ => absurd (hl.trans hr.symm) hne⟩
  · rename_i heq
    -- the arms agree, so the category is that of either
    have hright : left = right := Decidable.not_not.1 heq
    constructor
    · intro h
      cases h
      exact ⟨rfl, hright.symm⟩
    · rintro ⟨rfl, -⟩
      rfl

namespace Expr

/-- The typing rules: `HasCategory own available e c` says that `e` is of the category `c` when it
    is bound to an action of the category `own` and the signals in `available` can be read. -/
inductive HasCategory (own : Category) (available : SignalSet) : Expr → Category → Prop
  | input {s : Signal} (hs : s ∈ available) : HasCategory own available (.input s) s.category
  | constant {v : Value} (hv : v.isFinite = true) :
    HasCategory own available (.constant v) v.category
  | add {a b : Expr} {c : Category} (ha : HasCategory own available a c)
    (hb : HasCategory own available b c) (hc : c ≠ .digital) :
    HasCategory own available (.add a b) c
  | multiply {a b : Expr} {c : Category} (ha : HasCategory own available a c)
    (hb : HasCategory own available b c) (hc : c ≠ .digital) :
    HasCategory own available (.multiply a b) c
  | branch {p a b : Expr} {c : Category} (hp : HasCategory own available p .digital)
    (ha : HasCategory own available a c) (hb : HasCategory own available b c) :
    HasCategory own available (.branch p a b) c
  | xor {a b : Expr} (ha : HasCategory own available a .digital)
    (hb : HasCategory own available b .digital) : HasCategory own available (.xor a b) .digital
  | join {x y : Expr} (hx : HasCategory own available x .analog1)
    (hy : HasCategory own available y .analog1) : HasCategory own available (.join x y) .analog2
  | split {e : Expr} {axis : Axis} (he : HasCategory own available e .analog2) :
    HasCategory own available (.split e axis) .analog1
  | threshold {e : Expr} {limit : Float32} (hlimit : limit.isFinite = true)
    (he : HasCategory own available e .analog1) :
    HasCategory own available (.threshold e limit) .digital
  | previous : HasCategory own available .previous own

variable {own : Category} {available : SignalSet} {e : Expr} {c : Category}

/-- What is inferred is allowed by the rules. -/
theorem hasCategory_of_infer (h : e.infer own available = .ok c) :
    HasCategory own available e c := by
  -- on the expression; a check that passes says what its node asks of the operands
  induction e generalizing c with
  | input s =>
    simp only [infer] at h
    split at h
    · cases h
      exact .input ‹_›
    · exact nomatch h
  | constant v =>
    simp only [infer] at h
    split at h
    · cases h
      exact .constant ‹_›
    · exact nomatch h
  | add a b iha ihb =>
    simp only [infer, Except.bind_eq_ok, arithmeticCategory_eq_ok] at h
    -- both operands have passed before their categories are compared
    obtain ⟨_, ha, _, hb, rfl, rfl, hc⟩ := h
    exact .add (iha ha) (ihb hb) hc
  | multiply a b iha ihb =>
    simp only [infer, Except.bind_eq_ok, arithmeticCategory_eq_ok] at h
    obtain ⟨_, ha, _, hb, rfl, rfl, hc⟩ := h
    exact .multiply (iha ha) (ihb hb) hc
  | branch p a b ihp iha ihb =>
    simp only [infer, Except.bind_eq_ok, expectCategory_eq_ok, armCategory_eq_ok] at h
    obtain ⟨_, hp, _, rfl, _, ha, _, hb, rfl, rfl⟩ := h
    exact .branch (ihp hp) (iha ha) (ihb hb)
  | xor a b iha ihb =>
    simp only [infer, Except.bind_eq_ok, expectCategory_eq_ok] at h
    obtain ⟨_, ha, _, rfl, _, hb, _, rfl, hc⟩ := h
    cases hc
    exact .xor (iha ha) (ihb hb)
  | join x y ihx ihy =>
    simp only [infer, Except.bind_eq_ok, expectCategory_eq_ok] at h
    obtain ⟨_, hx, _, rfl, _, hy, _, rfl, hc⟩ := h
    cases hc
    exact .join (ihx hx) (ihy hy)
  | split e axis ih =>
    simp only [infer, Except.bind_eq_ok, expectCategory_eq_ok] at h
    obtain ⟨_, he, _, rfl, hc⟩ := h
    cases hc
    exact .split (ih he)
  | threshold e limit ih =>
    simp only [infer] at h
    split at h
    · simp only [Except.bind_eq_ok, expectCategory_eq_ok] at h
      obtain ⟨_, he, _, rfl, hc⟩ := h
      cases hc
      exact .threshold ‹_› (ih he)
    · exact nomatch h
  | previous =>
    cases h
    exact .previous

/-- What the rules allow is inferred. -/
theorem HasCategory.infer_eq (h : HasCategory own available e c) :
    e.infer own available = .ok c := by
  -- on the rules; each premise makes one check pass
  induction h with
  | input hs => simp only [infer, hs, if_true]
  | constant hv => simp only [infer, hv, if_true]
  | add _ _ hc iha ihb =>
    simp only [infer, Except.bind_eq_ok, arithmeticCategory_eq_ok]
    exact ⟨_, iha, _, ihb, rfl, rfl, hc⟩
  | multiply _ _ hc iha ihb =>
    simp only [infer, Except.bind_eq_ok, arithmeticCategory_eq_ok]
    exact ⟨_, iha, _, ihb, rfl, rfl, hc⟩
  | branch _ _ _ ihp iha ihb =>
    simp only [infer, Except.bind_eq_ok, expectCategory_eq_ok, armCategory_eq_ok]
    exact ⟨_, ihp, (), rfl, _, iha, _, ihb, rfl, rfl⟩
  | xor _ _ iha ihb =>
    simp only [infer, Except.bind_eq_ok, expectCategory_eq_ok]
    exact ⟨_, iha, (), rfl, _, ihb, (), rfl, rfl⟩
  | join _ _ ihx ihy =>
    simp only [infer, Except.bind_eq_ok, expectCategory_eq_ok]
    exact ⟨_, ihx, (), rfl, _, ihy, (), rfl, rfl⟩
  | split _ ih =>
    simp only [infer, Except.bind_eq_ok, expectCategory_eq_ok]
    exact ⟨_, ih, (), rfl, rfl⟩
  | threshold hlimit _ ih =>
    simp only [infer, hlimit, if_true, Except.bind_eq_ok, expectCategory_eq_ok]
    exact ⟨_, ih, (), rfl, rfl⟩
  | previous => rfl

/-- Inference accepts the expressions that have a category, and with that category. -/
theorem infer_eq_ok_iff : e.infer own available = .ok c ↔ HasCategory own available e c :=
  ⟨hasCategory_of_infer, HasCategory.infer_eq⟩

theorem HasCategory.mem_of_mem_signals (h : HasCategory own available e c) {s : Signal}
    (hs : s ∈ e.signals) : s ∈ available := by
  -- a node reads what its operands read; only an input reads a signal itself
  induction h with
  | input hmem =>
    rw [signals, List.mem_singleton] at hs
    exact hs ▸ hmem
  | constant => exact nomatch hs
  | add _ _ _ iha ihb => exact (List.mem_append.1 hs).elim iha ihb
  | multiply _ _ _ iha ihb => exact (List.mem_append.1 hs).elim iha ihb
  | branch _ _ _ ihp iha ihb =>
    rcases List.mem_append.1 hs with hs | hs
    · exact (List.mem_append.1 hs).elim ihp iha
    · exact ihb hs
  | xor _ _ iha ihb => exact (List.mem_append.1 hs).elim iha ihb
  | join _ _ ihx ihy => exact (List.mem_append.1 hs).elim ihx ihy
  | split _ ih => exact ih hs
  | threshold _ _ ih => exact ih hs
  | previous => exact nomatch hs

/-- The rules ask of the signals only that those that are read are there. -/
theorem HasCategory.mono {others : SignalSet} (h : HasCategory own available e c)
    (hs : ∀ s ∈ e.signals, s ∈ others) : HasCategory own others e c := by
  -- the signals of a node are its operands' one after the other, so each part keeps its own
  induction h with
  | input => exact .input (hs _ (List.mem_singleton_self _))
  | constant hv => exact .constant hv
  | add _ _ hc iha ihb =>
    obtain ⟨ha, hb⟩ := List.forall_mem_append.1 hs
    exact .add (iha ha) (ihb hb) hc
  | multiply _ _ hc iha ihb =>
    obtain ⟨ha, hb⟩ := List.forall_mem_append.1 hs
    exact .multiply (iha ha) (ihb hb) hc
  | branch _ _ _ ihp iha ihb =>
    obtain ⟨hpa, hb⟩ := List.forall_mem_append.1 hs
    obtain ⟨hp, ha⟩ := List.forall_mem_append.1 hpa
    exact .branch (ihp hp) (iha ha) (ihb hb)
  | xor _ _ iha ihb =>
    obtain ⟨ha, hb⟩ := List.forall_mem_append.1 hs
    exact .xor (iha ha) (ihb hb)
  | join _ _ ihx ihy =>
    obtain ⟨hx, hy⟩ := List.forall_mem_append.1 hs
    exact .join (ihx hx) (ihy hy)
  | split _ ih => exact .split (ih hs)
  | threshold hlimit _ ih => exact .threshold hlimit (ih hs)
  | previous => exact .previous

end Expr

end InputMap
