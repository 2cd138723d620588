import InputMap.Binding
import InputMap.Proofs.Expr.Typing
import InputMap.Proofs.Value.Equality

/-!
# Typing and strict evaluation

`Expr.evaluateAll?` is the strict counterpart of `Expr.evaluate?`: it looks at both arms of every
branch and wants them to be of one category.  Whether it yields a value, and of which category, is
the same in all circumstances that fit, so that it characterises the typing rules from the outside.
An expression that is accepted cannot get stuck, and looking at the selected arm only makes no
difference to it.  Both directions together make strict evaluation equivalent to the check.

## Key results

- `HasCategory.evaluate`: an accepted expression has a value of its category, strictly or not
- `hasCategory_of_evaluateAll`: an expression with a strict value is accepted
-/

namespace InputMap

/-- Readings that all have the category of their signal. -/
def Snapshot.Fits (readings : Snapshot) : Prop :=
  ∀ s v, readings.reading? s = some v → v.category = s.category

/-- A signal is read in its own category, polled or not, from readings that fit. -/
theorem Snapshot.Fits.category_get {readings : Snapshot} (h : readings.Fits) (s : Signal) :
    (readings.get s).category = s.category := by
  simp only [Snapshot.get]
  cases hread : readings.reading? s with
  | none => exact Value.category_neutral _
  | some v => exact h s v hread

theorem Snapshot.fits_empty : Snapshot.empty.Fits := fun _ _ h => (nomatch h)

namespace Value

/-- A digital value is a Boolean. -/
theorem eq_bool_of_category {v : Value} (h : v.category = .digital) : ∃ b, v = .bool b := by
  cases v with
  | bool b => exact ⟨b, rfl⟩
  | _ => exact nomatch h

theorem eq_scalar_of_category {v : Value} (h : v.category = .analog1) : ∃ a, v = .scalar a := by
  cases v with
  | scalar a => exact ⟨a, rfl⟩
  | _ => exact nomatch h

theorem eq_vec2_of_category {v : Value} (h : v.category = .analog2) : ∃ a b, v = .vec2 a b := by
  cases v with
  | vec2 a b => exact ⟨a, b, rfl⟩
  | _ => exact nomatch h

/-- Only a Boolean is read as one. -/
theorem asBool?_eq_some {v : Value} {b : Bool} : v.asBool? = some b ↔ v = .bool b := by
  cases v <;> simp [asBool?]

theorem asScalar?_eq_some {v : Value} {a : Float32} : v.asScalar? = some a ↔ v = .scalar a := by
  cases v <;> simp [asScalar?]

theorem asVec2?_eq_some {v : Value} {p : Float32 × Float32} :
    v.asVec2? = some p ↔ v = .vec2 p.1 p.2 := by
  obtain ⟨a, b⟩ := p
  cases v <;> simp [asVec2?]

/-- Two numbers, or two pairs, can be combined. -/
theorem exists_combine? (f : Float32 → Float32 → Float32) {v w : Value} {c : Category}
    (hv : v.category = c) (hw : w.category = c) (hc : c ≠ .digital) :
    ∃ u, v.combine? f w = some u ∧ u.category = c := by
  subst hv
  cases v with
  | bool => exact absurd rfl hc
  | scalar a =>
    obtain ⟨a', rfl⟩ := eq_scalar_of_category hw
    exact ⟨_, rfl, rfl⟩
  | vec2 a b =>
    obtain ⟨a', b', rfl⟩ := eq_vec2_of_category hw
    exact ⟨_, rfl, rfl⟩

/-- Nothing but two numbers, or two pairs, can be combined. -/
theorem category_of_combine? {f : Float32 → Float32 → Float32} {u v w : Value}
    (h : v.combine? f w = some u) :
    v.category = u.category ∧ w.category = u.category ∧ u.category ≠ .digital := by
  -- only numbers with numbers and pairs with pairs can be combined
  cases v with
  | bool => exact nomatch h
  | scalar a =>
    cases w with
    | scalar a' =>
      cases h
      exact ⟨rfl, rfl, nofun⟩
    | _ => exact nomatch h
  | vec2 a b =>
    cases w with
    | vec2 a' b' =>
      cases h
      exact ⟨rfl, rfl, nofun⟩
    | _ => exact nomatch h

end Value

namespace Expr

/-- The value of an expression when every operand and both arms of every branch are evaluated.
    There is none if an operand has the wrong category or the arms of a branch differ in theirs. -/
def evaluateAll? (readings : Snapshot) (previous : Value) : Expr → Option Value
  | .input s => some (readings.get s)
  | .constant v => some v
  | .add a b => do
    let left ← a.evaluateAll? readings previous
    let right ← b.evaluateAll? readings previous
    left.combine? (· + ·) right
  | .multiply a b => do
    let left ← a.evaluateAll? readings previous
    let right ← b.evaluateAll? readings previous
    left.combine? (· * ·) right
  | .branch c a b => do
    let condition ← c.evaluateAll? readings previous
    let selected ← condition.asBool?
    let yes ← a.evaluateAll? readings previous
    let no ← b.evaluateAll? readings previous
    if yes.category = no.category then some (if selected then yes else no) else none
  | .xor a b => do
    let left ← a.evaluateAll? readings previous
    let right ← b.evaluateAll? readings previous
    return .bool ((← left.asBool?) ^^ (← right.asBool?))
  | .join x y => do
    let left ← x.evaluateAll? readings previous
    let right ← y.evaluateAll? readings previous
    return .vec2 (← left.asScalar?) (← right.asScalar?)
  | .split e axis => do
    let (x, y) ← (← e.evaluateAll? readings previous).asVec2?
    return .scalar (axis.select x y)
  | .threshold e limit => do
    let v ← (← e.evaluateAll? readings previous).asScalar?
    return .bool (decide (limit < v.abs))
  | .previous => some previous

/-- Whether every constant and every limit of a threshold is finite. -/
def IsFinite : Expr → Prop
  | .input _ => True
  | .constant v => v.isFinite = true
  | .add a b => a.IsFinite ∧ b.IsFinite
  | .multiply a b => a.IsFinite ∧ b.IsFinite
  | .branch c a b => c.IsFinite ∧ a.IsFinite ∧ b.IsFinite
  | .xor a b => a.IsFinite ∧ b.IsFinite
  | .join x y => x.IsFinite ∧ y.IsFinite
  | .split e _ => e.IsFinite
  | .threshold e limit => limit.isFinite = true ∧ e.IsFinite
  | .previous => True

variable {own : Category} {available : SignalSet} {e : Expr} {c : Category}
variable {readings : Snapshot} {previous : Value}

/-- The constants and limits of a checked expression are finite. -/
theorem HasCategory.isFinite (h : HasCategory own available e c) : e.IsFinite := by
  -- on the rules; two of them ask it, and the others pass it on
  induction h with
  | input => trivial
  | constant hv => exact hv
  | add _ _ _ iha ihb => exact ⟨iha, ihb⟩
  | multiply _ _ _ iha ihb => exact ⟨iha, ihb⟩
  | branch _ _ _ ihp iha ihb => exact ⟨ihp, iha, ihb⟩
  | xor _ _ iha ihb => exact ⟨iha, ihb⟩
  | join _ _ ihx ihy => exact ⟨ihx, ihy⟩
  | split _ ih => exact ih
  | threshold hlimit _ ih => exact ⟨hlimit, ih⟩
  | previous => trivial

/-- An accepted expression has a value of its category wherever the readings and the previous value
    fit, and the arms that are not selected do not matter to it. -/
theorem HasCategory.evaluate (h : HasCategory own available e c) (hreadings : readings.Fits)
    (hprevious : previous.category = own) :
    ∃ v, e.evaluateAll? readings previous = some v ∧ e.evaluate? readings previous = some v ∧
      v.category = c := by
  -- on the rules; each operand has a value of the category that the node asks for
  induction h with
  | input => exact ⟨_, rfl, rfl, hreadings.category_get _⟩
  | constant => exact ⟨_, rfl, rfl, rfl⟩
  | add _ _ hc iha ihb =>
    obtain ⟨v, hva, hvl, hv⟩ := iha
    obtain ⟨w, hwa, hwl, hw⟩ := ihb
    obtain ⟨u, hu, hcategory⟩ := Value.exists_combine? (· + ·) hv hw hc
    exact ⟨u, by simp [evaluateAll?, hva, hwa, hu], by simp [evaluate?, hvl, hwl, hu], hcategory⟩
  | multiply _ _ hc iha ihb =>
    obtain ⟨v, hva, hvl, hv⟩ := iha
    obtain ⟨w, hwa, hwl, hw⟩ := ihb
    obtain ⟨u, hu, hcategory⟩ := Value.exists_combine? (· * ·) hv hw hc
    exact ⟨u, by simp [evaluateAll?, hva, hwa, hu], by simp [evaluate?, hvl, hwl, hu], hcategory⟩
  | branch _ _ _ ihp iha ihb =>
    obtain ⟨p, hpa, hpl, hp⟩ := ihp
    obtain ⟨selected, rfl⟩ := Value.eq_bool_of_category hp
    obtain ⟨v, hva, hvl, hv⟩ := iha
    obtain ⟨w, hwa, hwl, hw⟩ := ihb
    -- the arms agree, which is what the strict evaluator asks
    have harms : v.category = w.category := hv.trans hw.symm
    refine ⟨if selected then v else w, ?_, ?_, ?_⟩
    · simp [evaluateAll?, hpa, hva, hwa, harms, Value.asBool?]
    · -- only the selected arm is looked at
      cases selected <;> simp [evaluate?, hpl, hvl, hwl, Value.asBool?]
    · cases selected
      · exact hw
      · exact hv
  | xor _ _ iha ihb =>
    obtain ⟨v, hva, hvl, hv⟩ := iha
    obtain ⟨w, hwa, hwl, hw⟩ := ihb
    obtain ⟨first, rfl⟩ := Value.eq_bool_of_category hv
    obtain ⟨second, rfl⟩ := Value.eq_bool_of_category hw
    exact ⟨.bool (first ^^ second), by simp [evaluateAll?, hva, hwa, Value.asBool?],
      by simp [evaluate?, hvl, hwl, Value.asBool?], rfl⟩
  | join _ _ ihx ihy =>
    obtain ⟨v, hva, hvl, hv⟩ := ihx
    obtain ⟨w, hwa, hwl, hw⟩ := ihy
    obtain ⟨first, rfl⟩ := Value.eq_scalar_of_category hv
    obtain ⟨second, rfl⟩ := Value.eq_scalar_of_category hw
    exact ⟨.vec2 first second, by simp [evaluateAll?, hva, hwa, Value.asScalar?],
      by simp [evaluate?, hvl, hwl, Value.asScalar?], rfl⟩
  | @split e axis _ ih =>
    obtain ⟨v, hva, hvl, hv⟩ := ih
    obtain ⟨x, y, rfl⟩ := Value.eq_vec2_of_category hv
    exact ⟨.scalar (axis.select x y), by simp [evaluateAll?, hva, Value.asVec2?],
      by simp [evaluate?, hvl, Value.asVec2?], rfl⟩
  | @threshold e limit _ _ ih =>
    obtain ⟨v, hva, hvl, hv⟩ := ih
    obtain ⟨x, rfl⟩ := Value.eq_scalar_of_category hv
    exact ⟨.bool (decide (limit < x.abs)), by simp [evaluateAll?, hva, Value.asScalar?],
      by simp [evaluate?, hvl, Value.asScalar?], rfl⟩
  | previous => exact ⟨_, rfl, rfl, hprevious⟩

/-- An expression with a strict value is accepted with the category of that value. -/
theorem hasCategory_of_evaluateAll (hfinite : e.IsFinite)
    (hsignals : ∀ s ∈ e.signals, s ∈ available) (hreadings : readings.Fits)
    (hprevious : previous.category = own) {v : Value}
    (h : e.evaluateAll? readings previous = some v) :
    HasCategory own available e v.category := by
  -- on the expression; a strict value of a node comes from strict values of all its operands
  induction e generalizing v with
  | input s =>
    cases h
    rw [hreadings.category_get]
    exact .input (hsignals s (List.mem_singleton_self s))
  | constant w =>
    cases h
    exact .constant hfinite
  | add a b iha ihb =>
    obtain ⟨ha, hb⟩ := List.forall_mem_append.1 hsignals
    simp only [evaluateAll?, Option.bind_eq_bind, Option.bind_eq_some_iff] at h
    obtain ⟨left, hleft, right, hright, hsum⟩ := h
    obtain ⟨hl, hr, hc⟩ := Value.category_of_combine? hsum
    exact .add (hl ▸ iha hfinite.1 ha hleft) (hr ▸ ihb hfinite.2 hb hright) hc
  | multiply a b iha ihb =>
    obtain ⟨ha, hb⟩ := List.forall_mem_append.1 hsignals
    simp only [evaluateAll?, Option.bind_eq_bind, Option.bind_eq_some_iff] at h
    obtain ⟨left, hleft, right, hright, hproduct⟩ := h
    obtain ⟨hl, hr, hc⟩ := Value.category_of_combine? hproduct
    exact .multiply (hl ▸ iha hfinite.1 ha hleft) (hr ▸ ihb hfinite.2 hb hright) hc
  | branch p a b ihp iha ihb =>
    obtain ⟨hpa, hb⟩ := List.forall_mem_append.1 hsignals
    obtain ⟨hp, ha⟩ := List.forall_mem_append.1 hpa
    simp only [evaluateAll?, Option.bind_eq_bind, Option.bind_eq_some_iff,
      Value.asBool?_eq_some] at h
    obtain ⟨_, hcondition, selected, rfl, yes, hyes, no, hno, h⟩ := h
    -- the strict evaluator compares the arms, whichever of them is selected
    split at h
    · rename_i harms
      cases h
      have hcategory : (if selected = true then yes else no).category = yes.category := by
        cases selected
        · exact harms.symm
        · rfl
      rw [hcategory]
      exact .branch (ihp hfinite.1 hp hcondition) (iha hfinite.2.1 ha hyes)
        (harms ▸ ihb hfinite.2.2 hb hno)
    · exact nomatch h
  | xor a b iha ihb =>
    obtain ⟨ha, hb⟩ := List.forall_mem_append.1 hsignals
    simp only [evaluateAll?, Option.bind_eq_bind, Option.bind_eq_some_iff,
      Value.asBool?_eq_some] at h
    obtain ⟨_, hleft, _, hright, first, rfl, second, rfl, hv⟩ := h
    cases hv
    exact .xor (iha hfinite.1 ha hleft) (ihb hfinite.2 hb hright)
  | join x y ihx ihy =>
    obtain ⟨hx, hy⟩ := List.forall_mem_append.1 hsignals
    simp only [evaluateAll?, Option.bind_eq_bind, Option.bind_eq_some_iff,
      Value.asScalar?_eq_some] at h
    obtain ⟨_, hleft, _, hright, first, rfl, second, rfl, hv⟩ := h
    cases hv
    exact .join (ihx hfinite.1 hx hleft) (ihy hfinite.2 hy hright)
  | split e axis ih =>
    simp only [evaluateAll?, Option.bind_eq_bind, Option.bind_eq_some_iff,
      Value.asVec2?_eq_some] at h
    obtain ⟨_, hpair, p, rfl, hv⟩ := h
    cases hv
    exact .split (ih hfinite hsignals hpair)
  | threshold e limit ih =>
    simp only [evaluateAll?, Option.bind_eq_bind, Option.bind_eq_some_iff,
      Value.asScalar?_eq_some] at h
    obtain ⟨_, hnumber, x, rfl, hv⟩ := h
    cases hv
    exact .threshold hfinite.1 (ih hfinite.2 hsignals hnumber)
  | previous =>
    cases h
    rw [hprevious]
    exact .previous

/-- An expression is accepted with a category exactly if its numbers are finite, the signals that it
    reads are there, and it has a strict value of that category wherever the readings and the
    previous value fit.  Evaluation, which skips the arm that is not selected, then gives that very
    value. -/
theorem infer_iff_evaluateAll (e : Expr) (own : Category) (available : SignalSet) (c : Category) :
    (e.infer own available = .ok c ↔
      e.IsFinite ∧ (∀ s ∈ e.signals, s ∈ available) ∧
        ∀ (readings : Snapshot) (previous : Value), readings.Fits → previous.category = own →
          ∃ v, e.evaluateAll? readings previous = some v ∧ v.category = c) ∧
    (e.infer own available = .ok c →
      ∀ (readings : Snapshot) (previous : Value), readings.Fits → previous.category = own →
        e.evaluate? readings previous = e.evaluateAll? readings previous) := by
  constructor
  · rw [infer_eq_ok_iff]
    constructor
    · intro h
      refine ⟨h.isFinite, fun s hs => h.mem_of_mem_signals hs, fun readings previous hr hp => ?_⟩
      obtain ⟨v, hv, -, hcategory⟩ := h.evaluate hr hp
      exact ⟨v, hv, hcategory⟩
    · rintro ⟨hfinite, hsignals, hvalues⟩
      -- one fitting snapshot and previous value tell the category of all of them
      obtain ⟨v, hv, rfl⟩ :=
        hvalues .empty own.neutral Snapshot.fits_empty (Value.category_neutral own)
      exact hasCategory_of_evaluateAll hfinite hsignals Snapshot.fits_empty
        (Value.category_neutral own) hv
  · intro h readings previous hr hp
    obtain ⟨v, hstrict, hlazy, -⟩ := (infer_eq_ok_iff.1 h).evaluate hr hp
    rw [hlazy, hstrict]

/-- While a button is held, an axis of the stored pair; else a constant. -/
theorem infer_iff_evaluateAll_of_branch :
    let e : Expr :=
      .branch (.input (.button .faceDown)) (.split .previous .y) (.constant (.scalar 1.0))
    e.infer .analog2 .all = .ok .analog1 ∧
      ∀ (readings : Snapshot) (previous : Value), readings.Fits → previous.category = .analog2 →
        e.evaluate? readings previous = e.evaluateAll? readings previous := by
  intro e
  have hinfer : e.infer .analog2 .all = .ok .analog1 := by rfl
  exact ⟨hinfer, (infer_iff_evaluateAll e .analog2 .all .analog1).2 hinfer⟩

end Expr

end InputMap
