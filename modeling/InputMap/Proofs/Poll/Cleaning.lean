import InputMap.Pad.Faulty
import InputMap.Pad.Simulated
import InputMap.Proofs.Number.Order
import InputMap.Proofs.Poll.Answers

/-!
# What polling lets through

Whatever a pad answers, an entry of a poll is a value of its signal's category with every component
finite and within the limit.  The limit itself is always a positive finite number, so that its
negation is a lower bound and there is something between the two.

## Key results

- `Number.cleaned_cleanComponent`: the rules for one component
- `cleans_cleanAnswer`: the rules for one answer
-/

namespace InputMap

/-! ## The rules -/

namespace Number

/-- A number that a component can have once it is cleaned. -/
structure InRange (limit w : Float32) : Prop where
  isFinite : w.isFinite = true
  neg_le : -limit ≤ w
  le : w ≤ limit
  ne_negZero : w ≠ -0.0

/-- The rules for one component, of which `v` is read and `w` is kept. -/
structure Cleaned (limit v w : Float32) : Prop where
  inRange : InRange limit w
  of_isNaN : v.isNaN = true → w = 0.0
  of_lt : v < -limit → w = -limit
  of_gt : limit < v → w = limit
  of_mem : -limit ≤ v → v ≤ limit → w = if v = -0.0 then 0.0 else v

end Number

/-- Whether every component of a value is one that a cleaned reading can have. -/
def Value.InRange (limit : Float32) : Value → Prop
  | .bool _ => True
  | .scalar w => Number.InRange limit w
  | .vec2 x y => Number.InRange limit x ∧ Number.InRange limit y

/-- The rules for one answer: a fault counts as at rest, a button is taken as it is, and each
    component of another reading is cleaned by itself. -/
inductive Cleans (limit : Float32) : (s : Signal) → Answer s → Value → Prop
  | fault (s : Signal) (fault : Fault) : Cleans limit s (.error fault) s.category.neutral
  | button (b : Button) (down : Bool) : Cleans limit (.button b) (.ok down) (.bool down)
  | trigger (t : Trigger) {v w : Float32} (h : Number.Cleaned limit v w) :
    Cleans limit (.trigger t) (.ok v) (.scalar w)
  | stick (s : Stick) {x y x' y' : Float32} (hx : Number.Cleaned limit x x')
    (hy : Number.Cleaned limit y y') : Cleans limit (.stick s) (.ok (x, y)) (.vec2 x' y')

/-! ## Limits -/

namespace Number

variable {limit v : Float32} (h : Settings.isLimit limit = true)

include h

/-- The exact values of a limit and of its negation. -/
theorem exists_unpack_limit :
    ∃ m e, ∃ hm : 0 < m, limit.toModel.unpack = .finite .positive m e hm ∧
      (-limit).toModel.unpack = .finite .negative m e hm := by
  rw [Settings.isLimit, Bool.and_eq_true_iff, decide_eq_true_iff, lt_iff_compare] at h
  obtain ⟨hfinite, hpositive⟩ := h
  change limit.toModel.unpack.isFinite = true at hfinite
  change (Float.Model.UnpackedFloat.zero .positive).compare limit.toModel.unpack = some .lt
    at hpositive
  rw [unpack_neg]
  -- only a positive finite value is both finite and above zero
  cases hu : limit.toModel.unpack with
  | finite s m e hm =>
    rw [hu] at hpositive
    cases s with
    | negative => exact nomatch hpositive
    | positive => exact ⟨m, e, hm, rfl, rfl⟩
  | zero s => rw [hu] at hpositive; exact nomatch hpositive
  | _ => rw [hu] at hfinite; exact nomatch hfinite

/-- A limit is a finite number. -/
theorem isFinite_limit : limit.isFinite = true := (Bool.and_eq_true_iff.1 h).1

theorem isFinite_neg_limit : (-limit).isFinite = true := by
  obtain ⟨m, e, hm, -, hneg⟩ := exists_unpack_limit h
  change (-limit).toModel.unpack.isFinite = true
  rw [hneg]
  rfl

/-- The range between a limit and its negative is not empty. -/
theorem neg_limit_le_limit : -limit ≤ limit := by
  obtain ⟨m, e, hm, hpos, hneg⟩ := exists_unpack_limit h
  rw [le_iff_compare, hpos, hneg]
  exact ⟨.lt, rfl, rfl⟩

/-- Zero is in the range, seen from below. -/
theorem neg_limit_le_zero : -limit ≤ 0.0 := by
  obtain ⟨m, e, hm, -, hneg⟩ := exists_unpack_limit h
  rw [le_iff_compare, hneg]
  exact ⟨.lt, rfl, rfl⟩

/-- Zero is in the range, seen from above. -/
theorem zero_le_limit : 0.0 ≤ limit := by
  obtain ⟨m, e, hm, hpos, -⟩ := exists_unpack_limit h
  rw [le_iff_compare, hpos]
  exact ⟨.lt, rfl, rfl⟩

/-- No limit is zero. -/
theorem limit_beq_zero : (limit == 0.0) = false := by
  obtain ⟨m, e, hm, hpos, -⟩ := exists_unpack_limit h
  rw [beq_eq_compare, hpos]
  rfl

/-- A negated limit is not zero, since no limit is. -/
theorem neg_limit_beq_zero : (-limit == 0.0) = false := by
  obtain ⟨m, e, hm, -, hneg⟩ := exists_unpack_limit h
  rw [beq_eq_compare, hneg]
  rfl

/-- What is above the limit is not below its negation. -/
theorem not_lt_neg_limit (hv : limit < v) : ¬ v < -limit := by
  obtain ⟨m, e, hm, hpos, hneg⟩ := exists_unpack_limit h
  rw [lt_iff_compare, hpos] at hv
  rw [lt_iff_compare, hneg]
  -- what is above the limit is positive, and the negated limit is not
  cases hu : v.toModel.unpack with
  | finite s =>
    rw [hu] at hv
    cases s with
    | negative => exact nomatch hv
    | positive => exact nofun
  | infinity s =>
    rw [hu] at hv
    cases s with
    | negative => exact nomatch hv
    | positive => exact nofun
  | _ => rw [hu] at hv; exact nomatch hv

/-- A number that is beyond neither bound lies between them. -/
theorem mem_of_not_lt (hv : v.isNaN = false) (hlow : ¬ v < -limit) (hhigh : ¬ limit < v) :
    -limit ≤ v ∧ v ≤ limit :=
  ⟨le_of_not_lt hv (isNaN_of_isFinite (isFinite_neg_limit h)) hlow,
    le_of_not_lt (isNaN_of_isFinite (isFinite_limit h)) hv hhigh⟩

/-! ## One component -/

theorem inRange_zero : InRange limit 0.0 :=
  ⟨rfl, neg_limit_le_zero h, zero_le_limit h, by decide⟩

theorem inRange_limit : InRange limit limit where
  isFinite := isFinite_limit h
  neg_le := neg_limit_le_limit h
  le := le_self (isNaN_of_isFinite (isFinite_limit h))
  ne_negZero heq := by
    have hzero := limit_beq_zero h
    rw [beq_zero_iff.2 (.inr heq)] at hzero
    exact nomatch hzero

theorem inRange_neg_limit : InRange limit (-limit) where
  isFinite := isFinite_neg_limit h
  neg_le := le_self (isNaN_of_isFinite (isFinite_neg_limit h))
  le := neg_limit_le_limit h
  ne_negZero heq := by
    have hzero := neg_limit_beq_zero h
    rw [beq_zero_iff.2 (.inr heq)] at hzero
    exact nomatch hzero

/-- A number between the limits is in range once its zero has lost its sign. -/
theorem inRange_of_mem (hlow : -limit ≤ v) (hhigh : v ≤ limit) :
    InRange limit (if v = -0.0 then 0.0 else v) := by
  split
  · exact inRange_zero h
  · rename_i hne
    have hfinite := isFinite_of_not_lt (isFinite_neg_limit h) (isFinite_limit h)
      (isNaN_of_le hhigh).1 (not_lt_of_le hlow) (not_lt_of_le hhigh)
    exact ⟨hfinite, hlow, hhigh, hne⟩

omit h in
/-- What is not a number becomes zero. -/
theorem cleanComponent_of_isNaN (hv : v.isNaN = true) : cleanComponent limit v = 0.0 := if_pos hv

/-- What is too small becomes the lower limit. -/
theorem cleanComponent_of_lt (hv : v < -limit) : cleanComponent limit v = -limit := by
  simp only [cleanComponent, (isNaN_of_lt hv).1, Bool.false_eq_true, if_false, hv, if_true,
    neg_limit_beq_zero h]

/-- What is too large becomes the upper limit. -/
theorem cleanComponent_of_gt (hv : limit < v) : cleanComponent limit v = limit := by
  simp only [cleanComponent, (isNaN_of_lt hv).2, Bool.false_eq_true, if_false, hv, if_true,
    not_lt_neg_limit h hv, limit_beq_zero h]

omit h in
/-- What is in between stays as it is, but for a negative zero. -/
theorem cleanComponent_of_mem (hlow : -limit ≤ v) (hhigh : v ≤ limit) :
    cleanComponent limit v = if v = -0.0 then 0.0 else v := by
  simp only [cleanComponent, (isNaN_of_le hhigh).1, Bool.false_eq_true, if_false,
    not_lt_of_le hlow, not_lt_of_le hhigh, beq_zero_iff]
  -- of the two zeros only the negative one is changed
  by_cases hneg : v = -0.0
  · rw [if_pos (.inr hneg), if_pos hneg]
  · rw [if_neg hneg]
    split
    · rename_i hzero
      exact (hzero.resolve_right hneg).symm
    · rfl

/-- Cleaning a component keeps to the rules. -/
theorem cleaned_cleanComponent (v : Float32) : Cleaned limit v (cleanComponent limit v) where
  inRange := by
    -- the cases are those of the function, and each gives a number in range
    by_cases hnan : v.isNaN = true
    · rw [cleanComponent_of_isNaN hnan]
      exact inRange_zero h
    · by_cases hlow : v < -limit
      · rw [cleanComponent_of_lt h hlow]
        exact inRange_neg_limit h
      · by_cases hhigh : limit < v
        · rw [cleanComponent_of_gt h hhigh]
          exact inRange_limit h
        · obtain ⟨hge, hle⟩ := mem_of_not_lt h (Bool.eq_false_iff.2 hnan) hlow hhigh
          rw [cleanComponent_of_mem hge hle]
          exact inRange_of_mem h hge hle
  of_isNaN := cleanComponent_of_isNaN
  of_lt := cleanComponent_of_lt h
  of_gt := cleanComponent_of_gt h
  of_mem := cleanComponent_of_mem

/-- The rules leave no choice. -/
theorem Cleaned.eq_cleanComponent {w : Float32} (hw : Cleaned limit v w) :
    w = cleanComponent limit v := by
  have hkept := cleaned_cleanComponent h v
  by_cases hnan : v.isNaN = true
  · rw [hw.of_isNaN hnan, hkept.of_isNaN hnan]
  · by_cases hlow : v < -limit
    · rw [hw.of_lt hlow, hkept.of_lt hlow]
    · by_cases hhigh : limit < v
      · rw [hw.of_gt hhigh, hkept.of_gt hhigh]
      · obtain ⟨hge, hle⟩ := mem_of_not_lt h (Bool.eq_false_iff.2 hnan) hlow hhigh
        rw [hw.of_mem hge hle, hkept.of_mem hge hle]

end Number

/-! ## One answer -/

section

variable {limit : Float32} {s : Signal} {answer : Answer s} {v : Value}

/-- An answer of the pad is cleaned as the rules say, be it a fault, a button or an axis. -/
theorem cleans_cleanAnswer (h : Settings.isLimit limit = true) (s : Signal) (answer : Answer s) :
    Cleans limit s answer (cleanAnswer limit s answer) := by
  cases answer with
  | error fault => exact .fault s fault
  | ok r =>
    cases s with
    | button b => exact .button b r
    | trigger t => exact .trigger t (Number.cleaned_cleanComponent h r)
    | stick s =>
      obtain ⟨x, y⟩ := r
      exact .stick s (Number.cleaned_cleanComponent h x) (Number.cleaned_cleanComponent h y)

/-- What the rules allow is in range, at rest or not. -/
theorem Cleans.inRange (h : Settings.isLimit limit = true) (hv : Cleans limit s answer v) :
    v.InRange limit := by
  cases hv with
  | fault s fault =>
    cases s with
    | button b => exact trivial
    | trigger t => exact Number.inRange_zero h
    | stick s => exact ⟨Number.inRange_zero h, Number.inRange_zero h⟩
  | button b down => exact trivial
  | trigger t hw => exact hw.inRange
  | stick s hx hy => exact ⟨hx.inRange, hy.inRange⟩

/-- An answer is cleaned as the rules say, and the rules leave no choice. -/
theorem cleans_iff (h : Settings.isLimit limit = true) :
    Cleans limit s answer v ↔ cleanAnswer limit s answer = v := by
  constructor
  · intro hv
    -- each rule leaves no choice for a component
    cases hv with
    | fault s fault => rfl
    | button b down => rfl
    | trigger t hw => exact congrArg Value.scalar (hw.eq_cleanComponent h).symm
    | stick s hx hy =>
      exact congrArg₂ Value.vec2 (hx.eq_cleanComponent h).symm (hy.eq_cleanComponent h).symm
  · rintro rfl
    exact cleans_cleanAnswer h s answer

end

/-! ## The whole poll -/

/-- The limit that a poll uses can be one, whatever was set. -/
theorem Settings.isLimit_limit (settings : Settings) : isLimit settings.limit = true := by
  unfold limit
  split
  · assumption
  · rfl

/-- A limit that cannot be used is replaced by one. -/
theorem Settings.limit_eq (settings : Settings) :
    settings.limit =
      if settings.analogLimit.isFinite = true ∧ 0.0 < settings.analogLimit then
        settings.analogLimit
      else 1.0 := by
  simp only [limit, isLimit, Bool.and_eq_true, decide_eq_true_eq]
  rfl

/-- A poll of any pad under any settings.  The limit is the one that is set if that is positive and
    finite, which it is if the settings pass their checks, and 1 otherwise; it is always a number
    with its negation below it.  There is an entry for each signal of the set and no other.  An
    entry has its signal's category, each of its components is finite, within the limit and no
    negative zero, and it is what the rules make of the pad's answer for this signal. -/
theorem Poll.entries_run {σ : Type} [Pad σ] (settings : Settings) (signals : SignalSet)
    (slot : Nat) (pad : σ) :
    let limit := settings.limit
    let snapshot := (run settings signals slot pad).snapshot
    (limit = (if settings.analogLimit.isFinite = true ∧ 0.0 < settings.analogLimit then
        settings.analogLimit else 1.0) ∧
      (settings.validate = .ok () → limit = settings.analogLimit) ∧
      limit.isNaN = false ∧ (-limit).isNaN = false ∧ -limit ≤ limit) ∧
    (∀ s, s ∉ signals → snapshot.reading? s = none) ∧
    ∀ s ∈ signals,
      (∃ v, snapshot.reading? s = some v ∧ v.category = s.category ∧ v.InRange limit) ∧
      ∀ v, snapshot.reading? s = some v ↔ Cleans limit s (answer signals slot pad s) v := by
  intro limit snapshot
  have hlimit : Settings.isLimit limit = true := settings.isLimit_limit
  -- a poll enters one cleaned answer for each signal
  have hentry : ∀ s ∈ signals,
      snapshot.reading? s = some (cleanAnswer limit s (answer signals slot pad s)) := by
    intro s hs
    rw [reading?_run, if_pos hs]
  refine ⟨⟨settings.limit_eq, Settings.limit_eq_of_validate, ?_, ?_, ?_⟩, ?_, ?_⟩
  · exact Number.isNaN_of_isFinite (Number.isFinite_limit hlimit)
  · exact Number.isNaN_of_isFinite (Number.isFinite_neg_limit hlimit)
  · exact Number.neg_limit_le_limit hlimit
  · intro s hs
    rw [reading?_run, if_neg hs]
  · intro s hs
    refine ⟨⟨_, hentry s hs, category_cleanAnswer _ _ _, ?_⟩, fun v => ?_⟩
    · exact (cleans_cleanAnswer hlimit s _).inRange hlimit
    · rw [hentry s hs, Option.some.injEq, cleans_iff hlimit]

/-- A stick with one axis that is no number and one that is out of range, beside a trigger that
    cannot be read. -/
theorem Poll.entries_run_of_faults :
    let settings : Settings := { Settings.default with analogLimit := 0.5 }
    let pad := (FaultyPad.of (SimulatedPad.create 1 .all)).modify fun pad =>
      pad.set 0 (.stick .left) ((0.0 / 0.0, -7.0) : Float32 × Float32)
    let faulty := pad.setReadFault 0 (.trigger .left) (some (.readFailed "unplugged"))
    let entry? := (run settings .all 0 faulty).snapshot.reading?
    settings.validate = .ok () ∧ settings.limit = 0.5 ∧
      (∃ v, entry? (.stick .left) = some v ∧ v.category = .analog2 ∧ v.InRange settings.limit) ∧
      entry? (.stick .left) = some (.vec2 0.0 (-0.5)) ∧
      entry? (.trigger .left) = some (.scalar 0.0) := by
  intro settings pad faulty entry?
  have hvalid : settings.validate = .ok () := by decide +kernel
  have hrun := Poll.entries_run settings .all 0 faulty
  have hlimit : settings.limit = 0.5 := hrun.1.2.1 hvalid
  obtain ⟨v, hv, hcategory, hrange⟩ := (hrun.2.2 (.stick .left) (SignalSet.mem_all _)).1
  exact ⟨hvalid, hlimit, ⟨v, hv, hcategory, hrange⟩, by decide +kernel, by decide +kernel⟩

end InputMap
