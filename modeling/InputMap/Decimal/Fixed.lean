import InputMap.Decimal

/-! # A fixed number of decimal places

Numbers in messages are rounded to a few places.  The rule is "to the nearest, and a half to the
even neighbour", applied to the exact binary value: `roundDiv` is that rule on a quotient of two
natural numbers.

* `roundDiv_le`, `le_roundDiv`   the result is within half a unit of the quotient
* `roundDiv_mul`                 a whole quotient stays as it is -/

namespace InputMap

/-- The natural number nearest to `num / den`; of two equally near ones the even one. -/
def roundDiv (num den : Nat) : Nat :=
  let q := num / den
  let twice := 2 * (num % den)
  if twice < den then q
  else if den < twice then q + 1
  else q + q % 2

theorem roundDiv_mul (q : Nat) {den : Nat} (h : 0 < den) : roundDiv (q * den) den = q := by
  simp [roundDiv, Nat.mul_div_cancel _ h, h]

/-- Rounding goes to the quotient or to its successor, the latter only from the half upwards. -/
private theorem roundDiv_eq (num den : Nat) :
    (roundDiv num den = num / den ∧ 2 * (num % den) ≤ den) ∨
      (roundDiv num den = num / den + 1 ∧ den ≤ 2 * (num % den)) := by
  simp only [roundDiv]
  split
  · left; omega
  · split
    · right; omega
    · rcases Nat.mod_two_eq_zero_or_one (num / den) with h | h <;> rw [h]
      · left; omega
      · right; omega

theorem roundDiv_le (num : Nat) {den : Nat} (h : 0 < den) :
    2 * (roundDiv num den * den) ≤ 2 * num + den := by
  have key := Nat.div_add_mod' num den
  have hlt := Nat.mod_lt num h
  rcases roundDiv_eq num den with ⟨heq, hle⟩ | ⟨heq, hle⟩ <;> rw [heq]
  · omega
  · rw [Nat.add_mul]; omega

theorem le_roundDiv (num : Nat) {den : Nat} (h : 0 < den) :
    2 * num ≤ 2 * (roundDiv num den * den) + den := by
  have key := Nat.div_add_mod' num den
  have hlt := Nat.mod_lt num h
  rcases roundDiv_eq num den with ⟨heq, hle⟩ | ⟨heq, hle⟩ <;> rw [heq]
  · omega
  · rw [Nat.add_mul]; omega

namespace Decimal

/-- The value `mantissa · 2 ^ exponent` rounded to `places` decimal places. -/
def fixed (mantissa : Nat) (exponent : Int) (places : Nat) : Decimal :=
  let scaled := mantissa * Nat.pow 10 places
  ⟨match exponent with
    | .ofNat k => scaled * Nat.pow 2 k
    | .negSucc k => roundDiv scaled (Nat.pow 2 (k + 1)), -places⟩

example : (fixed 1 (-4) 3).positional = "0.062" := by decide +kernel
example : (fixed 3 (-4) 3).positional = "0.188" := by decide +kernel
example : (fixed 5 1 2).positional = "10.00" := by decide +kernel

end Decimal

end InputMap
