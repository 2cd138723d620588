/-! # Decimal numbers and their text

A `Decimal` is a coefficient times a power of ten.  It is what stands between a binary number and
its text: `Decimal.shortest` and `Decimal.fixed` choose one, `positional` and `scientific` spell it
out. -/

namespace InputMap

/-- The number `coefficient · 10 ^ exponent`. -/
structure Decimal where
  coefficient : Nat
  exponent : Int
deriving DecidableEq, Repr

namespace Decimal

/-- The digits of the coefficient, the leading one first; zero has the one digit `0`. -/
def digits (d : Decimal) : List Char := Nat.toDigits 10 d.coefficient

/-- The power of ten of the leading digit. -/
def leadingExponent (d : Decimal) : Int := d.exponent + d.digits.length - 1

/-- The digits of the coefficient with zeros in front, so that more than `n` digits stand there. -/
def padded (d : Decimal) (n : Nat) : List Char :=
  List.replicate (n + 1 - d.digits.length) '0' ++ d.digits

/-- The number written out in full: no exponent, at least one digit before the point, and as many
    places as a negative exponent asks for. -/
def positional (d : Decimal) : String :=
  match d.exponent with
  | .ofNat k => String.ofList (d.digits ++ List.replicate k '0')
  | .negSucc k =>
    let digits := d.padded (k + 1)
    let whole := digits.length - (k + 1)
    String.ofList (digits.take whole ++ '.' :: digits.drop whole)

/-- The number with one digit before the point and a power of ten behind it. -/
def scientific (d : Decimal) : String :=
  let mantissa := match d.digits with
    | [] => []
    | [c] => [c]
    | c :: rest => c :: '.' :: rest
  String.ofList mantissa ++ "e" ++ toString d.leadingExponent

theorem lt_length_padded (d : Decimal) (n : Nat) : n < (d.padded n).length := by
  simp only [padded, List.length_append, List.length_replicate]
  omega

example : (Decimal.mk 75 (-2)).positional = "0.75" := by decide +kernel
example : (Decimal.mk 5 2).positional = "500" := by decide +kernel
example : (Decimal.mk 0 (-3)).positional = "0.000" := by decide +kernel
example : (Decimal.mk 125 (-7)).scientific = "1.25e-5" := by decide +kernel

end Decimal

end InputMap
