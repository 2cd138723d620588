import InputMap.Decimal.Fixed
import InputMap.Decimal.Shortest

/-! # Machine numbers: conversions and text

Readings and values are single-precision numbers (`Float32`); files hold double-precision ones
(`Float`).  This module moves numbers between the two and writes them as text.  Every conversion
goes through the exact value that core keeps for a machine number, and rounds at most once, to the
nearest and to even. -/

namespace InputMap.Number

open Float.Model (Format UnpackedFloat)

/-- An exact value rounded to the precision of `format`. -/
def round (format : Format) : UnpackedFloat → UnpackedFloat
  | .finite sign mantissa exponent _ => UnpackedFloat.round format sign mantissa exponent
  | x => x

/-- The double-precision number with the value of a single-precision one. -/
def widen (x : Float32) : Float := .ofModel (.pack (round .binary64 x.toModel.unpack))

/-- The single-precision number nearest to a double-precision one; beyond the largest it is
    infinite. -/
def narrow (x : Float) : Float32 := .ofModel (.pack (round .binary32 x.toModel.unpack))

/-- The single-precision number nearest to a whole number. -/
def ofInt (n : Int) : Float32 := .ofModel (.ofInt n)

/-- The double-precision number nearest to `± coefficient · 10 ^ exponent`; beyond the largest it
    is infinite. -/
def ofDecimal (negative : Bool) (coefficient : Nat) (exponent : Int) : Float :=
  let x := UnpackedFloat.ofScientific .binary64 coefficient exponent
  .ofModel (.pack (if negative then x.neg else x))

/-- How a number is written. -/
structure Style where
  /-- The text of something that is not a number. -/
  nan : String
  /-- Whether a whole number ends in `.0`. -/
  pointZero : Bool
  /-- Whether the number is written with a power of ten. -/
  scientific : Decimal → Bool

/-- Messages: digits only, however long. -/
def Style.plain : Style := ⟨"NaN", false, fun _ => false⟩

/-- Numbers that are told apart from whole numbers by their point. -/
def Style.pointed : Style := ⟨"NaN", true, fun _ => false⟩

/-- Files: as `pointed`, with the file format's own word for not-a-number. -/
def Style.file : Style := ⟨"nan", true, fun _ => false⟩

/-- Reports of a final state: powers of ten from `10 ^ 16` upwards and below `10 ^ -4`. -/
def Style.report : Style :=
  ⟨"NaN", true, fun d => 16 ≤ d.leadingExponent || d.leadingExponent < -4⟩

/-- The text of a positive number or zero in a style. -/
def Style.write (style : Style) (d : Decimal) : String :=
  if style.scientific d then d.scientific
  else if style.pointZero && 0 ≤ d.exponent then d.positional ++ ".0"
  else d.positional

/-- The sign in front of a number's text; a negative zero keeps it. -/
def signText : UnpackedFloat.Sign → String
  | .positive => ""
  | .negative => "-"

/-- An exact value of `format` by its shortest decimal. -/
def writeShortest (style : Style) (format : Format) : UnpackedFloat → String
  | .notANumber => style.nan
  | .infinity sign => signText sign ++ "inf"
  | .zero sign => signText sign ++ (if style.pointZero then "0.0" else "0")
  | .finite sign mantissa exponent _ =>
    signText sign ++ style.write (Decimal.shortest format mantissa exponent)

/-- A single-precision number by the fewest digits that read back. -/
def shortText (style : Style) (x : Float32) : String :=
  writeShortest style .binary32 x.toModel.unpack

/-- A double-precision number by the fewest digits that read back. -/
def longText (style : Style) (x : Float) : String :=
  writeShortest style .binary64 x.toModel.unpack

/-- A single-precision number rounded to `places` decimal places. -/
def fixedText (places : Nat) (x : Float32) : String :=
  match x.toModel.unpack with
  | .notANumber => "NaN"
  | .infinity sign => signText sign ++ "inf"
  | .zero sign => signText sign ++ (Decimal.mk 0 (-places)).positional
  | .finite sign mantissa exponent _ =>
    signText sign ++ (Decimal.fixed mantissa exponent places).positional

example : shortText .plain 1.5 = "1.5" := by decide +kernel
example : shortText .plain (-0.0) = "-0" := by decide +kernel
example : longText .file (widen 0.1) = "0.10000000149011612" := by decide +kernel
example : shortText .report 1e-5 = "1e-5" := by decide +kernel
example : fixedText 3 (-0.0) = "-0.000" := by decide +kernel
example : (narrow (ofDecimal false 1 39)).isInf = true := by decide +kernel

end InputMap.Number
