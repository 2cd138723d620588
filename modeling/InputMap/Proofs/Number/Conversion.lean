import Mathlib
import InputMap.Number

/-!
# Numbers in documents

A single-precision number is written into a document as the double-precision one of the same value,
and read back by rounding.  Rounding to a format is exact for a value that the format has, whichever
mantissa and exponent it comes with; this is what both directions need, since the wider format keeps
the same value with more digits.

## Key results

- `round_of_canonical_left`, `round_of_canonical_right`: a value that a format has is its own
  rounding
- `unpack_pack_of_normal`: a normal number can be packed and unpacked
- `narrow_widen`: a number in a document is read back as it was
-/

namespace InputMap.Number

open Float.Model Float.Model.UnpackedFloat

variable {format : Format} {s : Sign} {m n k : Nat} {e : Int}

/-- A mantissa and an exponent in the form that a format gives to their value. -/
def Canonical (format : Format) (m : Nat) (e : Int) : Prop :=
  format.targetExponent (totalExponent m e) = e

/-- The exponent of a canonical form is where the first digit puts it, but never below the smallest
    exponent. -/
theorem canonical_iff :
    Canonical format m e ↔
      max ((m.log2 : Int) + 1 + e - format.mantissaBits) format.minExponent = e := Iff.rfl

/-! ## Rounding -/

/-- Zeros behind the mantissa move the place of its first digit by their number. -/
theorem log2_mul_two_pow (hn : 0 < n) (k : Nat) : (n * 2 ^ k).log2 = n.log2 + k := by
  induction k with
  | zero => rw [Nat.pow_zero, Nat.mul_one, Nat.add_zero]
  | succ k ih =>
    have hpos : 0 < n * 2 ^ k := Nat.mul_pos hn (Nat.two_pow_pos k)
    have hdouble : n * 2 ^ (k + 1) = 2 * (n * 2 ^ k) := by ring
    rw [hdouble, Nat.log2_two_mul (by omega), ih, Nat.add_assoc]

/-- Zeros behind the mantissa do not change the place of the first digit. -/
theorem totalExponent_mul_two_pow (hn : 0 < n) (k : Nat) (e : Int) :
    totalExponent (n * 2 ^ k) e = totalExponent n (e + k) := by
  rw [totalExponent, totalExponent, log2_mul_two_pow hn]
  omega

/-- Zeros behind the mantissa are shifted out without a trace. -/
theorem shiftRight_mul_two_pow (n k : Nat) :
    (⟨n * 2 ^ k, false, false⟩ : ExtendedMantissa) >>> k = ⟨n, false, false⟩ := by
  show Nat.repeat ExtendedMantissa.shiftRightOne k ⟨n * 2 ^ k, false, false⟩ = _
  -- on the number of zeros, the last of which is shifted out at the end
  induction k generalizing n with
  | zero => rw [Nat.pow_zero, Nat.mul_one, Nat.repeat]
  | succ k ih =>
    have hsplit : n * 2 ^ (k + 1) = 2 * n * 2 ^ k := by ring
    rw [Nat.repeat, hsplit, ih, ExtendedMantissa.shiftRightOne]
    simp

/-- Zeros behind a canonical mantissa are shifted out, and nothing is lost with them. -/
theorem shiftToTargetExponent_of_canonical (hn : 0 < n) (h : Canonical format n (e + k)) :
    shiftToTargetExponent format (n * 2 ^ k) e .exact = (⟨n, false, false⟩, e + k) := by
  have hamount : (e + (k : Int) - e).toNat = k := by omega
  rw [shiftToTargetExponent, totalExponent_mul_two_pow hn, h, shiftToExponent, hamount,
    ExtendedMantissa.ofMantissaAndAccuracy]
  exact congrArg (·, e + (k : Int)) (shiftRight_mul_two_pow n k)

/-- Rounding only shifts a value that the format has. -/
theorem roundWithAccuracy_of_canonical (hn : 0 < n) (h : Canonical format n (e + k)) :
    roundWithAccuracy format s (n * 2 ^ k) e .exact = .finite s n (e + k) hn := by
  have hagain : shiftToTargetExponent format n (e + k) .exact = (⟨n, false, false⟩, e + k) := by
    have h₀ := shiftToTargetExponent_of_canonical (e := e + k) (k := 0) hn (by simpa using h)
    simpa using h₀
  simp only [roundWithAccuracy, shiftToTargetExponent_of_canonical hn h,
    ExtendedMantissa.roundedMantissa, ExtendedMantissa.accuracy, Accuracy.roundToNearestEven,
    hagain]
  rw [dif_neg (by omega)]

/-- A value that comes with zeros behind its mantissa. -/
theorem round_of_canonical_right (hn : 0 < n) (h : Canonical format n (e + k)) :
    UnpackedFloat.round format s (n * 2 ^ k) e = .finite s n (e + k) hn := by
  have hamount : (e - (e + (k : Int))).toNat = 0 := by omega
  rw [UnpackedFloat.round, totalExponent_mul_two_pow hn, h, decreaseExponent, hamount]
  simpa using roundWithAccuracy_of_canonical (s := s) hn h

/-- A value that gets zeros behind its mantissa. -/
theorem round_of_canonical_left (hn : 0 < n) (h : Canonical format (n * 2 ^ k) (e - k)) :
    UnpackedFloat.round format s n e =
      .finite s (n * 2 ^ k) (e - k) (Nat.mul_pos hn (Nat.two_pow_pos k)) := by
  have hpos : 0 < n * 2 ^ k := Nat.mul_pos hn (Nat.two_pow_pos k)
  have htotal : totalExponent n e = totalExponent (n * 2 ^ k) (e - k) := by
    rw [totalExponent_mul_two_pow hn, Int.sub_add_cancel]
  have hamount : (e - (e - (k : Int))).toNat = k := by omega
  have hround := roundWithAccuracy_of_canonical (s := s) (k := 0) hpos (by simpa using h)
  rw [UnpackedFloat.round, htotal, h, decreaseExponent, hamount, Nat.shiftLeft_eq]
  simpa using hround

/-! ## Packing -/

/-- An infinity can be packed and unpacked. -/
theorem unpack_packedInfinity (format : Format) (s : Sign) :
    UnpackedFloat.unpack format (packedInfinity format s) = .infinity s := by
  simp [UnpackedFloat.unpack, packedInfinity]

/-- The first digit of a normal number is not kept in its bits. -/
theorem toNat_one_append (v : BitVec n) : ((1#1 : BitVec 1) ++ v).toNat = 2 ^ n + v.toNat := by
  have hor := Nat.two_pow_add_eq_or_of_lt v.isLt 1
  rw [Nat.mul_one] at hor
  rw [BitVec.toNat_append, BitVec.toNat_ofNat, Nat.one_mod_two_pow (by omega), Nat.one_shiftLeft,
    ← hor]

/-- A normal number whose exponent fits can be packed and unpacked. -/
theorem unpack_pack_of_normal (hm : 0 < m) (hlog : m.log2 = format.mantissaBitsWithoutImplicit)
    (hlow : 0 < e + format.exponentBias + format.mantissaBitsWithoutImplicit)
    (hhigh : e + format.exponentBias + format.mantissaBitsWithoutImplicit + 1 <
      2 ^ format.exponentBits) :
    UnpackedFloat.unpack format (UnpackedFloat.pack format (.finite s m e hm)) =
      .finite s m e hm := by
  obtain ⟨biased, hbiased⟩ := Int.eq_ofNat_of_zero_le (Int.le_of_lt hlow)
  have hpos : 0 < biased := by omega
  have hlt : biased + 1 < 2 ^ format.exponentBits := by
    rw [hbiased] at hhigh
    exact_mod_cast hhigh
  have hbits : m.log2 + 1 = format.mantissaBits := by
    rw [hlog, Format.mantissaBits, Nat.add_comm]
  have hpack : UnpackedFloat.pack format (.finite s m e hm) =
      packComponents format s (BitVec.ofNat _ biased) (BitVec.ofNat _ m) := by
    simp only [UnpackedFloat.pack, hbiased, Int.toNat_natCast]
    rw [if_neg (by omega), if_pos hbits]
  -- the exponent is neither that of the infinities nor that of the subnormal numbers
  have hnat : (BitVec.ofNat format.exponentBits biased).toNat = biased := by
    rw [BitVec.toNat_ofNat, Nat.mod_eq_of_lt (by omega)]
  have htop : BitVec.ofNat format.exponentBits biased ≠ -1#_ := by
    intro heq
    have hall := congrArg BitVec.toNat heq
    rw [hnat, BitVec.neg_one_eq_allOnes, BitVec.toNat_allOnes] at hall
    omega
  have hbottom : BitVec.ofNat format.exponentBits biased ≠ 0#_ := by
    intro heq
    have hzero := congrArg BitVec.toNat heq
    rw [hnat, BitVec.toNat_ofNat, Nat.zero_mod] at hzero
    omega
  -- the first digit is not stored but put back in front of the others
  have hmantissa : ((1#1 : BitVec 1) ++ BitVec.ofNat format.mantissaBitsWithoutImplicit m).toNat =
      m := by
    obtain ⟨hfirst, hlast⟩ := (Nat.log2_eq_iff (by omega)).1 hlog
    rw [toNat_one_append, BitVec.toNat_ofNat, Nat.mod_eq_sub_mod hfirst,
      Nat.mod_eq_of_lt (by omega)]
    omega
  rw [hpack]
  simp only [UnpackedFloat.unpack, unpackExponent_packComponents, unpackMantissa_packComponents,
    unpackSign_packComponents, if_neg htop, if_neg hbottom, Sign.ofBitVec_toBitVec, hnat,
    hmantissa, finite.injEq, true_and]
  omega

/-! ## Conversion -/

/-- The finite numbers of single precision: at most 24 digits, and an exponent of the format. -/
theorem canonical_of_unpack {bits : BitVec Format.binary32.numBits} {hm : 0 < m}
    (h : UnpackedFloat.unpack .binary32 bits = .finite s m e hm) :
    Canonical .binary32 m e ∧ m.log2 ≤ 23 ∧ -149 ≤ e ∧ e ≤ 104 := by
  have hdigits : (Format.binary32.mantissaBits : Int) = 24 := by decide
  have hmin : Format.binary32.minExponent = -149 := by decide
  have hbias : (Format.binary32.exponentBias : Int) = 127 := by decide
  rw [canonical_iff, hdigits, hmin]
  have hexponent : (unpackExponent bits).toNat < 256 := (unpackExponent bits).isLt
  have hmantissa : (unpackMantissa bits).toNat < 2 ^ 23 := (unpackMantissa bits).isLt
  simp only [UnpackedFloat.unpack, hbias] at h
  split at h
  · split at h <;> exact nomatch h
  · rename_i htop
    have hne : (unpackExponent bits).toNat ≠ 255 := by
      intro heq
      exact htop (BitVec.eq_of_toNat_eq heq)
    split at h
    · rename_i hzero
      split at h
      · exact nomatch h
      · -- subnormal numbers have fewer digits, and the smallest exponent
        rw [hzero] at h
        simp only [finite.injEq] at h
        obtain ⟨-, rfl, rfl⟩ := h
        have hlog : (unpackMantissa bits).toNat.log2 < 23 := (Nat.log2_lt (by omega)).2 hmantissa
        simp
        omega
    · rename_i hzero
      have hpos : (unpackExponent bits).toNat ≠ 0 := by
        intro heq
        exact hzero (BitVec.eq_of_toNat_eq heq)
      -- normal numbers have all digits, the first of which is left out in the bits
      simp only [finite.injEq] at h
      obtain ⟨-, rfl, rfl⟩ := h
      have hlog : ((1#1 : BitVec 1) ++ unpackMantissa bits).toNat.log2 = 23 := by
        rw [Nat.log2_eq_iff (by omega), toNat_one_append]
        show 2 ^ 23 ≤ 2 ^ 23 + _ ∧ 2 ^ 23 + _ < 2 ^ 24
        omega
      rw [hlog]
      omega

/-- Rounding a single-precision number to double precision, and back. -/
theorem round_round (h : Canonical .binary32 m e) (hlog : m.log2 ≤ 23) (hlow : -149 ≤ e)
    (hhigh : e ≤ 104) (hm : 0 < m) :
    ∃ n f, ∃ hn : 0 < n, UnpackedFloat.round .binary64 s m e = .finite s n f hn ∧
      UnpackedFloat.unpack .binary64 (UnpackedFloat.pack .binary64 (.finite s n f hn)) =
        .finite s n f hn ∧
      UnpackedFloat.round .binary32 s n f = .finite s m e hm := by
  -- the wide form has `k` more digits, so many that its first digit is the one of a normal number
  obtain ⟨k, hk⟩ := Nat.exists_eq_add_of_le (show m.log2 ≤ 52 by omega)
  have hlog' : (m * 2 ^ k).log2 = 52 := by rw [log2_mul_two_pow hm, ← hk]
  have hwide : Canonical .binary64 (m * 2 ^ k) (e - k) := by
    have hdigits : (Format.binary64.mantissaBits : Int) = 53 := by decide
    have hmin : Format.binary64.minExponent = -1074 := by decide
    rw [canonical_iff, hlog', hdigits, hmin]
    omega
  have hbias : (Format.binary64.exponentBias : Int) = 1023 := by decide
  have hback : e - (k : Int) + k = e := by omega
  refine ⟨m * 2 ^ k, e - k, Nat.mul_pos hm (Nat.two_pow_pos k), round_of_canonical_left hm hwide,
    unpack_pack_of_normal _ hlog' ?_ ?_, ?_⟩
  · rw [hbias]
    show 0 < e - k + 1023 + 52
    omega
  · rw [hbias]
    show e - k + 1023 + 52 + 1 < 2 ^ 11
    omega
  · have hnarrow := round_of_canonical_right (s := s) hm (k := k) (e := e - k) (by rwa [hback])
    simpa only [hback] using hnarrow

/-- The exact value of a number in a document, rounded, is that of the number. -/
theorem round_unpack_widen (x : Float32) :
    round .binary32 (widen x).toModel.unpack = x.toModel.unpack := by
  show round .binary32 (UnpackedFloat.unpack .binary64 (UnpackedFloat.pack .binary64
    (round .binary64 x.toModel.unpack))) = _
  cases hx : x.toModel.unpack with
  -- the special values are in both formats
  | notANumber => exact congrArg (round .binary32) unpack_packedNaN
  | infinity s => exact congrArg (round .binary32) (unpack_packedInfinity .binary64 s)
  | zero s => exact congrArg (round .binary32) unpack_packedZero
  | finite s m e hm =>
    obtain ⟨hcanonical, hlog, hlow, hhigh⟩ := canonical_of_unpack hx
    obtain ⟨n, f, hn, hwide, hpacked, hnarrow⟩ := round_round (s := s) hcanonical hlog hlow hhigh hm
    rw [round, hwide, hpacked, round, hnarrow]

/-- A number in a document is read back as it was, whatever it is. -/
theorem narrow_widen (x : Float32) : narrow (widen x) = x := by
  have hbits : UnpackedFloat.pack .binary32 x.toModel.unpack = x.toModel.toBits.toBitVec :=
    pack_unpack_of_valid x.toModel.valid
  rw [narrow, round_unpack_widen, ← Float32.toBits_inj]
  exact UInt32.toBitVec_inj.1 hbits

end InputMap.Number
