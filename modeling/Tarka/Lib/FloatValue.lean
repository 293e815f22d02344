import Tarka.Lib.Float64

/-! # The number a double denotes

A finite double is a whole multiple of `2 ^ -1074`, so it is counted in that unit (`F64.scaled`) and
its parts are those of integer division: `trunc`, `fract` and the saturating conversion to 64-bit
integers. `scaled_ofNat_eq_iff` says which integers are doubles: those whose binary digits below
the first 53 are zeros. -/

namespace Tarka.Lib.F64

open Nat

/-- Doubles are counted in units of `2 ^ -1074`. -/
def unit : Nat := 2 ^ 1074

theorem unit_pos : 0 < unit := by
  unfold unit
  positivity

/-- A magnitude is a significand and an exponent, or a subnormal significand. -/
def scaledMagnitude (m : Nat) : Nat :=
  if m / 2 ^ 52 = 0 then m else (m % 2 ^ 52 + 2 ^ 52) * 2 ^ (m / 2 ^ 52 - 1)

def scaled (x : F64) : Int :=
  if x.isNegative then -(scaledMagnitude x.magnitude : Int) else scaledMagnitude x.magnitude

def toRat (x : F64) : ℚ := x.scaled / unit

def trunc (x : F64) : Int := x.scaled.tdiv unit

/-- `fract` of a finite double, in units. -/
def fract (x : F64) : Int := x.scaled.tmod unit

/-- `as i64`: towards zero, saturating, and zero for a NaN. -/
def toI64 (x : F64) : Int :=
  if x.isNaN then 0
  else if x.isFinite then max (-2 ^ 63) (min (2 ^ 63 - 1) x.trunc)
  else if x.isNegative then -2 ^ 63
  else 2 ^ 63 - 1

variable {x : F64}

theorem toRat_eq_intCast {z : Int} : x.toRat = z ↔ x.scaled = z * unit := by
  have hunit : (unit : ℚ) ≠ 0 := by
    exact_mod_cast unit_pos.ne'
  rw [toRat, div_eq_iff hunit]
  exact_mod_cast Iff.rfl

theorem toI64_bounds (x : F64) : -2 ^ 63 ≤ x.toI64 ∧ x.toI64 < 2 ^ 63 := by
  unfold toI64
  split_ifs <;> omega

/-- **When the conversion to `i64` is exact**: nothing is cut off and nothing saturates. -/
theorem scaled_eq_toI64_iff (hfinite : x.isFinite) (hbound : x.scaled.natAbs ≤ 2 ^ 63 * unit) :
    x.scaled = x.toI64 * unit ↔ x.fract = 0 ∧ x.scaled < 2 ^ 63 * unit := by
  have hnan : x.isNaN = false := by
    simp only [isFinite, isNaN, decide_eq_true_eq, decide_eq_false_iff_not] at hfinite ⊢
    omega
  have hclamp : x.toI64 = max (-2 ^ 63) (min (2 ^ 63 - 1) x.trunc) := by
    rw [toI64, hnan, hfinite]
    rfl
  have hpos : (0 : Int) < unit := by exact_mod_cast unit_pos
  have hsplit : (unit : Int) * x.trunc + x.fract = x.scaled := Int.mul_tdiv_add_tmod _ _
  constructor
  · intro h
    constructor
    · rw [fract, h, Int.mul_tmod_left]
    · rw [h]
      exact Int.mul_lt_mul_of_pos_right (toI64_bounds x).2 hpos
  · rintro ⟨hfract, hlt⟩
    rw [hfract, Int.add_zero] at hsplit
    -- the integer part lies in the range of `i64`
    have hhigh : x.trunc < 2 ^ 63 := by
      apply Int.lt_of_mul_lt_mul_left _ hpos.le
      rw [hsplit, Int.mul_comm]
      exact hlt
    have hlow : -2 ^ 63 ≤ x.trunc := by
      apply Int.le_of_mul_le_mul_left _ hpos
      omega
    have hsame : x.toI64 = x.trunc := by
      omega
    rw [hsame, ← hsplit, Int.mul_comm]

/-! ## Integers that are doubles -/

def significand (n : Nat) : Nat :=
  if Nat.log2 n ≤ 52 then n * 2 ^ (52 - Nat.log2 n)
  else
    if 2 ^ (Nat.log2 n - 53) < n % 2 ^ (Nat.log2 n - 52)
        ∨ (n % 2 ^ (Nat.log2 n - 52) = 2 ^ (Nat.log2 n - 53)
          ∧ n / 2 ^ (Nat.log2 n - 52) % 2 = 1) then
      n / 2 ^ (Nat.log2 n - 52) + 1
    else n / 2 ^ (Nat.log2 n - 52)

variable {n : Nat}

theorem ofNat_eq (hn : n ≠ 0) :
    ofNat n = ⟨UInt64.ofNat ((log2 n + 1022) * 2 ^ 52 + significand n)⟩ := by
  rw [ofNat, if_neg hn]
  rfl

theorem quotient_bounds (hn : n ≠ 0) (h : 52 < log2 n) :
    2 ^ 52 ≤ n / 2 ^ (log2 n - 52) ∧ n / 2 ^ (log2 n - 52) < 2 ^ 53 := by
  have hpos : 0 < 2 ^ (log2 n - 52) := Nat.two_pow_pos _
  constructor
  · rw [le_div_iff_mul_le hpos, ← Nat.pow_add, show 52 + (log2 n - 52) = log2 n by omega]
    exact log2_self_le hn
  · rw [div_lt_iff_lt_mul hpos, ← Nat.pow_add,
      show 53 + (log2 n - 52) = log2 n + 1 by omega]
    exact lt_log2_self

theorem significand_bounds (hn : n ≠ 0) : 2 ^ 52 ≤ significand n ∧ significand n ≤ 2 ^ 53 := by
  unfold significand
  by_cases hshort : log2 n ≤ 52
  · rw [if_pos hshort]
    have hlow := log2_self_le hn
    have hhigh : n < 2 ^ (log2 n + 1) := lt_log2_self
    constructor
    · calc 2 ^ 52 = 2 ^ log2 n * 2 ^ (52 - log2 n) := by
            rw [← Nat.pow_add, Nat.add_sub_cancel' hshort]
        _ ≤ n * 2 ^ (52 - log2 n) := mul_le_mul_right _ hlow
    · calc n * 2 ^ (52 - log2 n) ≤ 2 ^ (log2 n + 1) * 2 ^ (52 - log2 n) :=
            mul_le_mul_right _ hhigh.le
        _ = 2 ^ 53 := by
            rw [← Nat.pow_add]
            congr 1
            omega
  · have hq := quotient_bounds hn (by omega)
    split_ifs <;> omega

theorem scaledMagnitude_normal {e m : Nat} (hlow : 2 ^ 52 ≤ m) (hhigh : m ≤ 2 ^ 53) :
    scaledMagnitude ((e + 1022) * 2 ^ 52 + m) = m * 2 ^ (e + 1022) := by
  unfold scaledMagnitude
  rcases lt_or_eq_of_le hhigh with hlt | rfl
  · have hdiv : ((e + 1022) * 2 ^ 52 + m) / 2 ^ 52 = e + 1023 := by omega
    have hmod : ((e + 1022) * 2 ^ 52 + m) % 2 ^ 52 = m - 2 ^ 52 := by omega
    rw [hdiv, hmod, Nat.sub_add_cancel hlow]
    rfl
  · -- the carry into the exponent
    have hdiv : ((e + 1022) * 2 ^ 52 + 2 ^ 53) / 2 ^ 52 = e + 1024 := by omega
    have hmod : ((e + 1022) * 2 ^ 52 + 2 ^ 53) % 2 ^ 52 = 0 := by omega
    have hpow : 2 ^ (e + 1024 - 1) = 2 ^ (e + 1022) * 2 := by
      rw [show e + 1024 - 1 = e + 1022 + 1 by omega, pow_succ]
    have hdouble : ∀ p : Nat, (0 + 2 ^ 52) * (p * 2) = 2 ^ 53 * p := by
      intro p
      omega
    rw [hdiv, hmod, if_neg (by omega), hpow, hdouble]

theorem bits_ofNat (hn : n ≠ 0) (hlt : n < 2 ^ 64) :
    (ofNat n).bits.toNat = (log2 n + 1022) * 2 ^ 52 + significand n
      ∧ (ofNat n).bits.toNat < 2 ^ 63 := by
  have hlog : log2 n < 64 := (log2_lt hn).mpr hlt
  have hm := significand_bounds hn
  have hbits : (log2 n + 1022) * 2 ^ 52 + significand n < 2 ^ 63 := by omega
  rw [ofNat_eq hn, UInt64.toNat_ofNat_of_lt' (lt_trans hbits (by decide))]
  exact ⟨rfl, hbits⟩

theorem scaled_ofNat (hn : n ≠ 0) (hlt : n < 2 ^ 64) :
    (ofNat n).scaled = (significand n * 2 ^ (log2 n + 1022) : Nat) := by
  obtain ⟨hbits, hsign⟩ := bits_ofNat hn hlt
  have hm := significand_bounds hn
  have hneg : (ofNat n).isNegative = false := by
    rw [isNegative, decide_eq_false_iff_not]
    omega
  have hmag : (ofNat n).magnitude = (log2 n + 1022) * 2 ^ 52 + significand n := by
    rw [magnitude, mod_eq_of_lt hsign, hbits]
  rw [scaled, hneg, hmag, scaledMagnitude_normal hm.1 hm.2]
  rfl

theorem significand_exact_iff :
    significand n * 2 ^ log2 n = n * 2 ^ 52 ↔ n % 2 ^ (log2 n - 52) = 0 := by
  unfold significand
  by_cases hshort : log2 n ≤ 52
  · rw [if_pos hshort, Nat.sub_eq_zero_of_le hshort, pow_zero, mod_one, mul_assoc,
      ← Nat.pow_add, Nat.sub_add_cancel hshort]
    simp
  · rw [if_neg hshort]
    -- with the quotient `q` and the remainder `r`, the integer is `q * w + r`
    set w := 2 ^ (log2 n - 52) with hw
    have hsplit := div_add_mod n w
    have hr : n % w < w := mod_lt _ (Nat.two_pow_pos _)
    have hpow : 2 ^ log2 n = w * 2 ^ 52 := by
      rw [← Nat.pow_add, Nat.sub_add_cancel (by omega)]
    have hcancel : ∀ a b : Nat, a * (w * 2 ^ 52) = b * 2 ^ 52 ↔ a * w = b := by
      intro a b
      rw [← mul_assoc]
      exact Nat.mul_left_inj (by decide)
    rw [hpow, hcancel]
    have hhalf : 0 < 2 ^ (log2 n - 53) := Nat.two_pow_pos _
    split_ifs with hup
    · -- rounding up is never exact: the remainder is smaller than the unit
      have hsum : (n / w + 1) * w = w * (n / w) + w := by ring
      omega
    · rw [mul_comm (n / w) w]
      omega

/-- **The integers that are doubles.** -/
theorem scaled_ofNat_eq_iff (hlt : n < 2 ^ 64) :
    (ofNat n).scaled = (n * unit : Nat) ↔ n % 2 ^ (log2 n - 52) = 0 := by
  by_cases hn : n = 0
  · subst hn
    simp [ofNat, scaled, scaledMagnitude, isNegative, magnitude]
  · rw [scaled_ofNat hn hlt, ← significand_exact_iff, Int.ofNat_inj]
    have hunit : unit = 2 ^ 52 * 2 ^ 1022 := by
      rw [unit, ← Nat.pow_add]
    have hpos : (2 ^ 1022 : Nat) ≠ 0 := pow_ne_zero _ two_ne_zero
    rw [hunit, Nat.pow_add, ← mul_assoc, ← mul_assoc]
    exact Nat.mul_left_inj hpos

theorem bits_neg (h : x.bits.toNat < 2 ^ 63) : x.neg.bits.toNat = 2 ^ 63 + x.bits.toNat := by
  have hor : x.bits.toNat ^^^ 2 ^ 63 = 2 ^ 63 + x.bits.toNat := by
    have hadd := two_pow_add_eq_or_of_lt h 1
    rw [mul_one] at hadd
    rw [hadd]
    apply eq_of_testBit_eq
    intro i
    rw [testBit_xor, testBit_or, testBit_two_pow]
    by_cases hi : 63 = i
    · subst hi
      rw [testBit_lt_two_pow h]
      simp
    · simp [hi]
  exact hor

theorem scaled_neg (h : x.bits.toNat < 2 ^ 63) : x.neg.scaled = -x.scaled := by
  have hbits := bits_neg h
  have hneg : x.neg.isNegative ∧ x.isNegative = false := by
    simp only [isNegative, decide_eq_true_eq, decide_eq_false_iff_not]
    omega
  have hmag : x.neg.magnitude = x.magnitude := by
    simp only [magnitude, hbits]
    omega
  rw [scaled, scaled, hneg.1, hneg.2, hmag]
  rfl

theorem isFinite_ofNat (hlt : n < 2 ^ 64) : (ofNat n).isFinite = true := by
  rw [isFinite, decide_eq_true_eq]
  by_cases hn : n = 0
  · subst hn
    decide
  · obtain ⟨hbits, hsign⟩ := bits_ofNat hn hlt
    have hlog : log2 n < 64 := (log2_lt hn).mpr hlt
    have hm := significand_bounds hn
    rw [magnitude, infMagnitude]
    omega

theorem isFinite_neg (h : x.bits.toNat < 2 ^ 63) : x.neg.isFinite = x.isFinite := by
  have hmag : x.neg.magnitude = x.magnitude := by
    simp only [magnitude, bits_neg h]
    omega
  rw [isFinite, isFinite, hmag]

variable {k : Nat}

theorem isFinite_ofInt_negSucc (hlt : k < 2 ^ 63) : (ofInt (Int.negSucc k)).isFinite = true := by
  have hsucc : k + 1 < 2 ^ 64 := by omega
  rw [ofInt, isFinite_neg (bits_ofNat (succ_ne_zero k) hsucc).2]
  exact isFinite_ofNat hsucc

theorem scaled_ofInt_negSucc_eq_iff (hlt : k < 2 ^ 63) :
    (ofInt (Int.negSucc k)).scaled = Int.negSucc k * unit
      ↔ (k + 1) % 2 ^ (log2 (k + 1) - 52) = 0 := by
  have hsucc : k + 1 < 2 ^ 64 := by omega
  rw [ofInt, scaled_neg (bits_ofNat (succ_ne_zero k) hsucc).2, ← scaled_ofNat_eq_iff hsucc,
    Int.negSucc_eq, Int.neg_mul, neg_inj]
  rfl

/-! ## Integers that equal one -/

theorem key_ofNat (hn : n ≠ 0) (hlt : n < 2 ^ 64) :
    (ofNat n).key = ((log2 n + 1022) * 2 ^ 52 + significand n : Nat) := by
  obtain ⟨hbits, hsign⟩ := bits_ofNat hn hlt
  have hneg : (ofNat n).isNegative = false := by
    rw [isNegative, decide_eq_false_iff_not]
    omega
  rw [key, hneg, magnitude, mod_eq_of_lt hsign, hbits]
  rfl

theorem ofNat_eq_one_iff (hlt : n < 2 ^ 64) : (ofNat n).eq (ofNat 1) ↔ n = 1 := by
  constructor
  · intro h
    have hkey := key_eq_of_eq h
    have hone : (ofNat 1).key = (1023 * 2 ^ 52 : Nat) := by decide
    rw [hone] at hkey
    by_cases hzero : n = 0
    · rw [hzero] at hkey
      exact absurd hkey (by decide)
    · have hm := significand_bounds hzero
      rw [key_ofNat hzero hlt] at hkey
      -- the exponent of a larger integer alone exceeds that of one
      have hlog : log2 n < 1 := by omega
      have hlt2 := (log2_lt hzero).mp hlog
      omega
  · rintro rfl
    exact eq_self (by decide)

theorem negSucc_ne_one (hlt : k < 2 ^ 63) : (ofInt (Int.negSucc k)).eq (ofNat 1) = false := by
  rw [Bool.eq_false_iff]
  intro h
  have hkey := key_eq_of_eq h
  have hone : (ofNat 1).key = (1023 * 2 ^ 52 : Nat) := by decide
  have hbits := bits_neg (bits_ofNat (succ_ne_zero k) (by omega)).2
  have hneg : (ofInt (Int.negSucc k)).isNegative := by
    rw [ofInt, isNegative, decide_eq_true_eq, hbits]
    omega
  rw [key, hneg] at hkey
  simp only [if_true] at hkey
  omega

end Tarka.Lib.F64
