import Tarka.Lib.FloatValue

/-! # Quotients and differences of doubles

A quotient of two doubles is the double nearest to the exact one, and of two that are equally near
the one with an even significand (`roundEven`). Subtraction rounds the exact difference in the same
way.

A quotient of two counters is below one when they differ (`div_ofNat_lt_one`): the step between the
doubles below one is smaller than the gap to the largest such quotient. -/

namespace Tarka.Lib

open Nat

/-- The integer nearest to `p / q`, ties to even. -/
def roundEven (p q : Nat) : Nat :=
  if q < 2 * (p % q) ∨ (2 * (p % q) = q ∧ p / q % 2 = 1) then p / q + 1 else p / q

theorem roundEven_le_succ (p q : Nat) : roundEven p q ≤ p / q + 1 := by
  unfold roundEven
  split_ifs <;> omega

variable {q : Nat}

theorem roundEven_mul (k : Nat) (hq : 0 < q) : roundEven (k * q) q = k := by
  rw [roundEven, Nat.mul_mod_left, Nat.mul_div_cancel _ hq, if_neg]
  omega

theorem roundEven_le {p k : Nat} (hq : 0 < q) (h : p ≤ k * q) : roundEven p q ≤ k := by
  have hdiv : p / q ≤ k := Nat.div_le_of_le_mul (by rwa [mul_comm])
  unfold roundEven
  split_ifs with hup
  · -- with a remainder the quotient is below `k`
    have hsplit := div_add_mod p q
    by_contra hnot
    have hk : p / q = k := by omega
    rw [hk, mul_comm] at hsplit
    omega
  · exact hdiv

namespace F64

/-- The magnitude of the double nearest to `p / q` units. -/
def roundMagnitude (p q : Nat) : Nat :=
  let e := Nat.log2 (p / q) - 52
  min infMagnitude (e * 2 ^ 52 + roundEven p (q * 2 ^ e))

def ofMagnitude (negative : Bool) (m : Nat) : F64 :=
  ⟨UInt64.ofNat ((if negative then 2 ^ 63 else 0) + m)⟩

def nan : F64 := ofMagnitude false (infMagnitude + 2 ^ 51)

def isInfinite (x : F64) : Bool := decide (x.magnitude = infMagnitude)

/-- `x / y`. -/
def div (x y : F64) : F64 :=
  let negative := x.isNegative != y.isNegative
  if x.isNaN || y.isNaN then nan
  else if x.isInfinite then (if y.isInfinite then nan else ofMagnitude negative infMagnitude)
  else if y.isInfinite then ofMagnitude negative 0
  else if y.magnitude = 0 then (if x.magnitude = 0 then nan else ofMagnitude negative infMagnitude)
  else ofMagnitude negative
    (roundMagnitude (scaledMagnitude x.magnitude * unit) (scaledMagnitude y.magnitude))

/-- `x - y`. -/
def sub (x y : F64) : F64 :=
  if x.isNaN || y.isNaN then nan
  else if x.isInfinite then
    (if y.isInfinite && x.isNegative == y.isNegative then nan else x)
  else if y.isInfinite then y.neg
  else if x.scaled = y.scaled then ofMagnitude (x.isNegative && !y.isNegative) 0
  else ofMagnitude (decide (x.scaled < y.scaled)) (roundMagnitude (x.scaled - y.scaled).natAbs 1)

/-! ## Quotients of counters -/

def step : Nat := 2 ^ 1021

theorem step_pos : 0 < step := by
  unfold step
  positivity

theorem unit_eq : unit = 2 ^ 53 * step := by
  rw [unit, step, ← pow_add]

theorem digits_lt (p q : Nat) : p / (q * 2 ^ (log2 (p / q) - 52)) < 2 ^ 53 := by
  rw [← Nat.div_div_eq_div_mul, div_lt_iff_lt_mul (Nat.two_pow_pos _), ← pow_add]
  calc p / q < 2 ^ (log2 (p / q) + 1) := lt_log2_self
    _ ≤ 2 ^ (53 + (log2 (p / q) - 52)) := Nat.pow_le_pow_right (by decide) (by omega)

theorem roundMagnitude_lt_one {p : Nat} (hq : 0 < q) (h : p ≤ (2 ^ 53 - 1) * (q * step)) :
    roundMagnitude p q < 1023 * 2 ^ 52 := by
  have hstep : 0 < q * step := mul_pos hq step_pos
  have hlog : log2 (p / q) - 52 ≤ 1021 := by
    have hlt : p / q < 2 ^ 1074 := by
      rw [div_lt_iff_lt_mul hq, ← unit, unit_eq]
      calc p ≤ (2 ^ 53 - 1) * (q * step) := h
        _ < 2 ^ 53 * (q * step) := mul_lt_mul_of_pos_right (by decide) hstep
        _ = 2 ^ 53 * step * q := by rw [mul_comm q, mul_assoc]
    by_cases hzero : p / q = 0
    · rw [hzero]
      decide
    · have := (log2_lt hzero).mpr hlt
      omega
  have hround : roundEven p (q * 2 ^ (log2 (p / q) - 52)) ≤ 2 ^ 53 :=
    (roundEven_le_succ _ _).trans (digits_lt p q)
  refine lt_of_le_of_lt (min_le_right _ _) ?_
  rcases lt_or_eq_of_le hlog with hlow | hhigh
  · omega
  · -- in the last binade below one the quotient has no more than `2 ^ 53 - 1` steps
    have hlast : roundEven p (q * step) ≤ 2 ^ 53 - 1 := roundEven_le hstep h
    rw [hhigh, ← step]
    omega

theorem roundMagnitude_self (hq : 0 < q) : roundMagnitude (q * unit) q = 1023 * 2 ^ 52 := by
  have hlog : log2 (q * unit / q) - 52 = 1022 := by
    rw [Nat.mul_div_cancel_left _ hq, unit, Nat.log2_two_pow]
  have hround : roundEven (q * unit) (q * 2 ^ (log2 (q * unit / q) - 52)) = 2 ^ 52 := by
    have hsplit : unit = 2 ^ 52 * 2 ^ 1022 := by
      rw [unit, ← pow_add]
    rw [hlog, hsplit, mul_left_comm, roundEven_mul _ (mul_pos hq (Nat.two_pow_pos _))]
  show min infMagnitude ((log2 (q * unit / q) - 52) * 2 ^ 52
    + roundEven (q * unit) (q * 2 ^ (log2 (q * unit / q) - 52))) = 1023 * 2 ^ 52
  rw [hround, hlog]
  decide

theorem isNegative_ofNat {n : Nat} (h : n < 2 ^ 64) : (ofNat n).isNegative = false := by
  rw [isNegative, decide_eq_false_iff_not, not_le]
  by_cases hn : n = 0
  · subst hn
    decide
  · exact (bits_ofNat hn h).2

theorem scaledMagnitude_ofNat {n : Nat} (h : n ≤ 2 ^ 53) :
    scaledMagnitude (ofNat n).magnitude = n * unit := by
  have hlt : n < 2 ^ 64 := by omega
  have hexact : n % 2 ^ (log2 n - 52) = 0 := by
    rcases lt_or_eq_of_le h with hsmall | rfl
    · by_cases hn : n = 0
      · rw [hn, zero_mod]
      · have hlog := (log2_lt hn).mpr hsmall
        rw [Nat.sub_eq_zero_of_le (by omega), pow_zero, mod_one]
    · decide
  have hscaled := (scaled_ofNat_eq_iff hlt).mpr hexact
  rw [scaled, isNegative_ofNat hlt] at hscaled
  exact Int.ofNat_inj.mp hscaled

theorem ofMagnitude_lt_one {m : Nat} (h : m ≤ 1023 * 2 ^ 52) :
    (ofMagnitude false m).lt (ofNat 1) = decide (m < 1023 * 2 ^ 52) := by
  have hbits : (ofMagnitude false m).bits.toNat = m := by
    rw [ofMagnitude, if_neg Bool.false_ne_true, zero_add,
      UInt64.toNat_ofNat_of_lt' (lt_of_le_of_lt h (by decide))]
  have hone : (ofNat 1).key = (1023 * 2 ^ 52 : Nat) := by decide
  have hmagnitude : (ofMagnitude false m).magnitude = m := by
    rw [magnitude, hbits, mod_eq_of_lt (by omega)]
  have hkey : (ofMagnitude false m).key = m := by
    rw [key, isNegative]
    simp only [decide_eq_true_eq]
    omega
  have hnan : (ofMagnitude false m).isNaN = false := by
    rw [isNaN, hmagnitude, infMagnitude, decide_eq_false_iff_not]
    omega
  have honeNaN : (ofNat 1).isNaN = false := by decide
  rw [Bool.eq_iff_iff, lt, partialCmp, hnan, honeNaN, hkey, hone, if_neg (by decide), beq_iff_eq,
    Option.some_inj, compare_lt_iff_lt, Int.ofNat_lt, decide_eq_true_eq]

/-- **A quotient of two counters is below one when they differ.** -/
theorem div_ofNat_lt_one {a b : Nat} (hab : a ≤ b) (hpos : 0 < b) (hb : b ≤ 2 ^ 53) :
    ((ofNat a).div (ofNat b)).lt (ofNat 1) = decide (a < b) := by
  have hunit := unit_pos
  have hfinite : ∀ {n : Nat}, n ≤ 2 ^ 53 →
      (ofNat n).isNaN = false ∧ (ofNat n).isInfinite = false ∧ (ofNat n).isNegative = false := by
    intro n hn
    have hlt : n < 2 ^ 64 := by omega
    have h := isFinite_ofNat hlt
    refine ⟨isNaN_of_isFinite h, ?_, isNegative_ofNat hlt⟩
    rw [isFinite, decide_eq_true_eq] at h
    rw [isInfinite, decide_eq_false_iff_not]
    omega
  obtain ⟨hanan, hainf, haneg⟩ := hfinite (hab.trans hb)
  obtain ⟨hbnan, hbinf, hbneg⟩ := hfinite hb
  have hzero : (ofNat b).magnitude ≠ 0 := by
    intro h
    have hscaled := scaledMagnitude_ofNat hb
    rw [h, scaledMagnitude, if_pos (by decide)] at hscaled
    exact absurd hscaled.symm (mul_pos hpos hunit).ne'
  have hdiv : (ofNat a).div (ofNat b)
      = ofMagnitude false (roundMagnitude (a * unit * unit) (b * unit)) := by
    simp [div, hanan, hainf, haneg, hbnan, hbinf, hbneg, hzero, scaledMagnitude_ofNat hb,
      scaledMagnitude_ofNat (hab.trans hb)]
  rw [hdiv]
  rcases lt_or_eq_of_le hab with hlt | rfl
  · have hbelow : a * unit * unit ≤ (2 ^ 53 - 1) * (b * unit * step) := by
      have hgap : a * 2 ^ 53 ≤ (2 ^ 53 - 1) * b := by omega
      calc a * unit * unit = a * 2 ^ 53 * (unit * step) := by
            nth_rewrite 2 [unit_eq]
            ring
        _ ≤ (2 ^ 53 - 1) * b * (unit * step) := mul_le_mul_right _ hgap
        _ = (2 ^ 53 - 1) * (b * unit * step) := by
            rw [mul_assoc, mul_assoc]
    have hround := roundMagnitude_lt_one (mul_pos hpos hunit) hbelow
    rw [ofMagnitude_lt_one hround.le, decide_eq_true hround, decide_eq_true hlt]
  · have hround : roundMagnitude (a * unit * unit) (a * unit) = 1023 * 2 ^ 52 :=
      roundMagnitude_self (mul_pos hpos hunit)
    rw [hround, ofMagnitude_lt_one le_rfl, decide_eq_false (lt_irrefl _),
      decide_eq_false (lt_irrefl _)]

example : (ofNat 1).div (ofNat 2) = ⟨0x3FE0000000000000⟩ := by decide +kernel

example : (ofNat 1).div (ofNat 3) = ⟨0x3FD5555555555555⟩ := by decide +kernel

example : ((ofNat 1).div (ofNat 3)).sub (ofNat 1) = ⟨0xBFE5555555555556⟩ := by decide +kernel

end F64

end Tarka.Lib
