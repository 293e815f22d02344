import Mathlib.Tactic

/-! # Doubles by their bit patterns

A double is its IEEE 754 bit pattern. The order of the doubles that are not NaN is the order of
a signed integer key (`F64.key`): the magnitude bits, negated below zero, so that both zeros have
the key `0`. Integers are rounded to the nearest double, ties to even (`F64.ofNat`). -/

namespace Tarka.Lib

/-- A double, as its bit pattern. -/
structure F64 where
  bits : UInt64
  deriving DecidableEq

namespace F64

def magnitude (x : F64) : Nat := x.bits.toNat % 2 ^ 63

def infMagnitude : Nat := 0x7FF * 2 ^ 52

def isNegative (x : F64) : Bool := decide (2 ^ 63 ≤ x.bits.toNat)

def isNaN (x : F64) : Bool := decide (infMagnitude < x.magnitude)

def isFinite (x : F64) : Bool := decide (x.magnitude < infMagnitude)

def key (x : F64) : Int := if x.isNegative then -(x.magnitude : Int) else x.magnitude

/-- The partial order of doubles: a NaN is comparable to nothing. -/
def partialCmp (x y : F64) : Option Ordering :=
  if x.isNaN || y.isNaN then none else some (compare x.key y.key)

/-- `==` on doubles. -/
def eq (x y : F64) : Bool := x.partialCmp y == some .eq

def lt (x y : F64) : Bool := x.partialCmp y == some .lt

def le (x y : F64) : Bool := x.lt y || x.eq y

/-- The zero with a sign: it equals the other zero and is written differently. -/
def isNegZero (x : F64) : Bool := x.isNegative && x.magnitude == 0

/-- A NaN whose first fraction bit is clear. Arithmetic takes such values and never gives one. -/
def isSignalling (x : F64) : Bool := x.isNaN && decide (x.magnitude < infMagnitude + 2 ^ 51)

variable {x y : F64}

theorem key_eq_of_eq (h : x.eq y) : x.key = y.key := by
  unfold eq partialCmp at h
  split_ifs at h
  · simp at h
  · simpa [compare_eq_iff_eq] using h

theorem isNaN_of_isFinite (h : x.isFinite) : x.isNaN = false := by
  simp only [isFinite, isNaN, decide_eq_true_eq, decide_eq_false_iff_not] at h ⊢
  omega

theorem eq_self (h : x.isFinite) : x.eq x = true := by
  simp [eq, partialCmp, isNaN_of_isFinite h]

/-- Without a NaN one of two doubles is below the other or not above it. -/
theorem lt_eq_not_le (hx : x.isNaN = false) (hy : y.isNaN = false) : x.lt y = !y.le x := by
  simp only [lt, le, eq, partialCmp, hx, hy, Bool.or_self, Bool.false_eq_true, if_false]
  obtain h | h | h := lt_trichotomy x.key y.key
  · rw [compare_lt_iff_lt.mpr h, compare_gt_iff_gt.mpr h]
    rfl
  · rw [h, compare_eq_iff_eq.mpr rfl]
    rfl
  · rw [compare_gt_iff_gt.mpr h, compare_lt_iff_lt.mpr h]
    rfl

theorem le_iff_key (hx : x.isNaN = false) (hy : y.isNaN = false) : x.le y ↔ x.key ≤ y.key := by
  rw [le, Bool.or_eq_true, lt, eq, partialCmp, hx, hy]
  simp only [Bool.or_self, Bool.false_eq_true, if_false, beq_iff_eq, Option.some.injEq,
    compare_lt_iff_lt, compare_eq_iff_eq]
  exact le_iff_lt_or_eq.symm

/-- **Equality of doubles is equality of bits**, apart from the negative zero. -/
theorem eq_of_eq (hx : x.isNegZero = false) (hy : y.isNegZero = false) (h : x.eq y) : x = y := by
  have hkey := key_eq_of_eq h
  have hbx : x.bits.toNat < 2 ^ 64 := x.bits.toNat_lt
  have hby : y.bits.toNat < 2 ^ 64 := y.bits.toNat_lt
  have hbits : x.bits.toNat = y.bits.toNat := by
    simp only [isNegZero, isNegative, magnitude, Bool.and_eq_false_iff, decide_eq_false_iff_not,
      beq_eq_false_iff_ne] at hx hy
    simp only [key, isNegative, magnitude, decide_eq_true_eq] at hkey
    split_ifs at hkey <;> omega
  cases x
  cases y
  simpa [UInt64.toNat_inj] using hbits

/-- The double nearest to a natural number below `2 ^ 1023`, ties to even. -/
def ofNat (n : Nat) : F64 :=
  if n = 0 then ⟨0⟩
  else
    let e := Nat.log2 n
    let significand :=
      if e ≤ 52 then n * 2 ^ (52 - e)
      else
        let q := n / 2 ^ (e - 52)
        let r := n % 2 ^ (e - 52)
        let half := 2 ^ (e - 53)
        if half < r ∨ (r = half ∧ q % 2 = 1) then q + 1 else q
    -- a significand rounded up to the next power of two carries into the exponent
    ⟨UInt64.ofNat ((e + 1022) * 2 ^ 52 + significand)⟩

def neg (x : F64) : F64 := ⟨x.bits ^^^ 0x8000000000000000⟩

def ofInt : Int → F64
  | .ofNat n => ofNat n
  | .negSucc n => (ofNat (n + 1)).neg

/-- `max(x, y)` of Python: the first one unless the second is larger. -/
def pyMax (x y : F64) : F64 := if x.lt y then y else x

/-- `min(x, y)` of Python: the first one unless the second is smaller. -/
def pyMin (x y : F64) : F64 := if y.lt x then y else x

/-- The arithmetic of doubles, and the conversions to them that round. -/
structure Arith where
  add : F64 → F64 → F64
  sub : F64 → F64 → F64
  mul : F64 → F64 → F64
  div : F64 → F64 → F64
  /-- The sum of a list. -/
  sum : List F64 → F64
  /-- The quotient of two integers. -/
  ratio : Nat → Nat → F64

example : ofNat 1 = ⟨0x3FF0000000000000⟩ := by decide

example : ofNat (2 ^ 53 + 1) = ofNat (2 ^ 53) := by decide

example : (ofInt (-3)).lt (ofInt 2) = true := by decide

end F64

end Tarka.Lib
