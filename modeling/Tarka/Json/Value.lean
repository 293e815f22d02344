import Tarka.Lib.Float64
import Tarka.Lib.KeyMap
import Tarka.Lib.Strip

/-! # JSON values

`serde_json::Value` with its default features, as the Rust engines hold it: a number is a `u64`,
a negative `i64` or a finite double, and an object lists its entries in the order of their keys,
without repetition. -/

namespace Tarka.Json

open Tarka.Lib

abbrev FiniteF64 := { x : F64 // x.isFinite = true }

inductive Number where
  | posInt (n : UInt64)
  /-- The negative integer `-(k + 1)`. -/
  | negInt (k : Fin (2 ^ 63))
  | float (x : FiniteF64)
  deriving DecidableEq

namespace Number

def asI64 : Number → Option Int
  | posInt n => if n.toNat < 2 ^ 63 then some n.toNat else none
  | negInt k => some (Int.negSucc k.val)
  | float _ => none

def asU64 : Number → Option Nat
  | posInt n => some n.toNat
  | negInt _ => none
  | float _ => none

/-- `Number::as_f64`: never `None` without arbitrary precision. -/
def asF64 : Number → Option F64
  | posInt n => some (F64.ofNat n.toNat)
  | negInt k => some (F64.ofInt (Int.negSucc k.val))
  | float x => some x.val

/-- `==` on numbers: an integer and a double are different, doubles are compared as such. -/
def eq : Number → Number → Bool
  | posInt a, posInt b => a == b
  | negInt a, negInt b => a == b
  | float a, float b => a.val.eq b.val
  | _, _ => false

end Number

inductive Value where
  | null
  | bool (b : Bool)
  | number (n : Number)
  | string (s : String)
  | array (items : List Value)
  | object (entries : List (String × Value))

namespace Value

mutual

/-- `==` on values. -/
def eq : Value → Value → Bool
  | null, null => true
  | bool a, bool b => a == b
  | number a, number b => a.eq b
  | string a, string b => a == b
  | array a, array b => eqItems a b
  | object a, object b => eqEntries a b
  | _, _ => false

def eqItems : List Value → List Value → Bool
  | [], [] => true
  | a :: as, b :: bs => eq a b && eqItems as bs
  | _, _ => false

def eqEntries : List (String × Value) → List (String × Value) → Bool
  | [], [] => true
  | (k, a) :: as, (l, b) :: bs => k == l && eq a b && eqEntries as bs
  | _, _ => false

end

/-- `Value::is_null`, `is None`. -/
def isNull : Value → Bool
  | null => true
  | _ => false

/-- `Value::get` with a string, or `Map::get`. -/
def get? : Value → String → Option Value
  | object entries, k => entries.lookup k
  | _, _ => none

/-! ## Doubles in a value -/

mutual

def allFloats (p : F64 → Bool) : Value → Bool
  | number (.float x) => p x.val
  | array items => allFloatsItems p items
  | object entries => allFloatsEntries p entries
  | _ => true

def allFloatsItems (p : F64 → Bool) : List Value → Bool
  | [] => true
  | v :: vs => allFloats p v && allFloatsItems p vs

def allFloatsEntries (p : F64 → Bool) : List (String × Value) → Bool
  | [] => true
  | (_, v) :: es => allFloats p v && allFloatsEntries p es

end

variable {p : F64 → Bool}

theorem allFloatsEntries_iff : ∀ es : List (String × Value),
    allFloatsEntries p es ↔ ∀ e ∈ es, e.2.allFloats p
  | [] => by simp [allFloatsEntries]
  | (k, v) :: es => by simp [allFloatsEntries, allFloatsEntries_iff es]

def noNegZero (v : Value) : Bool := v.allFloats (fun x => !x.isNegZero)

mutual

theorem eq_self : ∀ v : Value, v.eq v
  | null => rfl
  | bool b => by simp [eq]
  | number (.posInt n) => by simp [eq, Number.eq]
  | number (.negInt k) => by simp [eq, Number.eq]
  | number (.float x) => F64.eq_self x.property
  | string s => by simp [eq]
  | array items => eqItems_self items
  | object entries => eqEntries_self entries

theorem eqItems_self : ∀ vs : List Value, eqItems vs vs
  | [] => rfl
  | v :: vs => by simp [eqItems, eq_self v, eqItems_self vs]

theorem eqEntries_self : ∀ es : List (String × Value), eqEntries es es
  | [] => rfl
  | (k, v) :: es => by simp [eqEntries, eq_self v, eqEntries_self es]

end

theorem number_eq_of_eq {m n : Number} (hm : noNegZero (number m))
    (hn : noNegZero (number n)) (h : m.eq n) : m = n := by
  cases m <;> cases n <;> simp only [Number.eq, beq_iff_eq, Bool.false_eq_true] at h
  · rw [h]
  · rw [h]
  · simp only [noNegZero, allFloats, Bool.not_eq_eq_eq_not, Bool.not_true] at hm hn
    rw [Subtype.ext (F64.eq_of_eq hm hn h)]

mutual

/-- **Equal values are the same**, apart from negative zeros. -/
theorem eq_of_eq : ∀ v w : Value, v.noNegZero → w.noNegZero →
    v.eq w → v = w
  | null, w, _, _, h => by cases w <;> simp_all [eq]
  | bool b, w, _, _, h => by cases w <;> simp_all [eq]
  | number m, w, hv, hw, h => by
    cases w <;> simp only [eq, Bool.false_eq_true] at h
    rw [number_eq_of_eq hv hw h]
  | string s, w, _, _, h => by cases w <;> simp_all [eq]
  | array vs, w, hv, hw, h => by
    cases w <;> simp only [eq, Bool.false_eq_true] at h
    rw [eqItems_of_eqItems vs _ hv hw h]
  | object es, w, hv, hw, h => by
    cases w <;> simp only [eq, Bool.false_eq_true] at h
    rw [eqEntries_of_eqEntries es _ hv hw h]

theorem eqItems_of_eqItems : ∀ vs ws : List Value,
    allFloatsItems (fun x => !x.isNegZero) vs →
    allFloatsItems (fun x => !x.isNegZero) ws → eqItems vs ws → vs = ws
  | [], [], _, _, _ => rfl
  | [], _ :: _, _, _, h => by simp [eqItems] at h
  | _ :: _, [], _, _, h => by simp [eqItems] at h
  | v :: vs, w :: ws, hv, hw, h => by
    simp only [allFloatsItems, eqItems, Bool.and_eq_true] at hv hw h
    rw [eq_of_eq v w hv.1 hw.1 h.1, eqItems_of_eqItems vs ws hv.2 hw.2 h.2]

theorem eqEntries_of_eqEntries : ∀ es fs : List (String × Value),
    allFloatsEntries (fun x => !x.isNegZero) es →
    allFloatsEntries (fun x => !x.isNegZero) fs → eqEntries es fs → es = fs
  | [], [], _, _, _ => rfl
  | [], _ :: _, _, _, h => by simp [eqEntries] at h
  | _ :: _, [], _, _, h => by simp [eqEntries] at h
  | (k, v) :: es, (l, w) :: fs, hv, hw, h => by
    simp only [allFloatsEntries, eqEntries, Bool.and_eq_true, beq_iff_eq] at hv hw h
    rw [h.1.1, eq_of_eq v w hv.1 hw.1 h.1.2, eqEntries_of_eqEntries es fs hv.2 hw.2 h.2]

end

/-! ## JSON pointers -/

/-- `replace("~1", "/")` and `replace("~0", "~")`, one after the other. -/
def replacePair (d : Char) (by_ : Char) : List Char → List Char
  | '~' :: c :: cs =>
    if c = d then by_ :: replacePair d by_ cs else '~' :: replacePair d by_ (c :: cs)
  | c :: cs => c :: replacePair d by_ cs
  | [] => []

def unescapeToken (t : List Char) : List Char := replacePair '0' '~' (replacePair '1' '/' t)

def decimal? (cs : List Char) : Option Nat :=
  if cs ≠ [] ∧ cs.all Char.isDigit then
    some (cs.foldl (fun n c => 10 * n + (c.toNat - '0'.toNat)) 0)
  else none

/-- The index a token denotes: no sign, no leading zero, and within `usize`. -/
def parseIndex (t : List Char) : Option Nat :=
  match t with
  | '+' :: _ => none
  | '0' :: _ :: _ => none
  | _ => (decimal? t).bind (fun n => if n < 2 ^ 64 then some n else none)

def step (v : Value) (token : List Char) : Option Value :=
  match v with
  | object entries => entries.lookup (String.ofList token)
  | array items => (parseIndex token).bind (fun i => items[i]?)
  | _ => none

def pointer (v : Value) (p : String) : Option Value :=
  match p.toList with
  | [] => some v
  | '/' :: cs => ((splitChars '/' cs).map unescapeToken).foldlM step v
  | _ => none

example : ((object [("a", array [null, bool true])]).pointer "/a/1").map (·.eq (bool true))
    = some true := by decide +kernel

end Value

end Tarka.Json
