import Tarka.Json.RoundTrip

/-! # What a JSON text denotes

The meaning of a text does not depend on a reader: an integer numeral is an integer of any size,
any other numeral is the rational it spells, and an object is its entries without their order.
`exact_tree_iff` says when the value that `serde_json` reads still has the meaning of the text:
no integer lies outside of 64 bits, every other number is written back with the same value, and no
object has a key twice. -/

namespace Tarka.Json

open Tarka.Lib Option List KeyMap Tarka.Json.Tree

/-- An integer, or a number written with a point or an exponent. -/
inductive ExactNumber where
  | int (z : Int)
  | decimal (q : ℚ)
  deriving DecidableEq

namespace Numeral

def value (n : Numeral) : ℚ :=
  (if n.negative then -1 else 1) * (Nat.ofDigitChars 10 (n.int ++ n.frac) 0 : ℚ)
    * (10 : ℚ) ^ (n.exp.getD 0 - n.frac.length)

def exact (n : Numeral) : ExactNumber := if n.isInteger then .int n.toInt else .decimal n.value

end Numeral

/-- The meaning of a text. -/
inductive Exact where
  | null
  | bool (b : Bool)
  | number (n : ExactNumber)
  | string (s : String)
  | array (items : List Exact)
  /-- The entries in the order of their keys. -/
  | object (entries : List (String × Exact))

namespace Tree

mutual

def exact : Tree → Exact
  | null => .null
  | bool b => .bool b
  | number n => .number n.exact
  | string s => .string s
  | array items => .array (exactItems items)
  | object entries => .object (KeyMap.sortKeys (exactEntries entries))

def exactItems : List Tree → List Exact
  | [] => []
  | t :: ts => exact t :: exactItems ts

def exactEntries : List (String × Tree) → List (String × Exact)
  | [] => []
  | (k, t) :: es => (k, exact t) :: exactEntries es

end

end Tree

/-! ## What a reader keeps -/

/-- Whether a number is written back with the value it was read from. -/
def Serde.keeps (s : Serde) (n : Numeral) : Bool :=
  if n.isInteger then
    decide (-2 ^ 63 ≤ n.toInt ∧ n.toInt < 2 ^ 64 ∧ ¬ (n.negative = true ∧ n.toInt = 0))
  else decide ((s.parseFloat n).map (fun x => (s.numeral (.float x)).value) = some n.value)

namespace Tree

section

variable (s : Serde)

mutual

/-- Every number of the text is kept, and no object has a key twice. -/
def Kept : Tree → Prop
  | number n => s.keeps n = true
  | array items => KeptItems items
  | object entries => (entries.map Prod.fst).Nodup ∧ KeptEntries entries
  | _ => True

def KeptItems : List Tree → Prop
  | [] => True
  | t :: ts => Kept t ∧ KeptItems ts

def KeptEntries : List (String × Tree) → Prop
  | [] => True
  | (_, t) :: es => Kept t ∧ KeptEntries es

end

end

end Tree

section

variable {s : Serde} (hs : s.Lawful)

include hs

theorem exact_numeral_float_ne {x : FiniteF64} {z : Int} :
    (s.numeral (.float x)).exact ≠ .int z := by
  rw [Numeral.exact, isInteger_numeral_float hs]
  nofun

omit hs in
theorem exact_ofInt (z : Int) : (Numeral.ofInt z).exact = .int z := by
  have hint : (Numeral.ofInt z).isInteger := by
    cases z <;> rfl
  rw [Numeral.exact, hint, Numeral.toInt_ofInt]
  rfl

/-- **Which numbers keep their value.** -/
theorem exact_numeral_iff {n : Numeral} {m : Number} (hm : s.number n = some m) :
    (s.numeral m).exact = n.exact ↔ s.keeps n = true := by
  rw [Serde.number] at hm
  by_cases hint : n.isInteger = true
  · rw [Serde.keeps, if_pos hint, decide_eq_true_eq]
    have hexact : n.exact = .int n.toInt := by rw [Numeral.exact, if_pos hint]
    -- an integer that became a double is not kept
    have hfloat : (s.parseFloat n).map Number.float = some m → (s.numeral m).exact ≠ n.exact := by
      intro hx
      obtain ⟨x, -, rfl⟩ := map_eq_some_iff.mp hx
      rw [hexact]
      exact exact_numeral_float_ne hs
    cases hz : n.toInt with
    | ofNat a =>
      simp only [hz] at hm
      rw [Int.ofNat_eq_natCast] at hz ⊢
      split_ifs at hm with hsmall
      · cases hm
        have hback : ((UInt64.ofNat a).toNat : Int) = a := by
          rw [UInt64.toNat_ofNat_of_lt' hsmall.1]
        have hkept : (s.numeral (.posInt (UInt64.ofNat a))).exact = n.exact := by
          rw [hexact, hz, Serde.numeral, exact_ofInt, hback]
        refine iff_of_true hkept ⟨by omega, by omega, ?_⟩
        rintro ⟨hneg, -⟩
        rw [hsmall.2] at hneg
        cases hneg
      · refine iff_of_false (hfloat hm) ?_
        rintro ⟨-, hlt, hzero⟩
        -- a sign is left only in front of a zero
        have hsign : n.negative = false := by
          by_contra hneg
          rw [Bool.not_eq_false] at hneg
          rw [Numeral.toInt, hneg, if_pos rfl] at hz
          exact hzero ⟨hneg, by omega⟩
        exact hsmall ⟨by omega, hsign⟩
    | negSucc a =>
      simp only [hz] at hm
      split_ifs at hm with hsmall
      · cases hm
        have hkept : (s.numeral (.negInt ⟨a, hsmall⟩)).exact = n.exact := by
          rw [hexact, hz, Serde.numeral, exact_ofInt]
        refine iff_of_true hkept ⟨by omega, by omega, ?_⟩
        rintro ⟨-, hzero⟩
        cases hzero
      · refine iff_of_false (hfloat hm) ?_
        rintro ⟨hlow, -⟩
        omega
  · rw [if_neg hint] at hm
    rw [Serde.keeps, if_neg hint, decide_eq_true_eq]
    obtain ⟨x, hx, rfl⟩ := map_eq_some_iff.mp hm
    rw [hx, Numeral.exact, isInteger_numeral_float hs, Numeral.exact, if_neg hint]
    simp

end

/-! ## Trees -/

variable (ts : List (String × Tree))

theorem Tree.map_fst_exactEntries :
    (exactEntries ts).map Prod.fst = ts.map Prod.fst := by
  induction ts with
  | nil => rfl
  | cons e ts ih => rw [exactEntries, map_cons, map_cons, ih]

theorem Tree.exactEntries_eq_map :
    exactEntries ts = ts.map (fun e => (e.1, e.2.exact)) := by
  induction ts with
  | nil => rfl
  | cons e ts ih => rw [exactEntries, map_cons, ih]

variable {s : Serde} {es : List (String × Value)} {ts : List (String × Tree)}

theorem map_fst_of_toEntries
    (h : toEntries s ts = some es) : es.map Prod.fst = ts.map Prod.fst := by
  induction ts generalizing es with
  | nil =>
    obtain rfl : [] = es := by simpa [toEntries] using h
    rfl
  | cons e ts ih =>
    obtain ⟨v, -, h⟩ := bind_eq_some_iff.mp h
    obtain ⟨fs, hfs, rfl⟩ := map_eq_some_iff.mp h
    rw [map_cons, map_cons, ih hfs]

theorem exact_object_iff (h : toEntries s ts = some es) :
    (s.tree (.object (orderedMap es))).exact = (object ts).exact
      ↔ (ts.map Prod.fst).Nodup ∧ exactEntries (s.treeEntries es) = exactEntries ts := by
  have hkeys := map_fst_of_toEntries h
  have hmap : ∀ fs : List (String × Value), exactEntries (s.treeEntries fs)
      = fs.map (fun e => (e.1, (s.tree e.2).exact)) := by
    intro fs
    rw [Serde.treeEntries_eq_map, exactEntries_eq_map, List.map_map]
    rfl
  have hmapKeys : ∀ fs : List (String × Value),
      (exactEntries (s.treeEntries fs)).map Prod.fst = fs.map Prod.fst := by
    intro fs
    rw [map_fst_exactEntries, Serde.treeEntries_eq_map, List.map_map]
    rfl
  -- with distinct keys the ordered map has the entries that were read
  have hperm : (ts.map Prod.fst).Nodup →
      (exactEntries (s.treeEntries (orderedMap es))).Perm
        (exactEntries (s.treeEntries es)) := by
    intro hnd
    rw [hmap, hmap, orderedMap_eq_sortKeys (hkeys ▸ hnd)]
    exact (sortKeys_perm es).map _
  rw [Serde.tree, exact, exact, Exact.object.injEq]
  constructor
  · intro heq
    have hsame : (exactEntries (s.treeEntries (orderedMap es))).Perm (exactEntries ts) :=
      ((sortKeys_perm _).symm.trans (heq ▸ Perm.refl _)).trans (sortKeys_perm _)
    have hnd : (ts.map Prod.fst).Nodup := by
      rw [← map_fst_exactEntries, ← (hsame.map Prod.fst).nodup_iff, hmapKeys]
      exact (orderedMap_ordered es).1
    refine ⟨hnd, ?_⟩
    apply eq_of_perm_of_keys ((hperm hnd).symm.trans hsame)
    · rw [hmapKeys, map_fst_exactEntries, hkeys]
    · rw [hmapKeys, hkeys]
      exact hnd
  · rintro ⟨hnd, heq⟩
    rw [← heq]
    apply sortKeys_eq_of_perm (hperm hnd)
    rw [hmapKeys]
    exact (orderedMap_ordered es).1

mutual

/-- **When the value read from a text has its meaning.** -/
theorem exact_tree_iff (hs : s.Lawful) : ∀ (t : Tree) (v : Value),
    t.toValue s = some v → ((s.tree v).exact = t.exact ↔ t.Kept s)
  | .null, v, h => by
    obtain rfl : Value.null = v := by simpa [toValue] using h
    exact iff_of_true rfl trivial
  | .bool b, v, h => by
    obtain rfl : Value.bool b = v := by simpa [toValue] using h
    exact iff_of_true rfl trivial
  | .string a, v, h => by
    obtain rfl : Value.string a = v := by simpa [toValue] using h
    exact iff_of_true rfl trivial
  | .number n, v, h => by
    rw [toValue] at h
    obtain ⟨m, hm, rfl⟩ := map_eq_some_iff.mp h
    rw [Serde.tree, exact, exact, Exact.number.injEq, exact_numeral_iff hs hm]
    rfl
  | .array ts, v, h => by
    rw [toValue] at h
    obtain ⟨vs, hvs, rfl⟩ := map_eq_some_iff.mp h
    rw [Serde.tree, exact, exact, Exact.array.injEq]
    exact exact_items_iff hs ts vs hvs
  | .object ts, v, h => by
    rw [toValue] at h
    obtain ⟨es, hes, rfl⟩ := map_eq_some_iff.mp h
    rw [exact_object_iff hes, exact_entries_iff hs ts es hes]
    rfl

theorem exact_items_iff (hs : s.Lawful) : ∀ (ts : List Tree) (vs : List Value),
    toItems s ts = some vs →
      (exactItems (s.treeItems vs) = exactItems ts ↔ KeptItems s ts)
  | [], vs, h => by
    obtain rfl : [] = vs := by simpa [toItems] using h
    exact iff_of_true rfl trivial
  | t :: ts, vs, h => by
    rw [toItems] at h
    obtain ⟨v, hv, h⟩ := bind_eq_some_iff.mp h
    obtain ⟨ws, hws, rfl⟩ := map_eq_some_iff.mp h
    rw [Serde.treeItems, exactItems, exactItems, cons.injEq,
      exact_tree_iff hs t v hv, exact_items_iff hs ts ws hws, KeptItems]

theorem exact_entries_iff (hs : s.Lawful) : ∀ (ts : List (String × Tree))
    (es : List (String × Value)), toEntries s ts = some es →
      (exactEntries (s.treeEntries es) = exactEntries ts ↔ KeptEntries s ts)
  | [], es, h => by
    obtain rfl : [] = es := by simpa [toEntries] using h
    exact iff_of_true rfl trivial
  | (k, t) :: ts, es, h => by
    rw [toEntries] at h
    obtain ⟨v, hv, h⟩ := bind_eq_some_iff.mp h
    obtain ⟨fs, hfs, rfl⟩ := map_eq_some_iff.mp h
    rw [Serde.treeEntries, exactEntries, exactEntries, cons.injEq,
      Prod.mk.injEq, exact_tree_iff hs t v hv, exact_entries_iff hs ts fs hfs, KeptEntries]
    simp

end

end Tarka.Json
