import Tarka.Json.PyJson

/-! # Printed texts read back

What `serde_json::from_str` makes of a text that `serde_json::to_string` wrote. The grammar returns
the tree of the printed value (`readTree_text`): strings and integers come back as they were, and
a double as the numeral it is written with. The second stage then rebuilds the value, provided that
its maps are ordered, that it is not nested deeper than the recursion limit and that every double is
read back as itself (`fromStr_text`). The maps of every value that was read from a text are ordered
(`canonical_of_fromStr`); that a double is read back is not promised by `serde_json`, which reads
doubles with best effort unless it is built with `float_roundtrip`. -/

namespace Tarka.Json

open Tarka.Lib Option List Value Nat KeyMap PyNumber Numeral

/-- What `serde_json` promises about the text of a finite double: it is a number of the grammar, and
not an integer. -/
structure Serde.Lawful (s : Serde) : Prop where
  spells : ∀ x : FiniteF64, ∃ n : Numeral, n.isInteger = false ∧ ∀ r, Delimited r →
    readNumeral ((s.floatText x.val).toList ++ r) = some (n, r)

open Serde

/-! ## Values -/

theorem Serde.treeEntries_eq_map (s : Serde) (es : List (String × Value)) :
    s.treeEntries es = es.map (fun e => (e.1, s.tree e.2)) := by
  induction es with
  | nil => rfl
  | cons e es ih => rw [treeEntries, ih, map_cons]

namespace Value

mutual

def depth : Value → Nat
  | array items => depthItems items + 1
  | object entries => depthEntries entries + 1
  | _ => 0

def depthItems : List Value → Nat
  | [] => 0
  | v :: vs => max (depth v) (depthItems vs)

def depthEntries : List (String × Value) → Nat
  | [] => 0
  | (_, v) :: es => max (depth v) (depthEntries es)

end

variable {vs : List Value}

theorem depthItems_le {n : Nat} : depthItems vs ≤ n ↔ ∀ v ∈ vs, v.depth ≤ n := by
  induction vs with
  | nil => simp [depthItems]
  | cons v vs ih => simp [depthItems, ih]

variable {es : List (String × Value)}

theorem depthEntries_le {n : Nat} : depthEntries es ≤ n ↔ ∀ e ∈ es, e.2.depth ≤ n := by
  induction es with
  | nil => simp [depthEntries]
  | cons e es ih => simp [depthEntries, ih]

end Value

def Number.toPy : Number → PyNumber
  | posInt n => .int n.toNat
  | negInt k => .int (Int.negSucc k.val)
  | float x => .float x

theorem numberChars_eq (floatText : F64 → String) (n : Number) :
    numberChars floatText n = n.toPy.chars floatText := by
  cases n <;> rfl

theorem Serde.numeral_eq (s : Serde) (n : Number) : s.numeral n = n.toPy.numeral s.floatText := by
  cases n <;> rfl

namespace Value

mutual

def toPy : Value → PyJson
  | null => .null
  | bool b => .bool b
  | number n => .number n.toPy
  | string s => .string s
  | array items => .array (toPyItems items)
  | object entries => .object (toPyEntries entries)

def toPyItems : List Value → List PyJson
  | [] => []
  | v :: vs => toPy v :: toPyItems vs

def toPyEntries : List (String × Value) → List (String × PyJson)
  | [] => []
  | (k, v) :: es => (k, toPy v) :: toPyEntries es

end

section

variable (esc : Char → List Char) (floatText : F64 → String)

mutual

theorem jsonChars_eq : ∀ v : Value,
    jsonChars esc floatText v = v.toPy.chars esc (chars floatText)
  | null => rfl
  | bool true => rfl
  | bool false => rfl
  | number n => numberChars_eq floatText n
  | string _ => rfl
  | array [] => rfl
  | array (v :: vs) => by
    rw [jsonChars, jsonChars_eq v, itemsTail_eq vs]
    rfl
  | object [] => rfl
  | object ((k, v) :: es) => by
    rw [jsonChars, jsonChars_eq v, entriesTail_eq es]
    rfl

theorem itemsTail_eq : ∀ vs : List Value,
    itemsTail esc floatText vs = PyJson.itemsTail esc (chars floatText) (toPyItems vs)
  | [] => rfl
  | v :: vs => by
    rw [itemsTail, jsonChars_eq v, itemsTail_eq vs]
    rfl

theorem entriesTail_eq : ∀ es : List (String × Value),
    entriesTail esc floatText es = PyJson.entriesTail esc (chars floatText) (toPyEntries es)
  | [] => rfl
  | (k, v) :: es => by
    rw [entriesTail, jsonChars_eq v, entriesTail_eq es]
    rfl

end

end

mutual

theorem tree_eq (s : Serde) : ∀ v : Value, s.tree v = v.toPy.tree (numeral s.floatText)
  | null => rfl
  | bool _ => rfl
  | number n => congrArg Tree.number (s.numeral_eq n)
  | string _ => rfl
  | array items => congrArg Tree.array (treeItems_eq s items)
  | object entries => congrArg Tree.object (treeEntries_eq s entries)

theorem treeItems_eq (s : Serde) : ∀ vs : List Value,
    s.treeItems vs = PyJson.treeItems (numeral s.floatText) (toPyItems vs)
  | [] => rfl
  | v :: vs => by rw [treeItems, tree_eq s v, treeItems_eq s vs, toPyItems, PyJson.treeItems]

theorem treeEntries_eq (s : Serde) : ∀ es : List (String × Value),
    s.treeEntries es = PyJson.treeEntries (numeral s.floatText) (toPyEntries es)
  | [] => rfl
  | (k, v) :: es => by
    rw [treeEntries, tree_eq s v, treeEntries_eq s es, toPyEntries, PyJson.treeEntries]

end

mutual

theorem depth_toPy : ∀ v : Value, v.toPy.depth = v.depth
  | null => rfl
  | bool _ => rfl
  | number _ => rfl
  | string _ => rfl
  | array items => congrArg (· + 1) (depth_toPyItems items)
  | object entries => congrArg (· + 1) (depth_toPyEntries entries)

theorem depth_toPyItems : ∀ vs : List Value, PyJson.depthItems (toPyItems vs) = depthItems vs
  | [] => rfl
  | v :: vs => by rw [toPyItems, PyJson.depthItems, depthItems, depth_toPy v, depth_toPyItems vs]

theorem depth_toPyEntries : ∀ es : List (String × Value),
    PyJson.depthEntries (toPyEntries es) = depthEntries es
  | [] => rfl
  | (_, v) :: es => by
    rw [toPyEntries, PyJson.depthEntries, depthEntries, depth_toPy v, depth_toPyEntries es]

end

end Value

variable {v : Value} {s : Serde}

/-- **The tree of a printed text.** -/
theorem readTree_text (hs : s.Lawful) (hdepth : v.depth < recursionLimit) :
    readTree (s.text v).toList = some (s.tree v) := by
  have hspells : Spells s.floatText := hs.spells
  rw [← depth_toPy] at hdepth
  rw [text, String.toList_ofList, jsonChars_eq,
    PyJson.readTree_chars hspells.spelled hdepth, tree_eq]

/-! ## Rebuilding the value -/

namespace Value

mutual

/-- The maps of a value are ordered and have no key twice. -/
def Canonical : Value → Prop
  | array items => CanonicalItems items
  | object entries => (entries.map Prod.fst).Nodup ∧
      entries.Pairwise (fun a b => byteLe a.1 b.1 = true) ∧ CanonicalEntries entries
  | _ => True

def CanonicalItems : List Value → Prop
  | [] => True
  | v :: vs => Canonical v ∧ CanonicalItems vs

def CanonicalEntries : List (String × Value) → Prop
  | [] => True
  | (_, v) :: es => Canonical v ∧ CanonicalEntries es

end

theorem canonicalItems_iff : CanonicalItems vs ↔ ∀ v ∈ vs, v.Canonical := by
  induction vs with
  | nil => simp [CanonicalItems]
  | cons v vs ih => simp [CanonicalItems, ih]

theorem canonicalEntries_iff :
    CanonicalEntries es ↔ ∀ e ∈ es, e.2.Canonical := by
  induction es with
  | nil => simp [CanonicalEntries]
  | cons e es ih => simp [CanonicalEntries, ih]

end Value

variable {V : Type} {es : List (String × V)}

theorem orderedMap_eq_sortKeys (hnd : (es.map Prod.fst).Nodup) : orderedMap es = sortKeys es := by
  rw [orderedMap, Dict.foldl_set_of_disjoint es [] hnd (by simp), nil_append]

theorem orderedMap_eq_self (hnd : (es.map Prod.fst).Nodup)
    (hsorted : es.Pairwise (fun a b => byteLe a.1 b.1)) : orderedMap es = es := by
  rw [orderedMap_eq_sortKeys hnd]
  exact hsorted.insertionSort_eq

theorem Numeral.toInt_ofInt (i : Int) : (ofInt i).toInt = i := by
  have hdigits : ∀ m, ofDigitChars 10 (toDigits 10 m) 0 = m :=
    fun _ => ofDigitChars_toDigits (by decide) (by decide)
  cases i with
  | ofNat m => simp [ofInt, toInt, hdigits]
  | negSucc m =>
    simp only [ofInt, toInt, if_true, hdigits]
    rfl

def Serde.survives (s : Serde) (x : F64) : Bool :=
  if h : x.isFinite = true then
    decide (s.parseFloat (s.numeral (.float ⟨x, h⟩)) = some ⟨x, h⟩)
  else true

section

variable {s : Serde} (hs : s.Lawful)

include hs

theorem isInteger_numeral_float (x : FiniteF64) : (s.numeral (.float x)).isInteger = false := by
  have hspells : Spells s.floatText := hs.spells
  exact (hspells.numeral_float x).1

theorem number_numeral {n : Number} (h : (number n).allFloats s.survives) :
    s.number (s.numeral n) = some n := by
  cases n with
  | posInt n =>
    have hlt : n.toNat < 2 ^ 64 := n.toNat_lt
    have hneg : (ofInt (n.toNat : Int)).negative = false := rfl
    rw [Serde.number, Serde.numeral, toInt_ofInt]
    show (if n.toNat < 2 ^ 64 ∧ _ then _ else _) = _
    rw [if_pos ⟨hlt, hneg⟩, UInt64.ofNat_toNat]
  | negInt k =>
    rw [Serde.number, Serde.numeral, toInt_ofInt]
    show (if h : k.val < 2 ^ 63 then _ else _) = _
    rw [dif_pos k.isLt]
  | float x =>
    have hparse : s.parseFloat (s.numeral (.float x)) = some x := by
      simpa [allFloats, survives, x.property] using h
    rw [Serde.number, if_neg (by simp [isInteger_numeral_float hs x]), hparse]
    rfl

end

mutual

/-- **The second stage rebuilds a value** whose doubles survive. -/
theorem toValue_tree (hs : s.Lawful) : ∀ v : Value, v.Canonical →
    v.allFloats s.survives → (s.tree v).toValue s = some v
  | .null, _, _ => rfl
  | .bool _, _, _ => rfl
  | .string _, _, _ => rfl
  | .number n, _, h => by
    rw [tree, Tree.toValue, number_numeral hs h]
    rfl
  | .array items, hc, h => by
    rw [tree, Tree.toValue, toItems_tree hs items hc h]
    rfl
  | .object entries, hc, h => by
    rw [tree, Tree.toValue, toEntries_tree hs entries hc.2.2 h, map_some,
      orderedMap_eq_self hc.1 hc.2.1]

theorem toItems_tree (hs : s.Lawful) : ∀ vs : List Value, CanonicalItems vs →
    allFloatsItems s.survives vs → Tree.toItems s (s.treeItems vs) = some vs
  | [], _, _ => rfl
  | v :: vs, hc, h => by
    rw [allFloatsItems, Bool.and_eq_true] at h
    rw [treeItems, Tree.toItems, toValue_tree hs v hc.1 h.1, bind_some,
      toItems_tree hs vs hc.2 h.2]
    rfl

theorem toEntries_tree (hs : s.Lawful) : ∀ es : List (String × Value),
    CanonicalEntries es → allFloatsEntries s.survives es →
    Tree.toEntries s (s.treeEntries es) = some es
  | [], _, _ => rfl
  | (k, v) :: es, hc, h => by
    rw [allFloatsEntries, Bool.and_eq_true] at h
    rw [treeEntries, Tree.toEntries, toValue_tree hs v hc.1 h.1, bind_some,
      toEntries_tree hs es hc.2 h.2]
    rfl

end

/-- **A value survives its text** when its doubles do. -/
theorem fromStr_text (hs : s.Lawful) (hc : v.Canonical) (hdepth : v.depth < recursionLimit)
    (h : v.allFloats s.survives) : s.fromStr (s.text v) = .ok v := by
  rw [fromStr, readTree_text hs hdepth, bind_some, toValue_tree hs v hc h]

/-! ## What is read -/

variable {e : String × V}

theorem mem_foldl_set {d : List (String × V)}
    (h : e ∈ es.foldl (fun d e => Dict.set d e.1 e.2) d) : e ∈ d ∨ e ∈ es := by
  induction es generalizing d with
  | nil => exact Or.inl h
  | cons a es ih =>
    rcases ih h with hset | htail
    · rcases Dict.mem_set hset with rfl | hd
      · exact .inr (by simp)
      · exact .inl hd
    · exact .inr (mem_cons_of_mem _ htail)

theorem mem_of_mem_orderedMap (h : e ∈ orderedMap es) : e ∈ es := by
  have hfold : e ∈ es.foldl (fun d e => Dict.set d e.1 e.2) [] :=
    (sortKeys_perm _).mem_iff.mp h
  rcases mem_foldl_set hfold with hnil | hes
  · simp at hnil
  · exact hes

/-- The entries of an ordered map have their keys once and in order. -/
theorem orderedMap_ordered (es : List (String × V)) : ((orderedMap es).map Prod.fst).Nodup ∧
      (orderedMap es).Pairwise (fun a b => byteLe a.1 b.1) := by
  have hproper : Dict.Proper (es.foldl (fun d e => Dict.set d e.1 e.2) []) := by
    apply List.foldlRecOn es (fun d e => Dict.set d e.1 e.2) (motive := Dict.Proper)
    · exact nodup_nil
    · intro d hd e _
      exact hd.set e.1 e.2
  constructor
  · exact ((sortKeys_perm _).map Prod.fst).nodup_iff.mpr hproper
  · exact sortKeys_sorted _

mutual

/-- **What is read is canonical**, and not deeper than the tree. -/
theorem canonical_of_toValue : ∀ {t : Tree} {v : Value}, t.toValue s = some v →
    v.Canonical ∧ v.depth ≤ t.depth
  | .null, v, h => by
    obtain rfl : null = v := by simpa [Tree.toValue] using h
    exact ⟨trivial, le_refl _⟩
  | .bool b, v, h => by
    obtain rfl : bool b = v := by simpa [Tree.toValue] using h
    exact ⟨trivial, le_refl _⟩
  | .string a, v, h => by
    obtain rfl : string a = v := by simpa [Tree.toValue] using h
    exact ⟨trivial, le_refl _⟩
  | .number n, v, h => by
    rw [Tree.toValue] at h
    obtain ⟨m, -, rfl⟩ := map_eq_some_iff.mp h
    exact ⟨trivial, le_refl _⟩
  | .array ts, v, h => by
    rw [Tree.toValue] at h
    obtain ⟨vs, hvs, rfl⟩ := map_eq_some_iff.mp h
    have hitems := canonical_of_toItems hvs
    constructor
    · exact canonicalItems_iff.mpr (fun w hw => (hitems w hw).1)
    · exact succ_le_succ (depthItems_le.mpr (fun w hw => (hitems w hw).2))
  | .object ts, v, h => by
    rw [Tree.toValue] at h
    obtain ⟨es, hes, rfl⟩ := map_eq_some_iff.mp h
    have hentries := canonical_of_toEntries hes
    obtain ⟨hnd, hsorted⟩ := orderedMap_ordered es
    constructor
    · refine ⟨hnd, hsorted, canonicalEntries_iff.mpr ?_⟩
      exact fun e he => (hentries e (mem_of_mem_orderedMap he)).1
    · apply succ_le_succ
      exact depthEntries_le.mpr (fun e he => (hentries e (mem_of_mem_orderedMap he)).2)

theorem canonical_of_toItems : ∀ {ts : List Tree} {vs : List Value},
    Tree.toItems s ts = some vs → ∀ v ∈ vs, v.Canonical ∧ v.depth ≤ Tree.depthItems ts
  | [], vs, h => by
    obtain rfl : [] = vs := by simpa [Tree.toItems] using h
    simp
  | t :: ts, vs, h => by
    rw [Tree.toItems] at h
    obtain ⟨v, hv, h⟩ := bind_eq_some_iff.mp h
    obtain ⟨ws, hws, rfl⟩ := map_eq_some_iff.mp h
    have hhead := canonical_of_toValue hv
    have htail := canonical_of_toItems hws
    intro w hw
    rcases mem_cons.mp hw with rfl | hw
    · exact ⟨hhead.1, le_trans hhead.2 (le_max_left _ _)⟩
    · exact ⟨(htail w hw).1, le_trans (htail w hw).2 (le_max_right _ _)⟩

theorem canonical_of_toEntries : ∀ {ts : List (String × Tree)}
    {es : List (String × Value)}, Tree.toEntries s ts = some es →
    ∀ e ∈ es, e.2.Canonical ∧ e.2.depth ≤ Tree.depthEntries ts
  | [], es, h => by
    obtain rfl : [] = es := by simpa [Tree.toEntries] using h
    simp
  | (k, t) :: ts, es, h => by
    rw [Tree.toEntries] at h
    obtain ⟨v, hv, h⟩ := bind_eq_some_iff.mp h
    obtain ⟨fs, hfs, rfl⟩ := map_eq_some_iff.mp h
    have hhead := canonical_of_toValue hv
    have htail := canonical_of_toEntries hfs
    intro e he
    rcases mem_cons.mp he with rfl | he
    · exact ⟨hhead.1, le_trans hhead.2 (le_max_left _ _)⟩
    · exact ⟨(htail e he).1, le_trans (htail e he).2 (le_max_right _ _)⟩

end

/-- **Every value read from a text can be written and read again**, apart from its doubles. -/
theorem canonical_of_fromStr {text : String} (h : s.fromStr text = .ok v) :
    v.Canonical ∧ v.depth < recursionLimit := by
  rw [fromStr] at h
  split at h
  · rename_i w hread
    obtain ⟨t, ht, hw⟩ := bind_eq_some_iff.mp hread
    obtain ⟨p, hp, hend⟩ := bind_eq_some_iff.mp (show _ = some t from ht)
    obtain ⟨-, rfl⟩ : skipSpace p.2 = [] ∧ p.1 = t := by
      split_ifs at hend with hskip
      exact ⟨hskip, Option.some.inj hend⟩
    obtain rfl : w = v := by simpa using h
    obtain ⟨hc, hdepth⟩ := canonical_of_toValue hw
    have htree : p.1.depth ≤ 127 :=
      depth_of_readValue (show readValue (127 + 1) _ = some (p.1, p.2) from hp)
    exact ⟨hc, lt_succ_of_le (le_trans hdepth htree)⟩
  · simp at h

end Tarka.Json
