import Tarka.Json.Tokens

/-! # Documents with integers of any size

What `json.loads` returns, and what the printers of Python and Rust write of it. A printer is given
by the way it escapes characters and by the way it writes numbers. The grammar reads the text of a
document back as its tree, as long as it is not nested deeper than the reader allows
(`readTree_chars`), and no deeper text is read at all (`depth_lt_of_readTree`). -/

namespace Tarka.Json

open Tarka.Lib List Option Nat Char

/-- A number of Python that JSON can express. -/
inductive PyNumber where
  | int (i : Int)
  | float (x : FiniteF64)
  deriving DecidableEq

def PyNumber.chars (floatText : F64 → String) : PyNumber → List Char
  | int i => (decimalText i).toList
  | float x => (floatText x.val).toList

/-- A document; the entries of a `dict` are in their order. -/
inductive PyJson where
  | null
  | bool (b : Bool)
  | number (n : PyNumber)
  | string (s : String)
  | array (items : List PyJson)
  | object (entries : List (String × PyJson))

namespace PyJson

/-! ## The printer -/

section

variable (esc : Char → List Char) (num : PyNumber → List Char)

mutual

def chars : PyJson → List Char
  | null => "null".toList
  | bool true => "true".toList
  | bool false => "false".toList
  | number n => num n
  | string s => quoted esc s
  | array [] => ['[', ']']
  | array (v :: vs) => '[' :: (chars v ++ itemsTail vs)
  | object [] => [Char.ofNat 123, Char.ofNat 125]
  | object ((k, v) :: es) =>
    Char.ofNat 123 :: (quoted esc k ++ ':' :: (chars v ++ entriesTail es))

def itemsTail : List PyJson → List Char
  | [] => [']']
  | v :: vs => ',' :: (chars v ++ itemsTail vs)

def entriesTail : List (String × PyJson) → List Char
  | [] => [Char.ofNat 125]
  | (k, v) :: es => ',' :: (quoted esc k ++ ':' :: (chars v ++ entriesTail es))

end

def entryChars (e : String × PyJson) : List Char := quoted esc e.1 ++ ':' :: chars esc num e.2

theorem itemsTail_eq_seqTail (vs : List PyJson) :
    itemsTail esc num vs = seqTail (chars esc num) ']' vs := by
  induction vs with
  | nil => rfl
  | cons v vs ih => rw [itemsTail, seqTail, ih]

theorem entriesTail_eq_seqTail (es : List (String × PyJson)) :
    entriesTail esc num es = seqTail (entryChars esc num) closeBrace es := by
  induction es with
  | nil => rfl
  | cons e es ih => rw [entriesTail, seqTail, ih, entryChars, append_assoc, cons_append]

end

mutual

/-- `repr`. -/
def pyRepr (t : PyText) : PyJson → String
  | null => "None"
  | bool true => "True"
  | bool false => "False"
  | number n => String.ofList (n.chars t.reprFloat)
  | string s => t.reprStr s
  | array items => "[" ++ pyReprItems t items ++ "]"
  | object entries => "\x7b" ++ pyReprEntries t entries ++ "\x7d"

def pyReprItems (t : PyText) : List PyJson → String
  | [] => ""
  | [v] => pyRepr t v
  | v :: vs => pyRepr t v ++ ", " ++ pyReprItems t vs

def pyReprEntries (t : PyText) : List (String × PyJson) → String
  | [] => ""
  | [(k, v)] => t.reprStr k ++ ": " ++ pyRepr t v
  | (k, v) :: es => t.reprStr k ++ ": " ++ pyRepr t v ++ ", " ++ pyReprEntries t es

end

/-- `str`: a string is itself. -/
def pyStr (t : PyText) : PyJson → String
  | string s => s
  | d => pyRepr t d

mutual

def depth : PyJson → Nat
  | array items => depthItems items + 1
  | object entries => depthEntries entries + 1
  | _ => 0

def depthItems : List PyJson → Nat
  | [] => 0
  | v :: vs => max (depth v) (depthItems vs)

def depthEntries : List (String × PyJson) → Nat
  | [] => 0
  | (_, v) :: es => max (depth v) (depthEntries es)

end

theorem depthItems_le {vs : List PyJson} {n : Nat} : depthItems vs ≤ n ↔ ∀ v ∈ vs, v.depth ≤ n := by
  induction vs with
  | nil => simp [depthItems]
  | cons v vs ih => simp [depthItems, ih]

theorem depthEntries_le {es : List (String × PyJson)} {n : Nat} :
    depthEntries es ≤ n ↔ ∀ e ∈ es, e.2.depth ≤ n := by
  induction es with
  | nil => simp [depthEntries]
  | cons e es ih => simp [depthEntries, ih]

/-! ## Trees -/

section

variable (numeral : PyNumber → Numeral)

mutual

def tree : PyJson → Tree
  | null => .null
  | bool b => .bool b
  | number n => .number (numeral n)
  | string t => .string t
  | array items => .array (treeItems items)
  | object entries => .object (treeEntries entries)

def treeItems : List PyJson → List Tree
  | [] => []
  | v :: vs => tree v :: treeItems vs

def treeEntries : List (String × PyJson) → List (String × Tree)
  | [] => []
  | (k, v) :: es => (k, tree v) :: treeEntries es

end

theorem treeItems_eq_map (vs : List PyJson) : treeItems numeral vs = vs.map (tree numeral) := by
  induction vs with
  | nil => rfl
  | cons v vs ih => rw [treeItems, ih, map_cons]

theorem treeEntries_eq_map (es : List (String × PyJson)) :
    treeEntries numeral es = es.map (fun e => (e.1, tree numeral e.2)) := by
  induction es with
  | nil => rfl
  | cons e es ih => rw [treeEntries, ih, map_cons]

mutual

theorem depth_tree : ∀ d : PyJson, (tree numeral d).depth = d.depth
  | null => rfl
  | bool _ => rfl
  | number _ => rfl
  | string _ => rfl
  | array items => congrArg (· + 1) (depth_treeItems items)
  | object entries => congrArg (· + 1) (depth_treeEntries entries)

theorem depth_treeItems : ∀ vs : List PyJson,
    Tree.depthItems (treeItems numeral vs) = depthItems vs
  | [] => rfl
  | v :: vs => by rw [treeItems, Tree.depthItems, depthItems, depth_tree v, depth_treeItems vs]

theorem depth_treeEntries : ∀ es : List (String × PyJson),
    Tree.depthEntries (treeEntries numeral es) = depthEntries es
  | [] => rfl
  | (_, v) :: es => by
    rw [treeEntries, Tree.depthEntries, depthEntries, depth_tree v, depth_treeEntries es]

end

end

end PyJson

/-! ## Reading -/

def Spelled (num : PyNumber → List Char) (numeral : PyNumber → Numeral) : Prop :=
  ∀ n r, Delimited r → readNumeral (num n ++ r) = some (numeral n, r)

/-- The texts of doubles are numbers of the grammar, and not integers. -/
def Spells (floatText : F64 → String) : Prop :=
  ∀ x : FiniteF64, ∃ n : Numeral, n.isInteger = false ∧ ∀ r, Delimited r →
    readNumeral ((floatText x.val).toList ++ r) = some (n, r)

def PyNumber.numeral (floatText : F64 → String) : PyNumber → Numeral
  | int i => Numeral.ofInt i
  | float x => ((readNumeral (floatText x.val).toList).map Prod.fst).getD (Numeral.ofInt 0)

variable {floatText : F64 → String}

theorem Spells.numeral_float (h : Spells floatText) (x : FiniteF64) :
    (PyNumber.numeral floatText (.float x)).isInteger = false ∧ ∀ r, Delimited r →
      readNumeral ((floatText x.val).toList ++ r)
        = some (PyNumber.numeral floatText (.float x), r) := by
  obtain ⟨m, hm, hread⟩ := h x
  have halone := hread [] trivial
  rw [append_nil] at halone
  have hnumeral : PyNumber.numeral floatText (.float x) = m := by
    simp [PyNumber.numeral, halone]
  rw [hnumeral]
  exact ⟨hm, hread⟩

theorem Spells.spelled (h : Spells floatText) :
    Spelled (PyNumber.chars floatText) (PyNumber.numeral floatText) := by
  intro n r hr
  cases n with
  | int i => exact readNumeral_decimalText i hr
  | float x => exact (h.numeral_float x).2 r hr

namespace PyJson

theorem readValue_string (t : String) (depth : Nat) (r : List Char) :
    readValue (depth + 1) (quoted escapeChar t ++ r) = some (.string t, r) := by
  have hsplit : quoted escapeChar t ++ r
      = quote :: (t.toList.flatMap escapeChar ++ quote :: r) := by
    simp [quoted]
  have hskip : skipSpace (quote :: (t.toList.flatMap escapeChar ++ quote :: r))
      = quote :: (t.toList.flatMap escapeChar ++ quote :: r) := rfl
  have hquote : quote ≠ 'n' ∧ quote ≠ 't' ∧ quote ≠ 'f' := by decide
  rw [hsplit, readValue, hskip]
  simp [if_neg hquote.1, if_neg hquote.2.1, if_neg hquote.2.2, readString_quoted]

section

variable {num : PyNumber → List Char} {numeral : PyNumber → Numeral} (hnum : Spelled num numeral)

include hnum

theorem head_chars (d : PyJson) : ∃ c l, chars escapeChar num d = c :: l
    ∧ isJsonSpace c = false ∧ c ≠ ']' := by
  match d with
  | .null => exact ⟨'n', _, rfl, by decide⟩
  | .bool true => exact ⟨'t', _, rfl, by decide⟩
  | .bool false => exact ⟨'f', _, rfl, by decide⟩
  | .number n =>
    have hread := hnum n [] trivial
    rw [append_nil] at hread
    obtain ⟨c, l, hcs, hc⟩ := readNumeral_head hread
    exact ⟨c, l, hcs, (numberStart hc).1, (numberStart hc).2.2.2.2.2.2.2⟩
  | .string t => exact ⟨quote, _, rfl, by decide⟩
  | .array [] => exact ⟨'[', _, rfl, by decide⟩
  | .array (_ :: _) => exact ⟨'[', _, rfl, by decide⟩
  | .object [] => exact ⟨ofNat 123, _, rfl, by decide⟩
  | .object (_ :: _) => exact ⟨ofNat 123, _, rfl, by decide⟩

theorem readValue_number (n : PyNumber) (depth : Nat) {r : List Char} (hr : Delimited r) :
    readValue (depth + 1) (num n ++ r) = some (.number (numeral n), r) := by
  have hread := hnum n r hr
  obtain ⟨c, l, hcs, hc⟩ := readNumeral_head hread
  obtain ⟨hspace, hn, ht, hf, hq, hb, hbrace, -⟩ := numberStart hc
  rw [hcs] at hread ⊢
  have hskip : skipSpace (c :: l) = c :: l := by
    rw [skipSpace, dropWhile_cons, hspace]
    rfl
  rw [readValue, hskip]
  simp [if_neg hn, if_neg ht, if_neg hf, if_neg hq, if_neg hb, if_neg hbrace, hread]

omit hnum in
theorem readEntry_entryChars {read : List Char → Option (Tree × List Char)} {e : String × PyJson}
    (hvalue : ∀ r, Delimited r → read (chars escapeChar num e.2 ++ r) = some (tree numeral e.2, r))
    (r : List Char) (hr : Delimited r) :
    readEntry read (entryChars escapeChar num e ++ r) = some ((e.1, tree numeral e.2), r) := by
  have hsplit : entryChars escapeChar num e ++ r
      = quote :: (e.1.toList.flatMap escapeChar
          ++ quote :: (':' :: (chars escapeChar num e.2 ++ r))) := by
    simp [entryChars, quoted]
  have hquote : expect [quote] (skipSpace (quote :: (e.1.toList.flatMap escapeChar
      ++ quote :: (':' :: (chars escapeChar num e.2 ++ r)))))
      = some (e.1.toList.flatMap escapeChar
          ++ quote :: (':' :: (chars escapeChar num e.2 ++ r))) := rfl
  have hcolon : expect [':'] (skipSpace (':' :: (chars escapeChar num e.2 ++ r)))
      = some (chars escapeChar num e.2 ++ r) := rfl
  rw [hsplit, readEntry, hquote, bind_some, readString_quoted, bind_some, hcolon,
    bind_some, hvalue r hr]
  rfl

variable {depth : Nat}

theorem readValue_array {items : List PyJson}
    (hitem : ∀ v ∈ items, ∀ r, Delimited r →
      readValue (depth + 1) (chars escapeChar num v ++ r) = some (tree numeral v, r))
    (r : List Char) :
    readValue (depth + 2) (chars escapeChar num (.array items) ++ r)
      = some (tree numeral (.array items), r) := by
  have hopen : ∀ cs, readValue (depth + 2) ('[' :: cs)
      = (readSeq? (readValue (depth + 1)) ']' cs).map (fun p => (.array p.1, p.2)) := fun _ => rfl
  cases items with
  | nil => rfl
  | cons v vs =>
    have hsplit : chars escapeChar num (.array (v :: vs)) ++ r
        = '[' :: (chars escapeChar num v ++ (seqTail (chars escapeChar num) ']' vs ++ r)) := by
      rw [chars, itemsTail_eq_seqTail, cons_append, append_assoc]
    rw [hsplit, hopen, readSeq?_seqTail (.inl rfl) v vs r (head_chars hnum v) hitem, tree,
      treeItems_eq_map]
    rfl

omit hnum in
theorem readValue_object {entries : List (String × PyJson)}
    (hvalue : ∀ e ∈ entries, ∀ r, Delimited r →
      readValue (depth + 1) (chars escapeChar num e.2 ++ r) = some (tree numeral e.2, r))
    (r : List Char) :
    readValue (depth + 2) (chars escapeChar num (.object entries) ++ r)
      = some (tree numeral (.object entries), r) := by
  have hopen : ∀ cs, readValue (depth + 2) (ofNat 123 :: cs)
      = (readSeq? (readEntry (readValue (depth + 1))) closeBrace cs).map
          (fun p => (.object p.1, p.2)) := fun _ => rfl
  cases entries with
  | nil => rfl
  | cons e es =>
    have hsplit : chars escapeChar num (.object (e :: es)) ++ r
        = ofNat 123 :: (entryChars escapeChar num e
            ++ (seqTail (entryChars escapeChar num) closeBrace es ++ r)) := by
      rw [chars, entriesTail_eq_seqTail, entryChars]
      simp
    have hhead : ∃ c l, entryChars escapeChar num e = c :: l ∧ isJsonSpace c = false
        ∧ c ≠ closeBrace := ⟨quote, _, rfl, by decide, by decide⟩
    rw [hsplit, hopen, readSeq?_seqTail (.inr rfl) e es r hhead
      (fun e' he' => readEntry_entryChars (hvalue e' he')), tree, treeEntries_eq_map]
    rfl

/-- **The grammar reads the tree of a printed document**, by induction on the number of brackets
that may be open. -/
theorem readValue_chars (depth : Nat) (d : PyJson) (hdepth : d.depth ≤ depth) (r : List Char)
    (hr : Delimited r) :
    readValue (depth + 1) (chars escapeChar num d ++ r) = some (tree numeral d, r) := by
  induction depth generalizing d r with
  | zero =>
    match d, hdepth with
    | .null, _ => rfl
    | .bool true, _ => rfl
    | .bool false, _ => rfl
    | .number n, _ => exact readValue_number hnum n 0 hr
    | .string t, _ => exact readValue_string t 0 r
    | .array items, hdepth => simp [PyJson.depth] at hdepth
    | .object es, hdepth => simp [PyJson.depth] at hdepth
  | succ depth ih =>
    match d, hdepth with
    | .null, _ => rfl
    | .bool true, _ => rfl
    | .bool false, _ => rfl
    | .number n, _ => exact readValue_number hnum n (depth + 1) hr
    | .string t, _ => exact readValue_string t (depth + 1) r
    | .array items, hdepth =>
      have hitems := depthItems_le.mp (le_of_succ_le_succ hdepth)
      exact readValue_array hnum (fun v hv r hr => ih v (hitems v hv) r hr) r
    | .object es, hdepth =>
      have hentries := depthEntries_le.mp (le_of_succ_le_succ hdepth)
      exact readValue_object (fun e he r hr => ih e.2 (hentries e he) r hr) r

variable {d : PyJson}

/-- **The tree of a printed text.** -/
theorem readTree_chars (hdepth : d.depth < recursionLimit) :
    readTree (chars escapeChar num d) = some (tree numeral d) := by
  have hread := readValue_chars hnum 127 d (le_of_lt_succ hdepth) [] trivial
  rw [append_nil] at hread
  rw [readTree, recursionLimit, hread]
  rfl

/-- **A text that is nested too deep is not read.** With enough brackets it would be read as its
tree, so that whatever is read is this tree. -/
theorem depth_lt_of_readTree {t : Tree}
    (h : readTree (chars escapeChar num d) = some t) : d.depth < recursionLimit := by
  obtain ⟨p, hp, -⟩ := bind_eq_some_iff.mp h
  have hlimit : p.1.depth ≤ 127 := depth_of_readValue hp
  have hread := readValue_chars hnum (d.depth + 127) d (by omega) [] trivial
  rw [append_nil, readValue_mono (show recursionLimit ≤ d.depth + 127 + 1 by
    rw [recursionLimit]; omega) hp] at hread
  cases hread
  rw [depth_tree] at hlimit
  exact lt_succ_of_le hlimit

end

end PyJson

end Tarka.Json
