import Tarka.Json.Document
import Tarka.Json.RoundTrip
import Tarka.Json.Writers

/-! # A text of Python read in Rust

What `serde_json::from_str` makes of a document that Python has printed: the same document with its
keys in order and with the numbers that Rust reads for Python's (`toValue_tree_iff`). Printed again
with sorted keys it is the text of one more writer of the same document (`text_received`). That
text is Python's own when the strings of the document are plain and its numbers portable
(`texts_eq_iff`). -/

namespace Tarka.Json

open Tarka.Lib Option Value Dict Tarka.Json.Tree PyNumber Numeral PyJson

namespace PyJson

mutual

def Distinct : PyJson → Prop
  | array items => DistinctItems items
  | object entries => (entries.map Prod.fst).Nodup ∧ DistinctEntries entries
  | _ => True

def DistinctItems : List PyJson → Prop
  | [] => True
  | v :: vs => Distinct v ∧ DistinctItems vs

def DistinctEntries : List (String × PyJson) → Prop
  | [] => True
  | (_, v) :: es => Distinct v ∧ DistinctEntries es

end

theorem distinctItems_iff {vs : List PyJson} : DistinctItems vs ↔ ∀ v ∈ vs, v.Distinct := by
  induction vs with
  | nil => simp [DistinctItems]
  | cons v vs ih => simp [DistinctItems, ih]

variable {es : List (String × PyJson)}

theorem distinctEntries_iff : DistinctEntries es ↔ ∀ e ∈ es, e.2.Distinct := by
  induction es with
  | nil => simp [DistinctEntries]
  | cons e es ih => simp [DistinctEntries, ih]

/-! ## Other numbers -/

section

variable (f : PyNumber → Number)

mutual

def withNumbers : PyJson → Value
  | null => .null
  | bool b => .bool b
  | number n => .number (f n)
  | string s => .string s
  | array items => .array (itemsWithNumbers items)
  | object entries => .object (entriesWithNumbers entries)

def itemsWithNumbers : List PyJson → List Value
  | [] => []
  | v :: vs => withNumbers v :: itemsWithNumbers vs

def entriesWithNumbers : List (String × PyJson) → List (String × Value)
  | [] => []
  | (k, v) :: es => (k, withNumbers v) :: entriesWithNumbers es

end

theorem itemsWithNumbers_eq_map (vs : List PyJson) :
    itemsWithNumbers f vs = vs.map (withNumbers f) := by
  induction vs with
  | nil => rfl
  | cons v vs ih => rw [itemsWithNumbers, ih, List.map_cons]

theorem entriesWithNumbers_eq_map (es : List (String × PyJson)) :
    entriesWithNumbers f es = es.map (fun e => (e.1, withNumbers f e.2)) := by
  induction es with
  | nil => rfl
  | cons e es ih => rw [entriesWithNumbers, ih, List.map_cons]

mutual

theorem withNumbers_sortedBy (le : String → String → Bool) : ∀ d : PyJson,
    (d.withNumbers f).sortedBy le = (d.sortedBy le).withNumbers f
  | null => rfl
  | bool _ => rfl
  | number _ => rfl
  | string _ => rfl
  | array items => congrArg Value.array (itemsWithNumbers_sortedItems le items)
  | object entries => by
    have hsort := List.map_insertionSort (fun a b : String × PyJson => le a.1 b.1 = true)
      (fun a b : String × Value => le a.1 b.1 = true)
      (fun e : String × PyJson => (e.1, withNumbers f e.2)) (sortedEntries le entries)
      (fun _ _ _ _ => Iff.rfl)
    rw [withNumbers, Value.sortedBy, entriesWithNumbers_sortedEntries le entries, sortedBy,
      withNumbers, entriesWithNumbers_eq_map, entriesWithNumbers_eq_map, hsort]
    rfl

theorem itemsWithNumbers_sortedItems (le : String → String → Bool) : ∀ vs : List PyJson,
    Value.sortedItems le (itemsWithNumbers f vs) = itemsWithNumbers f (sortedItems le vs)
  | [] => rfl
  | v :: vs => by
    rw [itemsWithNumbers, Value.sortedItems, withNumbers_sortedBy le v,
      itemsWithNumbers_sortedItems le vs, sortedItems, itemsWithNumbers]

theorem entriesWithNumbers_sortedEntries (le : String → String → Bool) :
    ∀ es : List (String × PyJson),
    Value.sortedEntries le (entriesWithNumbers f es) = entriesWithNumbers f (sortedEntries le es)
  | [] => rfl
  | (k, v) :: es => by
    rw [entriesWithNumbers, Value.sortedEntries, withNumbers_sortedBy le v,
      entriesWithNumbers_sortedEntries le es, sortedEntries, entriesWithNumbers]

end

section

variable (esc : Char → List Char) (floatText : F64 → String)

mutual

theorem jsonChars_withNumbers : ∀ d : PyJson,
    jsonChars esc floatText (d.withNumbers f) = d.chars esc (fun n => numberChars floatText (f n))
  | null => rfl
  | bool true => rfl
  | bool false => rfl
  | number _ => rfl
  | string _ => rfl
  | array [] => rfl
  | array (v :: vs) => by
    rw [withNumbers, itemsWithNumbers, jsonChars, jsonChars_withNumbers v,
      itemsTail_withNumbers vs, chars]
  | object [] => rfl
  | object ((k, v) :: es) => by
    rw [withNumbers, entriesWithNumbers, jsonChars, jsonChars_withNumbers v,
      entriesTail_withNumbers es, chars]

theorem itemsTail_withNumbers : ∀ vs : List PyJson,
    Json.itemsTail esc floatText (itemsWithNumbers f vs)
      = itemsTail esc (fun n => numberChars floatText (f n)) vs
  | [] => rfl
  | v :: vs => by
    rw [itemsWithNumbers, Json.itemsTail, jsonChars_withNumbers v, itemsTail_withNumbers vs,
      itemsTail]

theorem entriesTail_withNumbers : ∀ es : List (String × PyJson),
    Json.entriesTail esc floatText (entriesWithNumbers f es)
      = entriesTail esc (fun n => numberChars floatText (f n)) es
  | [] => rfl
  | (k, v) :: es => by
    rw [entriesWithNumbers, Json.entriesTail, jsonChars_withNumbers v, entriesTail_withNumbers es,
      entriesTail]

end

end

def received (d : PyJson) : Value := (d.withNumbers f).ofDocument

theorem received_array (items : List PyJson) :
    (array items).received f = .array (items.map (received f)) := by
  rw [received, withNumbers, ofDocument_array, itemsWithNumbers_eq_map, List.map_map]
  rfl

def receivedEntries (es : List (String × PyJson)) : List (String × Value) :=
  Value.rustEntries (entriesWithNumbers f es)

theorem keys_entriesWithNumbers (es : List (String × PyJson)) :
    (entriesWithNumbers f es).map Prod.fst = es.map Prod.fst := by
  rw [entriesWithNumbers_eq_map, List.map_map]
  rfl

theorem lookup_receivedEntries (hnd : (es.map Prod.fst).Nodup) (k : String) :
    (receivedEntries f es).lookup k = (es.lookup k).map (received f) := by
  rw [receivedEntries, lookup_rustEntries ((keys_entriesWithNumbers f es).symm ▸ hnd),
    entriesWithNumbers_eq_map, KeyMap.lookup_map, map_map]
  rfl

theorem erase_receivedEntries (hnd : (es.map Prod.fst).Nodup) (k : String) :
    erase (receivedEntries f es) k = receivedEntries f (erase es k) := by
  have hselect := filter_rustEntries ((keys_entriesWithNumbers f es).symm ▸ hnd)
    (fun k' => decide (k' ≠ k))
  rw [receivedEntries, erase, hselect, entriesWithNumbers_eq_map, List.filter_map,
    receivedEntries, entriesWithNumbers_eq_map]
  rfl

end

end PyJson

/-! ## Reading -/

section

variable (s : Serde) (numeral : PyNumber → Numeral)

def Readable (n : PyNumber) : Prop := (s.number (numeral n)).isSome = true

def readNumber (n : PyNumber) : Number := (s.number (numeral n)).getD (.posInt 0)

variable {s numeral}

theorem number_eq_some_iff {n : PyNumber} {m : Number} :
    s.number (numeral n) = some m ↔ Readable s numeral n ∧ m = readNumber s numeral n := by
  unfold Readable readNumber
  cases s.number (numeral n) with
  | none => simp
  | some k => simp [eq_comm]

namespace PyJson

mutual

/-- **What is read of the text of a document**: the document with the numbers that are read and with
its keys in order. -/
theorem toValue_tree_iff : ∀ (d : PyJson) (v : Value), d.Distinct →
    ((d.tree numeral).toValue s = some v
      ↔ d.All (fun _ => True) (Readable s numeral)
        ∧ v = d.received (readNumber s numeral))
  | null, v, _ => by
    show some Value.null = some v ↔ True ∧ v = .null
    simp [eq_comm]
  | bool b, v, _ => by
    show some (Value.bool b) = some v ↔ True ∧ v = .bool b
    simp [eq_comm]
  | string t, v, _ => by
    show some (Value.string t) = some v ↔ True ∧ v = .string t
    simp [eq_comm]
  | number n, v, _ => by
    show (s.number (numeral n)).map Value.number = some v
      ↔ Readable s numeral n ∧ v = .number (readNumber s numeral n)
    rw [map_eq_some_iff]
    constructor
    · rintro ⟨m, hm, rfl⟩
      obtain ⟨hread, rfl⟩ := number_eq_some_iff.mp hm
      exact ⟨hread, rfl⟩
    · rintro ⟨hread, rfl⟩
      exact ⟨_, number_eq_some_iff.mpr ⟨hread, rfl⟩, rfl⟩
  | array items, v, h => by
    show (toItems s (treeItems numeral items)).map Value.array = some v
      ↔ AllItems _ _ items ∧ v = .array (Value.sortedItems byteLe (itemsWithNumbers _ items))
    rw [map_eq_some_iff]
    constructor
    · rintro ⟨vs, hvs, rfl⟩
      obtain ⟨hall, rfl⟩ := (toItems_treeItems_iff items vs h).mp hvs
      exact ⟨hall, rfl⟩
    · rintro ⟨hall, rfl⟩
      exact ⟨_, (toItems_treeItems_iff items _ h).mpr ⟨hall, rfl⟩, rfl⟩
  | object entries, v, h => by
    -- the keys are distinct, so that the ordered map of the entries sorts them
    have hkeys : ((Value.sortedEntries byteLe
        (entriesWithNumbers (readNumber s numeral) entries)).map Prod.fst).Nodup := by
      rw [Value.sortedEntries_eq_map, entriesWithNumbers_eq_map, List.map_map, List.map_map]
      exact h.1
    show (toEntries s (treeEntries numeral entries)).map (fun es => .object (orderedMap es))
        = some v
      ↔ AllEntries _ _ entries ∧ v = .object (Value.sortEntries byteLe
        (Value.sortedEntries byteLe (entriesWithNumbers _ entries)))
    rw [map_eq_some_iff]
    constructor
    · rintro ⟨es, hes, rfl⟩
      obtain ⟨hall, rfl⟩ := (toEntries_treeEntries_iff entries es h.2).mp hes
      rw [orderedMap_eq_sortKeys hkeys]
      exact ⟨hall, rfl⟩
    · rintro ⟨hall, rfl⟩
      refine ⟨_, (toEntries_treeEntries_iff entries _ h.2).mpr ⟨hall, rfl⟩, ?_⟩
      rw [orderedMap_eq_sortKeys hkeys]
      rfl

theorem toItems_treeItems_iff : ∀ (items : List PyJson) (vs : List Value), DistinctItems items →
    (toItems s (treeItems numeral items) = some vs
      ↔ AllItems (fun _ => True) (Readable s numeral) items
        ∧ vs = Value.sortedItems byteLe (itemsWithNumbers (readNumber s numeral) items))
  | [], vs, _ => by
    show some [] = some vs ↔ True ∧ vs = []
    simp [eq_comm]
  | d :: ds, vs, h => by
    rw [treeItems, toItems, bind_eq_some_iff]
    constructor
    · rintro ⟨v, hv, hrest⟩
      obtain ⟨ws, hws, rfl⟩ := map_eq_some_iff.mp hrest
      obtain ⟨hhead, rfl⟩ := (toValue_tree_iff d v h.1).mp hv
      obtain ⟨htail, rfl⟩ := (toItems_treeItems_iff ds ws h.2).mp hws
      exact ⟨⟨hhead, htail⟩, rfl⟩
    · rintro ⟨⟨hhead, htail⟩, rfl⟩
      refine ⟨_, (toValue_tree_iff d _ h.1).mpr ⟨hhead, rfl⟩, ?_⟩
      rw [(toItems_treeItems_iff ds _ h.2).mpr ⟨htail, rfl⟩]
      rfl

theorem toEntries_treeEntries_iff : ∀ (entries : List (String × PyJson))
    (es : List (String × Value)), DistinctEntries entries →
    (toEntries s (treeEntries numeral entries) = some es
      ↔ AllEntries (fun _ => True) (Readable s numeral) entries
        ∧ es = Value.sortedEntries byteLe (entriesWithNumbers (readNumber s numeral) entries))
  | [], es, _ => by
    show some [] = some es ↔ True ∧ es = []
    simp [eq_comm]
  | (k, d) :: ds, es, h => by
    rw [treeEntries, toEntries, bind_eq_some_iff]
    constructor
    · rintro ⟨v, hv, hrest⟩
      obtain ⟨ws, hws, rfl⟩ := map_eq_some_iff.mp hrest
      obtain ⟨hhead, rfl⟩ := (toValue_tree_iff d v h.1).mp hv
      obtain ⟨htail, rfl⟩ := (toEntries_treeEntries_iff ds ws h.2).mp hws
      exact ⟨⟨trivial, hhead, htail⟩, rfl⟩
    · rintro ⟨⟨-, hhead, htail⟩, rfl⟩
      refine ⟨_, (toValue_tree_iff d _ h.1).mpr ⟨hhead, rfl⟩, ?_⟩
      rw [(toEntries_treeEntries_iff ds _ h.2).mpr ⟨htail, rfl⟩]
      rfl

end

end PyJson

end

/-- **A printed document read back**: it is not nested too deep, its numbers are readable, and what
is read is the document with these numbers and ordered keys. -/
theorem fromStr_chars_iff {s : Serde} {num : PyNumber → List Char} {numeral : PyNumber → Numeral}
    (hnum : Spelled num numeral) {d : PyJson} (hd : d.Distinct) (v : Value) :
    s.fromStr (String.ofList (d.chars escapeChar num)) = .ok v
      ↔ d.depth < recursionLimit ∧ d.All (fun _ => True) (Readable s numeral)
        ∧ v = d.received (readNumber s numeral) := by
  rw [Serde.fromStr, String.toList_ofList]
  constructor
  · intro h
    split at h <;> cases h
    next hsome =>
    obtain ⟨t, hread, hvalue⟩ := bind_eq_some_iff.mp hsome
    have hdepth := depth_lt_of_readTree hnum hread
    rw [readTree_chars hnum hdepth] at hread
    cases hread
    exact ⟨hdepth, (toValue_tree_iff d v hd).mp hvalue⟩
  · rintro ⟨hdepth, hvalue⟩
    rw [readTree_chars hnum hdepth, bind_some, (toValue_tree_iff d v hd).mpr hvalue]

/-! ## Printed again -/

def reprinted (s : Serde) (numeral : PyNumber → Numeral) (n : PyNumber) : List Char :=
  numberChars s.floatText (readNumber s numeral n)

theorem spelled_reprinted {s : Serde} (hs : s.Lawful) (numeral : PyNumber → Numeral) :
    Spelled (reprinted s numeral) (fun n => s.numeral (readNumber s numeral n)) := by
  have hspells : Spells s.floatText := hs.spells
  intro n r hr
  rw [reprinted, numberChars_eq]
  dsimp only
  rw [s.numeral_eq]
  exact hspells.spelled _ r hr

theorem text_received (s : Serde) (numeral : PyNumber → Numeral) (d : PyJson) :
    s.text ((d.received (readNumber s numeral)).sortedBy byteLe)
      = String.ofList ((d.sortedBy byteLe).chars escapeChar (reprinted s numeral)) := by
  have hsorted : (d.received (readNumber s numeral)).sortedBy byteLe
      = (d.sortedBy byteLe).withNumbers (readNumber s numeral) :=
    (Value.ofDocument_ofDocument _).trans (withNumbers_sortedBy _ byteLe d)
  rw [hsorted, Serde.text, jsonChars_withNumbers]
  rfl

section

variable (s : Serde) (floatText : F64 → String)

/-- An integer of 64 bits, or a double whose text is read and printed as it is. -/
def PyNumber.portable : PyNumber → Bool
  | int i => decide (-2 ^ 63 ≤ i ∧ i < 2 ^ 64)
  | float x => (s.parseFloat (numeral floatText (.float x))).any
      (fun y => s.floatText y.val == floatText x.val)

variable {s floatText}

theorem decimalText_ne_floatText (hs : s.Lawful) (i : Int) (y : FiniteF64) :
    (decimalText i).toList ≠ (s.floatText y.val).toList := by
  intro h
  have hspells : Spells s.floatText := hs.spells
  obtain ⟨n, hn, hread⟩ := hspells y
  have hint := readNumeral_decimalText i (r := []) trivial
  rw [h, hread [] trivial, Option.some.injEq, Prod.mk.injEq] at hint
  rw [hint.1] at hn
  cases i <;> cases hn

theorem number_ofInt (i : Int) :
    (-2 ^ 63 ≤ i ∧ i < 2 ^ 64 ∧ ∃ m : Number, s.number (ofInt i) = some m ∧ m.toPy = .int i)
      ∨ (¬ (-2 ^ 63 ≤ i ∧ i < 2 ^ 64)
        ∧ s.number (ofInt i) = (s.parseFloat (ofInt i)).map .float) := by
  have hint : (ofInt i).isInteger := by
    cases i <;> rfl
  rw [Serde.number, if_pos hint, toInt_ofInt]
  cases i with
  | ofNat m =>
    have hsign : (ofInt (Int.ofNat m)).negative = false := rfl
    by_cases hm : m < 2 ^ 64
    · refine .inl ⟨by rw [Int.ofNat_eq_natCast]; omega, by rw [Int.ofNat_eq_natCast]; omega, _,
        if_pos ⟨hm, hsign⟩, ?_⟩
      rw [Number.toPy, UInt64.toNat_ofNat_of_lt' hm]
      rfl
    · exact .inr ⟨by rw [Int.ofNat_eq_natCast]; omega, if_neg (fun h => hm h.1)⟩
  | negSucc m =>
    by_cases hm : m < 2 ^ 63
    · exact .inl ⟨by omega, by omega, _, dif_pos hm, rfl⟩
    · exact .inr ⟨by omega, dif_neg hm⟩

/-- **Portable numbers** are read, and printed as Python prints them. -/
theorem portable_iff (hs : s.Lawful) (hfloat : Spells floatText) (n : PyNumber) :
    n.portable s floatText
      ↔ Readable s (numeral floatText) n
        ∧ n.chars floatText = reprinted s (numeral floatText) n := by
  unfold reprinted Readable readNumber
  cases n with
  | int i =>
    have hnumeral : numeral floatText (.int i) = ofInt i := rfl
    rw [portable, decide_eq_true_eq, hnumeral]
    rcases number_ofInt (s := s) i with ⟨hlow, hhigh, m, hm, hpy⟩ | ⟨hrange, hnumber⟩
    · rw [hm]
      refine iff_of_true ⟨hlow, hhigh⟩ ⟨rfl, ?_⟩
      rw [getD_some, numberChars_eq, hpy]
      rfl
    · refine iff_of_false hrange ?_
      rintro ⟨hsome, hchars⟩
      rw [hnumber] at hsome hchars
      cases hparse : s.parseFloat (ofInt i) with
      | none => simp [hparse] at hsome
      | some y =>
        rw [hparse] at hchars
        exact decimalText_ne_floatText hs i y hchars
  | float x =>
    have hnumber : s.number (numeral floatText (.float x))
        = (s.parseFloat (numeral floatText (.float x))).map .float := by
      rw [Serde.number, if_neg (by simp [(hfloat.numeral_float x).1])]
    rw [portable, hnumber]
    cases s.parseFloat (numeral floatText (.float x)) with
    | none => simp
    | some y =>
      have htexts : (s.floatText y.val == floatText x.val)
          ↔ (floatText x.val).toList = (s.floatText y.val).toList := by
        rw [beq_iff_eq, String.toList_inj, eq_comm]
      rw [any_some, htexts]
      exact ⟨fun h => ⟨rfl, h⟩, fun h => h.2⟩

/-- **One text in both languages**: Rust reads the numbers of a document and prints Python's
canonical text of it exactly when the strings are plain and the numbers portable. -/
theorem texts_eq_iff (hs : s.Lawful) (hfloat : Spells floatText) (d : PyJson) :
    d.All (fun _ => True) (Readable s (numeral floatText))
        ∧ (d.sortedBy codePointLe).chars escapeAscii (chars floatText)
          = (d.sortedBy byteLe).chars escapeChar (reprinted s (numeral floatText))
      ↔ d.All (fun t => plainText t) (fun n => n.portable s floatText) := by
  have hcomparable := comparable_of_spelled hfloat.spelled
    (spelled_reprinted hs (numeral floatText))
  rw [byteLe_eq_codePointLe, chars_eq_iff hcomparable, all_sortedBy, ← all_and]
  simp [portable_iff hs hfloat]

end

end Tarka.Json
