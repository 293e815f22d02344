import Tarka.Json.Python

/-! # JSON texts

The compact texts of `serde_json` and of `json.dumps` with `separators=(",", ":")` differ only in
how a double is written and in which characters of a string are escaped, so there is one printer
with the two as parameters.

Python compares values by their texts with sorted keys. `pyDumpsSorted_inj` says what such a
comparison decides: the values are the same once their keys are in order. The text of a value is
read from the left, and what follows it starts with a delimiter. -/

namespace Tarka.Json

open Tarka.Lib List Value Option Function Char

/-! ## Escapes -/

def quote : Char := Char.ofNat 34

def backslash : Char := Char.ofNat 92

def shortEscape : Nat → Option Char
  | 34 => some quote
  | 92 => some backslash
  | 8 => some 'b'
  | 9 => some 't'
  | 10 => some 'n'
  | 12 => some 'f'
  | 13 => some 'r'
  | _ => none

def hexDigits4 (n : Nat) : List Char :=
  [Nat.digitChar (n / 4096 % 16), Nat.digitChar (n / 256 % 16), Nat.digitChar (n / 16 % 16),
    Nat.digitChar (n % 16)]

/-- The escape of `serde_json`, and of `json.dumps` with `ensure_ascii=False`. -/
def escapeChar (c : Char) : List Char :=
  match shortEscape c.toNat with
  | some e => [backslash, e]
  | none => if c.toNat < 0x20 then backslash :: 'u' :: hexDigits4 c.toNat else [c]

/-- The escape of `json.dumps` by default: only printable ASCII is left alone, and a code point
beyond 16 bits becomes a surrogate pair. -/
def escapeAscii (c : Char) : List Char :=
  match shortEscape c.toNat with
  | some e => [backslash, e]
  | none =>
    if 0x20 ≤ c.toNat ∧ c.toNat ≤ 0x7e then [c]
    else if c.toNat < 0x10000 then backslash :: 'u' :: hexDigits4 c.toNat
    else
      backslash :: 'u' :: hexDigits4 (0xD800 + (c.toNat - 0x10000) / 0x400)
        ++ backslash :: 'u' :: hexDigits4 (0xDC00 + (c.toNat - 0x10000) % 0x400)

def quoted (esc : Char → List Char) (s : String) : List Char :=
  quote :: (s.toList.flatMap esc ++ [quote])

/-! ## The printer -/

section

variable (esc : Char → List Char) (floatText : F64 → String)

def numberChars : Number → List Char
  | .posInt n => (decimalText n.toNat).toList
  | .negInt k => (decimalText (Int.negSucc k.val)).toList
  | .float x => (floatText x.val).toList

mutual

def jsonChars : Value → List Char
  | .null => "null".toList
  | .bool true => "true".toList
  | .bool false => "false".toList
  | .number n => numberChars floatText n
  | .string s => quoted esc s
  | .array [] => ['[', ']']
  | .array (v :: vs) => '[' :: (jsonChars v ++ itemsTail vs)
  | .object [] => [Char.ofNat 123, Char.ofNat 125]
  | .object ((k, v) :: es) =>
    Char.ofNat 123 :: (quoted esc k ++ ':' :: (jsonChars v ++ entriesTail es))

def itemsTail : List Value → List Char
  | [] => [']']
  | v :: vs => ',' :: (jsonChars v ++ itemsTail vs)

def entriesTail : List (String × Value) → List Char
  | [] => [Char.ofNat 125]
  | (k, v) :: es => ',' :: (quoted esc k ++ ':' :: (jsonChars v ++ entriesTail es))

end

end

/-! ## Sorted keys -/

namespace Value

def sortEntries (le : String → String → Bool) (es : List (String × Value)) :
    List (String × Value) :=
  es.insertionSort (fun a b => le a.1 b.1 = true)

mutual

def sortedBy (le : String → String → Bool) : Value → Value
  | array items => array (sortedItems le items)
  | object entries => object (sortEntries le (sortedEntries le entries))
  | null => null
  | bool b => bool b
  | number n => number n
  | string s => string s

def sortedItems (le : String → String → Bool) : List Value → List Value
  | [] => []
  | v :: vs => sortedBy le v :: sortedItems le vs

def sortedEntries (le : String → String → Bool) : List (String × Value) → List (String × Value)
  | [] => []
  | (k, v) :: es => (k, sortedBy le v) :: sortedEntries le es

end

/-- A document as the Rust engines read it: their maps are ordered by the bytes of the keys. -/
def ofDocument (v : Value) : Value := v.sortedBy byteLe

end Value

/-- `json.dumps` with sorted keys and the default escapes. -/
def pyDumpsSorted (t : PyText) (v : Value) : List Char :=
  jsonChars escapeAscii t.reprFloat (v.sortedBy codePointLe)

/-- `json.dumps` with `ensure_ascii=False`, keys as they come. -/
def pyDumps (t : PyText) (v : Value) : List Char := jsonChars escapeChar t.reprFloat v

/-! ## Strings are self-delimiting -/

def hexValue (c : Char) : Nat := if c.toNat < 58 then c.toNat - 48 else c.toNat - 87

def readHex4 : List Char → Option (Nat × List Char)
  | a :: b :: c :: d :: r =>
    some (((hexValue a * 16 + hexValue b) * 16 + hexValue c) * 16 + hexValue d, r)
  | _ => none

variable {n : Nat}

theorem hexValue_digitChar (h : n < 16) : hexValue (Nat.digitChar n) = n := by
  interval_cases n <;> decide

theorem readHex4_hexDigits4 (h : n < 0x10000) (r : List Char) :
    readHex4 (hexDigits4 n ++ r) = some (n, r) := by
  simp only [hexDigits4, cons_append, nil_append, readHex4]
  rw [hexValue_digitChar (by omega), hexValue_digitChar (by omega), hexValue_digitChar (by omega),
    hexValue_digitChar (by omega)]
  congr 2
  omega

def shortUnescape (e : Char) : Char :=
  if e = 'b' then Char.ofNat 8
  else if e = 't' then Char.ofNat 9
  else if e = 'n' then Char.ofNat 10
  else if e = 'f' then Char.ofNat 12
  else if e = 'r' then Char.ofNat 13
  else e

def unescapeAscii : List Char → Option (Char × List Char)
  | [] => none
  | c :: r =>
    if c ≠ backslash then some (c, r)
    else
      match r with
      | [] => none
      | e :: r =>
        if e ≠ 'u' then some (shortUnescape e, r)
        else (readHex4 r).bind (fun p =>
          if 0xD800 ≤ p.1 ∧ p.1 < 0xE000 then
            (readHex4 (p.2.drop 2)).map (fun q =>
              (Char.ofNat (0x10000 + (p.1 - 0xD800) * 0x400 + (q.1 - 0xDC00)), q.2))
          else some (Char.ofNat p.1, p.2))

theorem toNat_lt_or (c : Char) : c.toNat < 0xD800 ∨ 0xE000 ≤ c.toNat ∧ c.toNat < 0x110000 := by
  have h := c.valid
  have hc : c.toNat = c.val.toNat := rfl
  rcases h with h | ⟨h₁, h₂⟩
  · exact .inl (by omega)
  · exact .inr ⟨by omega, by omega⟩

theorem shortEscape_eq_some {e : Char} (h : shortEscape n = some e) :
    e ≠ 'u' ∧ shortUnescape e = ofNat n := by
  unfold shortEscape at h
  split at h <;> cases h <;> decide

theorem unescapeAscii_short {e : Char} (he : e ≠ 'u') (r : List Char) :
    unescapeAscii (backslash :: e :: r) = some (shortUnescape e, r) := by
  simp [unescapeAscii, he]

theorem unescapeAscii_unit (h : n < 0xD800 ∨ 0xE000 ≤ n ∧ n < 0x10000) (r : List Char) :
    unescapeAscii (backslash :: 'u' :: (hexDigits4 n ++ r)) = some (ofNat n, r) := by
  have hno : ¬ (0xD800 ≤ n ∧ n < 0xE000) := by omega
  simp [unescapeAscii, readHex4_hexDigits4 (by omega : n < 0x10000), if_neg hno]

theorem unescapeAscii_pair {m : Nat} (hm : m < 0x400) (hn : n < 0x400) (r : List Char) :
    unescapeAscii (backslash :: 'u' :: (hexDigits4 (0xD800 + m)
        ++ backslash :: 'u' :: (hexDigits4 (0xDC00 + n) ++ r)))
      = some (ofNat (0x10000 + m * 0x400 + n), r) := by
  have hhigh : 0xD800 ≤ 0xD800 + m ∧ 0xD800 + m < 0xE000 := by omega
  simp only [unescapeAscii, ne_eq, not_true_eq_false, if_false,
    readHex4_hexDigits4 (by omega : 0xD800 + m < 0x10000), bind_some, if_pos hhigh,
    drop_succ_cons, drop_zero, readHex4_hexDigits4 (by omega : 0xDC00 + n < 0x10000),
    map_some, Nat.add_sub_cancel_left]

/-- **Reading back one character.** -/
theorem unescapeAscii_escapeAscii (c : Char) (r : List Char) :
    unescapeAscii (escapeAscii c ++ r) = some (c, r) := by
  unfold escapeAscii
  cases hshort : shortEscape c.toNat with
  | some e =>
    obtain ⟨he, hback⟩ := shortEscape_eq_some hshort
    show unescapeAscii (backslash :: e :: r) = some (c, r)
    rw [unescapeAscii_short he, hback, ofNat_toNat]
  | none =>
    by_cases hprint : 0x20 ≤ c.toNat ∧ c.toNat ≤ 0x7e
    · have hc : c ≠ backslash := by
        rintro rfl
        exact absurd hshort (by decide)
      simp [if_pos hprint, unescapeAscii, hc]
    · by_cases hunit : c.toNat < 0x10000
      · have hrange : c.toNat < 0xD800 ∨ 0xE000 ≤ c.toNat ∧ c.toNat < 0x10000 := by
          have hc := toNat_lt_or c
          omega
        simp [if_neg hprint, if_pos hunit, unescapeAscii_unit hrange]
      · have hmax : c.toNat < 0x110000 := by
          have hc := toNat_lt_or c
          omega
        have hsplit : 0x10000 + (c.toNat - 0x10000) / 0x400 * 0x400 + (c.toNat - 0x10000) % 0x400
            = c.toNat := by omega
        simp only [if_neg hprint, if_neg hunit, cons_append, append_assoc]
        rw [unescapeAscii_pair (by omega) (by omega), hsplit, ofNat_toNat]

theorem head_escapeAscii (c : Char) : ∃ x l, escapeAscii c = x :: l ∧ x ≠ quote := by
  unfold escapeAscii
  cases hshort : shortEscape c.toNat with
  | some e => exact ⟨_, _, rfl, by decide⟩
  | none =>
    have hc : c ≠ quote := by
      rintro rfl
      exact absurd hshort (by decide)
    split_ifs
    · exact ⟨_, _, rfl, hc⟩
    · exact ⟨_, _, rfl, by decide⟩
    · exact ⟨_, _, rfl, by decide⟩

theorem flatMap_escapeAscii_cancel : ∀ (cs ds : List Char) (r s : List Char),
    cs.flatMap escapeAscii ++ quote :: r = ds.flatMap escapeAscii ++ quote :: s → cs = ds ∧ r = s
  | [], [], r, s, h => by
    simp only [flatMap_nil, nil_append, cons.injEq, true_and] at h
    exact ⟨rfl, h⟩
  | [], d :: ds, r, s, h => by
    obtain ⟨x, l, hd, hx⟩ := head_escapeAscii d
    simp only [flatMap_nil, nil_append, flatMap_cons, hd, cons_append, cons.injEq] at h
    exact absurd h.1.symm hx
  | c :: cs, [], r, s, h => by
    obtain ⟨x, l, hc, hx⟩ := head_escapeAscii c
    simp only [flatMap_nil, nil_append, flatMap_cons, hc, cons_append, cons.injEq] at h
    exact absurd h.1 hx
  | c :: cs, d :: ds, r, s, h => by
    simp only [flatMap_cons, append_assoc] at h
    have hfront := congrArg unescapeAscii h
    rw [unescapeAscii_escapeAscii, unescapeAscii_escapeAscii, some.injEq, Prod.mk.injEq] at hfront
    obtain ⟨rfl, hrest⟩ := flatMap_escapeAscii_cancel cs ds r s hfront.2
    exact ⟨by rw [hfront.1], hrest⟩

variable {r s : List Char}

/-- **A quoted string knows where it ends.** -/
theorem quoted_cancel {a b : String} (h : quoted escapeAscii a ++ r = quoted escapeAscii b ++ s) :
    a = b ∧ r = s := by
  simp only [quoted, cons_append, append_assoc, nil_append, cons.injEq, true_and] at h
  obtain ⟨hab, hrs⟩ := flatMap_escapeAscii_cancel _ _ _ _ h
  exact ⟨String.toList_injective hab, hrs⟩

/-! ## Numbers end at a delimiter -/

def isNumberChar (c : Char) : Bool := c.isDigit || c == '-' || c == '+' || c == '.' || c == 'e'

def endsHere : List Char → Bool
  | [] => true
  | c :: _ => !isNumberChar c

/-- What `repr` guarantees about finite doubles: it is written with the characters of a number,
does not look like an integer, and reads back as the same double. -/
structure PyText.Lawful (t : PyText) : Prop where
  numeric : ∀ x : FiniteF64, ∀ c ∈ (t.reprFloat x.val).toList, isNumberChar c = true
  notInteger : ∀ x : FiniteF64, '.' ∈ (t.reprFloat x.val).toList ∨ 'e' ∈ (t.reprFloat x.val).toList
  injective : ∀ x y : FiniteF64, t.reprFloat x.val = t.reprFloat y.val → x = y

theorem number_cancel {l l' r' : List Char} (hl : ∀ c ∈ l, isNumberChar c)
    (hl' : ∀ c ∈ l', isNumberChar c) (hr : endsHere r) (hr' : endsHere r')
    (h : l ++ r = l' ++ r') : l = l' ∧ r = r' := by
  have hstop : ∀ {r : List Char}, endsHere r → ∀ c ∈ r.head?, isNumberChar c = false := by
    intro r hr c hc
    cases r with
    | nil => cases hc
    | cons d r =>
      cases hc
      simpa [endsHere] using hr
  exact append_inj_of_stop hl hl' (hstop hr) (hstop hr') h

variable {c : Char}

theorem isDigit_of_mem_repr (h : c ∈ (Nat.repr n).toList) : c.isDigit = true := by
  rw [Nat.repr, String.toList_ofList] at h
  exact Nat.isDigit_of_mem_toDigits (by decide) (by decide) h

theorem repr_injective : Injective Nat.repr := by
  intro m n h
  have hdigits : Nat.toDigits 10 m = Nat.toDigits 10 n := by
    simpa using congrArg String.toList h
  rw [← Nat.ofDigitChars_toDigits (b := 10) (n := m) (by decide) (by decide), hdigits,
    Nat.ofDigitChars_toDigits (by decide) (by decide)]

theorem mem_decimalText {i : Int} (h : c ∈ (decimalText i).toList) : c.isDigit ∨ c = '-' := by
  cases i with
  | ofNat n => exact Or.inl (isDigit_of_mem_repr h)
  | negSucc n =>
    simp only [decimalText, String.toList_append, mem_append] at h
    rcases h with h | h
    · exact .inr (by simpa using h)
    · exact .inl (isDigit_of_mem_repr h)

theorem decimalText_injective : Injective decimalText := by
  -- a minus sign is not a digit
  have hmixed : ∀ m n : Nat, Nat.repr m ≠ "-" ++ Nat.repr n := by
    intro m n h
    have hmem : '-' ∈ (Nat.repr m).toList := by
      rw [h]
      simp
    exact absurd (isDigit_of_mem_repr hmem) (by decide)
  intro i j h
  cases i with
  | ofNat m =>
    cases j with
    | ofNat n => rw [repr_injective h]
    | negSucc n => exact absurd h (hmixed m (n + 1))
  | negSucc m =>
    cases j with
    | ofNat n => exact absurd h.symm (hmixed n (m + 1))
    | negSucc n =>
      have hrepr : Nat.repr (m + 1) = Nat.repr (n + 1) := by
        apply String.toList_injective
        have hlist := congrArg String.toList h
        simp only [decimalText, String.toList_append] at hlist
        exact append_cancel_left hlist
      have hmn := repr_injective hrepr
      rw [Nat.succ_injective hmn]

section

variable {t : PyText} (ht : t.Lawful)

include ht

theorem isNumberChar_of_mem {n : Number} (h : c ∈ numberChars t.reprFloat n) :
    isNumberChar c = true := by
  have hint : ∀ {i : Int}, c ∈ (decimalText i).toList → isNumberChar c := by
    intro i hi
    rcases mem_decimalText hi with hd | rfl
    · simp [isNumberChar, hd]
    · decide
  cases n with
  | posInt n => exact hint h
  | negInt k => exact hint h
  | float x => exact ht.numeric x c h

theorem numberChars_ne_float {i : Int} {x : FiniteF64} :
    (decimalText i).toList ≠ (t.reprFloat x.val).toList := by
  intro h
  rcases ht.notInteger x with hmem | hmem <;> rw [← h] at hmem <;>
    rcases mem_decimalText hmem with hc | hc <;> exact absurd hc (by decide)

theorem numberChars_injective : Injective (numberChars t.reprFloat) := by
  have hint : ∀ {i j : Int}, (decimalText i).toList = (decimalText j).toList → i = j :=
    fun h => decimalText_injective (String.toList_injective h)
  intro m n h
  cases m with
  | posInt a =>
    cases n with
    | posInt b => rw [UInt64.toNat_inj.mp (Int.ofNat_inj.mp (hint h))]
    | negInt k => exact absurd (hint h) (by simp)
    | float x => exact absurd h (numberChars_ne_float ht)
  | negInt k =>
    cases n with
    | posInt b => exact absurd (hint h) (by simp)
    | negInt k' => rw [Fin.ext (Int.negSucc_inj.mp (hint h))]
    | float x => exact absurd h (numberChars_ne_float ht)
  | float x =>
    cases n with
    | posInt b => exact absurd h.symm (numberChars_ne_float ht)
    | negInt k => exact absurd h.symm (numberChars_ne_float ht)
    | float y => rw [ht.injective x y (String.toList_injective h)]

end

/-! ## Values -/

def kindOfChar (c : Char) : Nat :=
  if c = 'n' then 0
  else if c = 't' then 1
  else if c = 'f' then 2
  else if c = quote then 3
  else if c = '[' then 4
  else if c = Char.ofNat 123 then 5
  else if isNumberChar c then 6
  else 7

def Value.kind : Value → Nat
  | null => 0
  | bool true => 1
  | bool false => 2
  | string _ => 3
  | array _ => 4
  | object _ => 5
  | number _ => 6

namespace Value

variable {w : Value}

theorem null_of_kind (h : 0 = w.kind) : w = null := by
  rcases w with _ | (_ | _) | _ | _ | _ | _ <;> first | rfl | cases h

theorem bool_of_kind {b : Bool} (h : (bool b).kind = w.kind) : w = bool b := by
  cases b <;> rcases w with _ | (_ | _) | _ | _ | _ | _ <;> first | rfl | cases h

theorem number_of_kind (h : 6 = w.kind) : ∃ n, w = number n := by
  rcases w with _ | (_ | _) | n | _ | _ | _ <;> first | exact ⟨n, rfl⟩ | cases h

theorem string_of_kind (h : 3 = w.kind) : ∃ s, w = string s := by
  rcases w with _ | (_ | _) | _ | s | _ | _ <;> first | exact ⟨s, rfl⟩ | cases h

theorem array_of_kind (h : 4 = w.kind) : ∃ ws, w = array ws := by
  rcases w with _ | (_ | _) | _ | _ | ws | _ <;> first | exact ⟨ws, rfl⟩ | cases h

theorem object_of_kind (h : 5 = w.kind) : ∃ es, w = object es := by
  rcases w with _ | (_ | _) | _ | _ | _ | es <;> first | exact ⟨es, rfl⟩ | cases h

end Value

variable {esc : Char → List Char} {floatText : F64 → String}

theorem endsHere_itemsTail (vs : List Value)
    (r : List Char) : endsHere (itemsTail esc floatText vs ++ r) = true := by
  cases vs <;> rfl

theorem endsHere_entriesTail (es : List (String × Value)) (r : List Char) :
    endsHere (entriesTail esc floatText es ++ r) = true := by
  cases es <;> rfl

variable {v : Value}

section

variable {t : PyText} (ht : t.Lawful)

include ht

theorem kindOfChar_number {n : Number} :
    ∃ c l, numberChars t.reprFloat n = c :: l ∧ kindOfChar c = 6 := by
  have hne : numberChars t.reprFloat n ≠ [] := by
    intro hnil
    cases n with
    | posInt a =>
      have hempty : Nat.repr a.toNat = "" := String.toList_injective hnil
      exact Nat.repr_ne_empty hempty
    | negInt k => simp [numberChars, decimalText] at hnil
    | float x => rcases ht.notInteger x with h | h <;> simp_all [numberChars]
  obtain ⟨c, l, hcl⟩ := exists_cons_of_ne_nil hne
  refine ⟨c, l, hcl, ?_⟩
  have hc : isNumberChar c := isNumberChar_of_mem ht (by rw [hcl]; simp)
  have hother : ∀ d, isNumberChar d = false → c ≠ d := by
    rintro d hd rfl
    rw [hd] at hc
    cases hc
  rw [kindOfChar, if_neg (hother _ rfl), if_neg (hother _ rfl), if_neg (hother _ rfl),
    if_neg (hother _ rfl), if_neg (hother _ rfl), if_neg (hother _ rfl), if_pos hc]

theorem kindOfChar_jsonChars (v : Value) :
    ∃ c l, jsonChars escapeAscii t.reprFloat v = c :: l ∧ kindOfChar c = v.kind := by
  match v with
  | .null => exact ⟨_, _, rfl, rfl⟩
  | .bool true => exact ⟨_, _, rfl, rfl⟩
  | .bool false => exact ⟨_, _, rfl, rfl⟩
  | .number n => exact kindOfChar_number ht
  | .string s => exact ⟨_, _, rfl, rfl⟩
  | .array [] => exact ⟨_, _, rfl, rfl⟩
  | .array (_ :: _) => exact ⟨_, _, rfl, rfl⟩
  | .object [] => exact ⟨_, _, rfl, rfl⟩
  | .object ((_, _) :: _) => exact ⟨_, _, rfl, rfl⟩

variable {w : Value}

theorem kind_eq
    (h : jsonChars escapeAscii t.reprFloat v ++ r = jsonChars escapeAscii t.reprFloat w ++ s) :
    v.kind = w.kind := by
  obtain ⟨c, l, hv, hkv⟩ := kindOfChar_jsonChars ht v
  obtain ⟨d, l', hw, hkw⟩ := kindOfChar_jsonChars ht w
  have hcd : c = d := by
    rw [hv, hw] at h
    exact (cons.inj h).1
  rw [← hkv, ← hkw, hcd]

theorem jsonChars_ne_bracket : ']' :: r ≠ jsonChars escapeAscii t.reprFloat v ++ s := by
  intro h
  obtain ⟨c, l, hv, hk⟩ := kindOfChar_jsonChars ht v
  rw [hv] at h
  have hc : c = ']' := (cons.inj h).1.symm
  have h7 : v.kind = 7 := by
    rw [← hk, hc]
    decide
  rcases v with _ | (_ | _) | _ | _ | _ | _ <;> cases h7

end

section

variable {t : PyText} {w : Value}

mutual

/-- **The text of a value determines it**, up to the delimiter that follows. -/
theorem jsonChars_cancel (ht : t.Lawful) : ∀ (v w : Value) (r s : List Char),
    endsHere r → endsHere s →
    jsonChars escapeAscii t.reprFloat v ++ r = jsonChars escapeAscii t.reprFloat w ++ s →
      v = w ∧ r = s
  | .null, w, r, s, _, _, h => by
    obtain rfl := null_of_kind (kind_eq ht h)
    exact ⟨rfl, append_cancel_left h⟩
  | .bool true, w, r, s, _, _, h => by
    obtain rfl := bool_of_kind (kind_eq ht h)
    exact ⟨rfl, append_cancel_left h⟩
  | .bool false, w, r, s, _, _, h => by
    obtain rfl := bool_of_kind (kind_eq ht h)
    exact ⟨rfl, append_cancel_left h⟩
  | .number n, w, r, s, hr, hs, h => by
    obtain ⟨m, rfl⟩ := number_of_kind (kind_eq ht h)
    simp only [jsonChars] at h
    obtain ⟨hnum, hrest⟩ := number_cancel (fun c => isNumberChar_of_mem ht)
      (fun c => isNumberChar_of_mem ht) hr hs h
    exact ⟨by rw [numberChars_injective ht hnum], hrest⟩
  | .string a, w, r, s, _, _, h => by
    obtain ⟨b, rfl⟩ := string_of_kind (kind_eq ht h)
    simp only [jsonChars] at h
    obtain ⟨rfl, hrest⟩ := quoted_cancel h
    exact ⟨rfl, hrest⟩
  | .array [], w, r, s, _, _, h => by
    obtain ⟨ws, rfl⟩ := array_of_kind (kind_eq ht h)
    cases ws with
    | nil => exact ⟨rfl, append_cancel_left h⟩
    | cons w ws =>
      simp only [jsonChars, cons_append, nil_append, append_assoc, cons.injEq, true_and] at h
      exact absurd h (jsonChars_ne_bracket ht)
  | .array (v :: vs), w, r, s, _, _, h => by
    obtain ⟨ws, rfl⟩ := array_of_kind (kind_eq ht h)
    cases ws with
    | nil =>
      simp only [jsonChars, cons_append, nil_append, append_assoc, cons.injEq, true_and] at h
      exact absurd h.symm (jsonChars_ne_bracket ht)
    | cons w ws =>
      simp only [jsonChars, cons_append, append_assoc, cons.injEq, true_and] at h
      obtain ⟨rfl, htail⟩ := jsonChars_cancel ht v w _ _ (endsHere_itemsTail ..)
        (endsHere_itemsTail ..) h
      obtain ⟨rfl, hrest⟩ := itemsTail_cancel ht vs ws r s htail
      exact ⟨rfl, hrest⟩
  | .object [], w, r, s, _, _, h => by
    obtain ⟨es, rfl⟩ := object_of_kind (kind_eq ht h)
    match es with
    | [] => exact ⟨rfl, append_cancel_left h⟩
    | (k, w) :: es =>
      simp only [jsonChars, quoted, cons_append, cons.injEq, true_and] at h
      exact absurd h.1 (by decide)
  | .object ((k, v) :: es), w, r, s, _, _, h => by
    obtain ⟨fs, rfl⟩ := object_of_kind (kind_eq ht h)
    match fs with
    | [] =>
      simp only [jsonChars, quoted, cons_append, cons.injEq, true_and] at h
      exact absurd h.1 (by decide)
    | (k', w) :: fs =>
      simp only [jsonChars, cons_append, append_assoc, cons.injEq, true_and] at h
      obtain ⟨rfl, hcolon⟩ := quoted_cancel h
      obtain ⟨rfl, htail⟩ := jsonChars_cancel ht v w _ _ (endsHere_entriesTail ..)
        (endsHere_entriesTail ..) (cons.inj hcolon).2
      obtain ⟨rfl, hrest⟩ := entriesTail_cancel ht es fs r s htail
      exact ⟨rfl, hrest⟩

theorem itemsTail_cancel (ht : t.Lawful) : ∀ (vs ws : List Value) (r s : List Char),
    itemsTail escapeAscii t.reprFloat vs ++ r = itemsTail escapeAscii t.reprFloat ws ++ s →
      vs = ws ∧ r = s
  | [], [], r, s, h => ⟨rfl, append_cancel_left h⟩
  | [], w :: ws, r, s, h => by
    simp only [itemsTail, cons_append, cons.injEq] at h
    exact absurd h.1 (by decide)
  | v :: vs, [], r, s, h => by
    simp only [itemsTail, cons_append, cons.injEq] at h
    exact absurd h.1 (by decide)
  | v :: vs, w :: ws, r, s, h => by
    simp only [itemsTail, cons_append, append_assoc, cons.injEq, true_and] at h
    obtain ⟨rfl, htail⟩ := jsonChars_cancel ht v w _ _ (endsHere_itemsTail ..)
      (endsHere_itemsTail ..) h
    obtain ⟨rfl, hrest⟩ := itemsTail_cancel ht vs ws r s htail
    exact ⟨rfl, hrest⟩

theorem entriesTail_cancel (ht : t.Lawful) : ∀ (es fs : List (String × Value)) (r s : List Char),
    entriesTail escapeAscii t.reprFloat es ++ r = entriesTail escapeAscii t.reprFloat fs ++ s →
      es = fs ∧ r = s
  | [], [], r, s, h => ⟨rfl, append_cancel_left h⟩
  | [], (k, w) :: fs, r, s, h => by
    simp only [entriesTail, cons_append, cons.injEq] at h
    exact absurd h.1 (by decide)
  | (k, v) :: es, [], r, s, h => by
    simp only [entriesTail, cons_append, cons.injEq] at h
    exact absurd h.1 (by decide)
  | (k, v) :: es, (k', w) :: fs, r, s, h => by
    simp only [entriesTail, cons_append, append_assoc, cons.injEq, true_and] at h
    obtain ⟨rfl, hcolon⟩ := quoted_cancel h
    obtain ⟨rfl, htail⟩ := jsonChars_cancel ht v w _ _ (endsHere_entriesTail ..)
      (endsHere_entriesTail ..) (cons.inj hcolon).2
    obtain ⟨rfl, hrest⟩ := entriesTail_cancel ht es fs r s htail
    exact ⟨rfl, hrest⟩

end

/-- **What Python's comparison of texts decides**: the values are the same once their keys are
in order. -/
theorem pyDumpsSorted_inj (ht : t.Lawful) :
    pyDumpsSorted t v = pyDumpsSorted t w ↔ v.ofDocument = w.ofDocument := by
  unfold pyDumpsSorted ofDocument
  rw [byteLe_eq_codePointLe]
  constructor
  · intro h
    refine (jsonChars_cancel ht _ _ [] [] rfl rfl ?_).1
    rw [h]
  · intro h
    rw [h]

end

/-! ## Texts with other doubles, values with other key orders -/

mutual

variable {f g : F64 → String}

theorem jsonChars_congr : ∀ v : Value,
    v.allFloats (fun x => f x == g x) → jsonChars esc f v = jsonChars esc g v
  | .null, _ => rfl
  | .bool true, _ => rfl
  | .bool false, _ => rfl
  | .number (.posInt _), _ => rfl
  | .number (.negInt _), _ => rfl
  | .number (.float x), h => by
    have hx : f x.val = g x.val := by simpa [allFloats] using h
    simp [jsonChars, numberChars, hx]
  | .string _, _ => rfl
  | .array [], _ => rfl
  | .array (v :: vs), h => by
    simp only [allFloats, allFloatsItems, Bool.and_eq_true] at h
    rw [jsonChars, jsonChars, jsonChars_congr v h.1, itemsTail_congr vs h.2]
  | .object [], _ => rfl
  | .object ((k, v) :: es), h => by
    simp only [allFloats, allFloatsEntries, Bool.and_eq_true] at h
    rw [jsonChars, jsonChars, jsonChars_congr v h.1, entriesTail_congr es h.2]

theorem itemsTail_congr : ∀ vs : List Value,
    allFloatsItems (fun x => f x == g x) vs → itemsTail esc f vs = itemsTail esc g vs
  | [], _ => rfl
  | v :: vs, h => by
    simp only [allFloatsItems, Bool.and_eq_true] at h
    rw [itemsTail, itemsTail, jsonChars_congr v h.1, itemsTail_congr vs h.2]

theorem entriesTail_congr :
    ∀ es : List (String × Value), allFloatsEntries (fun x => f x == g x) es →
      entriesTail esc f es = entriesTail esc g es
  | [], _ => rfl
  | (k, v) :: es, h => by
    simp only [allFloatsEntries, Bool.and_eq_true] at h
    rw [entriesTail, entriesTail, jsonChars_congr v h.1, entriesTail_congr es h.2]

end

namespace Value

variable {p : F64 → Bool}

theorem allFloatsEntries_sortEntries (le : String → String → Bool) (es : List (String × Value)) :
    allFloatsEntries p (sortEntries le es) = allFloatsEntries p es := by
  have hperm : (sortEntries le es).Perm es := perm_insertionSort _ es
  rw [Bool.eq_iff_iff, allFloatsEntries_iff, allFloatsEntries_iff]
  constructor
  · intro h e he
    exact h e (hperm.mem_iff.mpr he)
  · intro h e he
    exact h e (hperm.mem_iff.mp he)

mutual

theorem allFloats_sortedBy (le : String → String → Bool) : ∀ v : Value,
    (v.sortedBy le).allFloats p = v.allFloats p
  | null => rfl
  | bool _ => rfl
  | number _ => rfl
  | string _ => rfl
  | array vs => allFloatsItems_sortedItems le vs
  | object es => by
    rw [sortedBy, allFloats, allFloats, allFloatsEntries_sortEntries,
      allFloatsEntries_sortedEntries le es]

theorem allFloatsItems_sortedItems (le : String → String → Bool) :
    ∀ vs : List Value, allFloatsItems p (sortedItems le vs) = allFloatsItems p vs
  | [] => rfl
  | v :: vs => by
    rw [sortedItems, allFloatsItems, allFloatsItems, allFloats_sortedBy le v,
      allFloatsItems_sortedItems le vs]

theorem allFloatsEntries_sortedEntries (le : String → String → Bool) :
    ∀ es : List (String × Value),
      allFloatsEntries p (sortedEntries le es) = allFloatsEntries p es
  | [] => rfl
  | (k, v) :: es => by
    rw [sortedEntries, allFloatsEntries, allFloatsEntries, allFloats_sortedBy le v,
      allFloatsEntries_sortedEntries le es]

end

end Value

/-- **Python's comparison and Rust's**: without negative zeros, two documents have the same sorted
text exactly if they are equal values in Rust. -/
theorem pyDumpsSorted_beq {t : PyText} (ht : t.Lawful) (hv : v.noNegZero) (hw : w.noNegZero) :
    (pyDumpsSorted t v == pyDumpsSorted t w) = v.ofDocument.eq w.ofDocument := by
  have hv' : v.ofDocument.noNegZero := (allFloats_sortedBy _ v).trans hv
  have hw' : w.ofDocument.noNegZero := (allFloats_sortedBy _ w).trans hw
  rw [Bool.eq_iff_iff, beq_iff_eq, pyDumpsSorted_inj ht]
  constructor
  · intro h
    rw [h]
    exact eq_self _
  · intro h
    exact eq_of_eq _ _ hv' hw' h

end Tarka.Json
