import Tarka.Json.Reader

/-! # Printed tokens read back

What the reader of JSON texts makes of the tokens that a printer wrote: quoted strings, integers,
numbers with a point, and sequences of items whose texts are read back one by one. No text is read
that is nested deeper than the reader allows (`depth_of_readValue`), and one that is read is read
alike when more brackets are allowed (`readValue_mono`). -/

namespace Tarka.Json

open Tarka.Lib List Option Nat Char

/-! ## Strings -/

variable {n : Nat}

theorem hexDigit?_digitChar (h : n < 16) : hexDigit? (digitChar n) = some n := by
  interval_cases n <;> decide

theorem readUnit_hexDigits4 (h : n < 0x10000) (r : List Char) :
    readUnit (hexDigits4 n ++ r) = some (n, r) := by
  simp only [hexDigits4, cons_append, nil_append, readUnit]
  rw [hexDigit?_digitChar (by omega), hexDigit?_digitChar (by omega),
    hexDigit?_digitChar (by omega), hexDigit?_digitChar (by omega)]
  have hn : ((n / 4096 % 16 * 16 + n / 256 % 16) * 16 + n / 16 % 16) * 16 + n % 16 = n := by omega
  simp [hn]

theorem readEscape_short {e : Char} (h : shortEscape n = some e) (r : List Char) :
    readEscape (e :: r) = some (ofNat n, r) := by
  have hsimple : e ≠ 'u' ∧ simpleEscape e = some (ofNat n) := by
    unfold shortEscape at h
    split at h <;> cases h <;> decide
  rw [readEscape, if_neg hsimple.1, hsimple.2]
  rfl

theorem readEscape_unit (h : n < 0xD800) (r : List Char) :
    readEscape ('u' :: (hexDigits4 n ++ r)) = some (ofNat n, r) := by
  rw [readEscape, if_pos rfl, readUnit_hexDigits4 (by omega), bind_some, if_pos (.inl h)]

/-- **One character read back.** -/
theorem readChars_escapeChar (c : Char) (fuel : Nat) (r : List Char) :
    readChars (fuel + 1) (escapeChar c ++ r)
      = (readChars fuel r).map (fun q => (c :: q.1, q.2)) := by
  unfold escapeChar
  cases hshort : shortEscape c.toNat with
  | some e =>
    show readChars (fuel + 1) (backslash :: e :: r) = _
    rw [readChars, readEscape_short hshort, ofNat_toNat]
    rfl
  | none =>
    have hquote : c ≠ quote := by
      rintro rfl
      exact absurd hshort (by decide)
    have hc : c ≠ backslash := by
      rintro rfl
      exact absurd hshort (by decide)
    split_ifs with hctrl
    · simp only [cons_append]
      rw [readChars, readEscape_unit (by omega), ofNat_toNat]
      rfl
    · simp only [cons_append, nil_append]
      rw [readChars, if_neg hquote, if_neg hc, if_neg hctrl]

theorem readChars_flatMap (cs : List Char) (fuel : Nat) (h : cs.length < fuel) (r : List Char) :
    readChars fuel (cs.flatMap escapeChar ++ quote :: r) = some (cs, r) := by
  induction cs generalizing fuel with
  | nil =>
    obtain ⟨fuel, rfl⟩ := Nat.exists_eq_add_of_lt h
    simp [readChars]
  | cons c cs ih =>
    obtain ⟨fuel, rfl⟩ : ∃ k, fuel = k + 1 := ⟨fuel - 1, by omega⟩
    have hlen : cs.length < fuel := by simpa using h
    rw [flatMap_cons, append_assoc, readChars_escapeChar, ih fuel hlen]
    rfl

theorem length_le_flatMap_escapeChar (cs : List Char) :
    cs.length ≤ (cs.flatMap escapeChar).length := by
  induction cs with
  | nil => simp
  | cons c cs ih =>
    have hpos : 0 < (escapeChar c).length := by
      unfold escapeChar
      split
      · simp
      · split_ifs <;> simp
    rw [flatMap_cons, length_append, length_cons]
    omega

/-- **A quoted string read back.** -/
theorem readString_quoted (s : String) (r : List Char) :
    readString (s.toList.flatMap escapeChar ++ quote :: r) = some (s, r) := by
  have hlen := length_le_flatMap_escapeChar s.toList
  rw [readString, readChars_flatMap _ _ (by rw [length_append, length_cons]; omega),
    map_some, String.ofList_toList]

/-! ## Numbers -/

def Delimited : List Char → Prop
  | [] => True
  | c :: _ => c = ',' ∨ c = ']' ∨ c = closeBrace

variable {ds r : List Char}

theorem readDigits_append (hds : ∀ c ∈ ds, c.isDigit) (hne : ds ≠ [])
    (hr : ∀ c, r.head? = some c → c.isDigit = false) : readDigits (ds ++ r) = some (ds, r) := by
  have htake : (ds ++ r).takeWhile isDigit = ds ∧ (ds ++ r).dropWhile isDigit = r := by
    rw [takeWhile_append_of_pos hds, dropWhile_append_of_pos hds]
    cases r with
    | nil => simp
    | cons c r => simp [hr c rfl]
  rw [readDigits, htake.1, htake.2, if_neg hne]

section

variable (h : Delimited r)

include h

theorem Delimited.not_digit (c : Char) (hc : r.head? = some c) :
    c.isDigit = false := by
  cases r with
  | nil => simp at hc
  | cons d r =>
    obtain rfl : d = c := by simpa using hc
    rcases h with rfl | rfl | rfl <;> decide

theorem Delimited.readFraction : readFraction r = some ([], r) := by
  cases r with
  | nil => rfl
  | cons c r => rcases h with rfl | rfl | rfl <;> rfl

theorem Delimited.readExponent : readExponent r = some (none, r) := by
  cases r with
  | nil => rfl
  | cons c r => rcases h with rfl | rfl | rfl <;> rfl

theorem Delimited.skipSpace : skipSpace r = r := by
  cases r with
  | nil => rfl
  | cons c r => rcases h with rfl | rfl | rfl <;> rfl

end

variable {m : Nat}

theorem head?_toDigits_ne (h : 0 < m) : (Nat.toDigits 10 m).head? ≠ some '0' := by
  induction m using Nat.strong_induction_on with
  | _ m ih =>
    rw [Nat.toDigits_eq_if (by decide)]
    split_ifs with hlt
    · interval_cases m <;> decide
    · -- the front digits are those of `m / 10`
      have hdiv := ih (m / 10) (by omega) (by omega)
      rw [List.head?_append_of_ne_nil _ toDigits_ne_nil]
      exact hdiv

theorem toDigits_canonical (m : Nat) :
    ¬ ((Nat.toDigits 10 m).head? = some '0' ∧ Nat.toDigits 10 m ≠ ['0']) := by
  rintro ⟨hhead, hne⟩
  cases m with
  | zero => exact hne rfl
  | succ m => exact head?_toDigits_ne (succ_pos m) hhead

theorem isDigit_of_mem_toDigits {c : Char} (h : c ∈ Nat.toDigits 10 m) : c.isDigit = true :=
  Nat.isDigit_of_mem_toDigits (by decide) (by decide) h

variable {cs : List Char}

theorem readNumeral_digits {neg : Bool} (hsign : readSign cs = (neg, Nat.toDigits 10 m ++ r))
    (hr : Delimited r) : readNumeral cs = some (⟨neg, Nat.toDigits 10 m, [], none⟩, r) := by
  have hdigits : readDigits (Nat.toDigits 10 m ++ r) = some (Nat.toDigits 10 m, r) :=
    readDigits_append (fun _ => isDigit_of_mem_toDigits) toDigits_ne_nil hr.not_digit
  simp [readNumeral, hsign, hdigits, if_neg (toDigits_canonical m), hr.readFraction,
    hr.readExponent]

theorem readSign_digits (hds : ∀ c ∈ ds, c.isDigit) (hne : ds ≠ []) :
    readSign (ds ++ r) = (false, ds ++ r) := by
  cases ds with
  | nil => exact absurd rfl hne
  | cons c ds =>
    have hc : c ≠ '-' := by
      rintro rfl
      exact absurd (hds '-' (by simp)) (by decide)
    rw [cons_append, readSign, if_neg hc]

theorem readNumeral_point {fs : List Char} (hds : ∀ c ∈ ds, c.isDigit) (hne : ds ≠ [])
    (hzero : ¬ (ds.head? = some '0' ∧ ds ≠ ['0'])) (hfs : ∀ c ∈ fs, c.isDigit)
    (hfne : fs ≠ []) (hr : Delimited r) :
    readNumeral (ds ++ '.' :: (fs ++ r)) = some (⟨false, ds, fs, none⟩, r) := by
  have hint : readDigits (ds ++ '.' :: (fs ++ r)) = some (ds, '.' :: (fs ++ r)) := by
    apply readDigits_append hds hne
    intro c hc
    obtain rfl : '.' = c := by simpa using hc
    decide
  have hfrac : readFraction ('.' :: (fs ++ r)) = some (fs, r) := by
    rw [readFraction, if_pos rfl, readDigits_append hfs hfne hr.not_digit]
  simp [readNumeral, readSign_digits hds hne, hint, if_neg hzero, hfrac, hr.readExponent]

/-- **An integer read back.** -/
theorem readNumeral_decimalText (i : Int) (hr : Delimited r) :
    readNumeral ((decimalText i).toList ++ r) = some (Numeral.ofInt i, r) := by
  cases i with
  | ofNat m =>
    have htext : (decimalText (Int.ofNat m)).toList = Nat.toDigits 10 m := by
      simp [decimalText]
    rw [htext]
    apply readNumeral_digits _ hr
    exact readSign_digits (fun _ => isDigit_of_mem_toDigits) toDigits_ne_nil
  | negSucc m =>
    have htext : (decimalText (Int.negSucc m)).toList = '-' :: Nat.toDigits 10 (m + 1) := by
      simp [decimalText]
    rw [htext]
    apply readNumeral_digits _ hr
    rfl

/-! ## Sequences -/

def seqTail {α : Type} (text : α → List Char) (close : Char) : List α → List Char
  | [] => [close]
  | a :: as => ',' :: (text a ++ seqTail text close as)

variable {α : Type}

theorem length_lt_seqTail (text : α → List Char) (close : Char) (as : List α) :
    as.length < (seqTail text close as).length := by
  induction as with
  | nil => simp [seqTail]
  | cons a as ih =>
    rw [seqTail, length_cons, length_cons, length_append]
    omega

variable {close : Char}

/-- **A sequence read back**, when each item is. -/
theorem readSeq_seqTail {α β : Type} {item : List Char → Option (β × List Char)}
    {text : α → List Char} {g : α → β} (hclose : close = ']' ∨ close = closeBrace)
    (as : List α) (a : α) (fuel : Nat) (r : List Char)
    (hitem : ∀ b ∈ a :: as, ∀ r, Delimited r → item (text b ++ r) = some (g b, r))
    (hfuel : as.length < fuel) :
    readSeq item close fuel (text a ++ (seqTail text close as ++ r))
      = some (g a :: as.map g, r) := by
  have hcomma : ',' ≠ close := by
    rcases hclose with rfl | rfl <;> decide
  -- by induction on the items that follow the first one
  induction as generalizing a fuel with
  | nil =>
    obtain ⟨fuel, rfl⟩ : ∃ k, fuel = k + 1 := ⟨fuel - 1, by simp at hfuel; omega⟩
    have hdelim : Delimited (close :: r) := .inr hclose
    have hfirst := hitem a (by simp) (close :: r) hdelim
    rw [readSeq]
    simp [seqTail, hfirst, hdelim.skipSpace]
  | cons b bs ih =>
    obtain ⟨fuel, rfl⟩ : ∃ k, fuel = k + 1 := ⟨fuel - 1, by omega⟩
    have hdelim : Delimited (',' :: (text b ++ (seqTail text close bs ++ r))) := .inl rfl
    have hfirst := hitem a (by simp) _ hdelim
    have hrest := ih b fuel (fun c hc => hitem c (mem_cons_of_mem _ hc))
      (by simpa using hfuel)
    rw [readSeq]
    simp [seqTail, hfirst, hdelim.skipSpace, if_neg hcomma, hrest]

theorem readSeq?_seqTail {α β : Type} {item : List Char → Option (β × List Char)}
    {text : α → List Char} {g : α → β} (hclose : close = ']' ∨ close = closeBrace)
    (a : α) (as : List α) (r : List Char)
    (hhead : ∃ c l, text a = c :: l ∧ isJsonSpace c = false ∧ c ≠ close)
    (hitem : ∀ b ∈ a :: as, ∀ r, Delimited r → item (text b ++ r) = some (g b, r)) :
    readSeq? item close (text a ++ (seqTail text close as ++ r))
      = some (g a :: as.map g, r) := by
  obtain ⟨c, l, htext, hspace, hne⟩ := hhead
  have hlen := length_lt_seqTail text close as
  have hread := readSeq_seqTail hclose as a
    (text a ++ (seqTail text close as ++ r)).length r hitem
    (by rw [length_append, length_append]; omega)
  have hskip : skipSpace (text a ++ (seqTail text close as ++ r))
      = text a ++ (seqTail text close as ++ r) := by
    rw [htext, cons_append, skipSpace, dropWhile_cons, hspace]
    rfl
  rw [htext] at hread hskip ⊢
  rw [readSeq?, hskip]
  simp only [cons_append, if_neg hne] at hread ⊢
  exact hread

theorem readNumeral_head {p : Numeral × List Char} (h : readNumeral cs = some p) :
    ∃ c l, cs = c :: l ∧ (c = '-' ∨ c.isDigit) := by
  cases cs with
  | nil => simp [readNumeral, readSign, readDigits] at h
  | cons c l =>
    refine ⟨c, l, rfl, ?_⟩
    by_contra hc
    rw [not_or] at hc
    have hdigits : readDigits (c :: l) = none := by
      simp [readDigits, hc.2]
    have hsign : readSign (c :: l) = (false, c :: l) := by
      rw [readSign, if_neg hc.1]
    rw [readNumeral, hsign, hdigits] at h
    simp at h

theorem numberStart {c : Char} (hc : c = '-' ∨ c.isDigit) :
    isJsonSpace c = false ∧ c ≠ 'n' ∧ c ≠ 't' ∧ c ≠ 'f' ∧ c ≠ quote ∧ c ≠ '['
      ∧ c ≠ ofNat 123 ∧ c ≠ ']' := by
  rcases hc with rfl | hc
  · decide
  · refine ⟨?_, ?_, ?_, ?_, ?_, ?_, ?_, ?_⟩
    · by_contra hspace
      rw [Bool.not_eq_false] at hspace
      simp only [isJsonSpace, Bool.or_eq_true, beq_iff_eq] at hspace
      rcases hspace with ((rfl | rfl) | rfl) | rfl <;> exact absurd hc (by decide)
    all_goals
      rintro rfl
      exact absurd hc (by decide)

/-! ## What a text can be read as -/

namespace Tree

mutual

def depth : Tree → Nat
  | array items => depthItems items + 1
  | object entries => depthEntries entries + 1
  | _ => 0

def depthItems : List Tree → Nat
  | [] => 0
  | t :: ts => max (depth t) (depthItems ts)

def depthEntries : List (String × Tree) → Nat
  | [] => 0
  | (_, t) :: es => max (depth t) (depthEntries es)

end

theorem depthItems_le {ts : List Tree} : depthItems ts ≤ n ↔ ∀ t ∈ ts, t.depth ≤ n := by
  induction ts with
  | nil => simp [depthItems]
  | cons t ts ih => simp [depthItems, ih]

theorem depthEntries_le {es : List (String × Tree)} :
    depthEntries es ≤ n ↔ ∀ e ∈ es, e.2.depth ≤ n := by
  induction es with
  | nil => simp [depthEntries]
  | cons e es ih => simp [depthEntries, ih]

end Tree

variable {close : Char} {item : List Char → Option (α × List Char)} {as : List α} {fuel : Nat}

theorem mem_of_readSeq (h : readSeq item close fuel cs = some (as, r)) :
    ∀ a ∈ as, ∃ cs' r', item cs' = some (a, r') := by
  induction fuel generalizing cs r as with
  | zero => simp [readSeq] at h
  | succ fuel ih =>
    obtain ⟨p, hp, h⟩ := bind_eq_some_iff.mp h
    split at h
    · simp at h
    · split_ifs at h
      · simp only [some.injEq, Prod.mk.injEq] at h
        rintro a ha
        rw [← h.1, mem_singleton] at ha
        exact ⟨cs, p.2, by rw [hp, ha]⟩
      · obtain ⟨q, hq, h⟩ := map_eq_some_iff.mp h
        simp only [Prod.mk.injEq] at h
        intro a ha
        rw [← h.1, mem_cons] at ha
        rcases ha with rfl | ha
        · exact ⟨cs, p.2, hp⟩
        · exact ih hq a ha

theorem mem_of_readSeq?
    (h : readSeq? item close cs = some (as, r)) : ∀ a ∈ as, ∃ cs' r', item cs' = some (a, r') := by
  rw [readSeq?] at h
  split at h
  · simp at h
  · split_ifs at h
    · simp only [some.injEq, Prod.mk.injEq] at h
      intro a ha
      rw [← h.1] at ha
      simp at ha
    · exact mem_of_readSeq h

variable {value : List Char → Option (Tree × List Char)}

theorem value_of_readEntry {e : String × Tree}
    (h : readEntry value cs = some (e, r)) : ∃ cs' r', value cs' = some (e.2, r') := by
  obtain ⟨k, -, h⟩ := bind_eq_some_iff.mp h
  obtain ⟨v, hv, h⟩ := map_eq_some_iff.mp h
  obtain ⟨cs', -, hv⟩ := bind_eq_some_iff.mp hv
  simp only [Prod.mk.injEq] at h
  exact ⟨cs', v.2, by rw [hv, ← h.1]⟩

variable {depth : Nat}

theorem readValue_cases {t : Tree} (h : readValue (depth + 1) cs = some (t, r)) :
    t.depth = 0
      ∨ (∃ cs' ts, 0 < depth ∧ readSeq? (readValue depth) ']' cs' = some (ts, r) ∧ t = .array ts)
      ∨ (∃ cs' es, 0 < depth ∧ readSeq? (readEntry (readValue depth)) closeBrace cs' = some (es, r)
          ∧ t = .object es) := by
  rw [readValue] at h
  split at h
  · simp at h
  case h_2 c rest heq =>
    split_ifs at h with hn ht hf hq hb hd hbrace hd
    · obtain ⟨r', -, hr⟩ := map_eq_some_iff.mp h
      cases hr
      exact .inl rfl
    · obtain ⟨r', -, hr⟩ := map_eq_some_iff.mp h
      cases hr
      exact .inl rfl
    · obtain ⟨r', -, hr⟩ := map_eq_some_iff.mp h
      cases hr
      exact .inl rfl
    · obtain ⟨p, -, hp⟩ := map_eq_some_iff.mp h
      cases hp
      exact .inl rfl
    · obtain ⟨p, hseq, hp⟩ := map_eq_some_iff.mp h
      cases hp
      exact .inr (.inl ⟨rest, p.1, pos_of_ne_zero hd, hseq, rfl⟩)
    · obtain ⟨p, hseq, hp⟩ := map_eq_some_iff.mp h
      cases hp
      exact .inr (.inr ⟨rest, p.1, pos_of_ne_zero hd, hseq, rfl⟩)
    · obtain ⟨p, -, hp⟩ := map_eq_some_iff.mp h
      cases hp
      exact .inl rfl

/-- **No text is nested deeper than the reader allows**, by induction on the brackets allowed. -/
theorem depth_of_readValue {t : Tree} (h : readValue (depth + 1) cs = some (t, r)) :
    t.depth ≤ depth := by
  induction depth generalizing cs r t with
  | zero =>
    rcases readValue_cases h with hscalar | ⟨_, _, hpos, -⟩ | ⟨_, _, hpos, -⟩
    · exact le_of_eq hscalar
    · exact absurd hpos (lt_irrefl 0)
    · exact absurd hpos (lt_irrefl 0)
  | succ depth ih =>
    rcases readValue_cases h with hscalar | ⟨cs', ts, -, hseq, rfl⟩ | ⟨cs', es, -, hseq, rfl⟩
    · omega
    · apply succ_le_succ
      apply Tree.depthItems_le.mpr
      intro t ht
      obtain ⟨_, _, hread⟩ := mem_of_readSeq? hseq t ht
      exact ih hread
    · apply succ_le_succ
      apply Tree.depthEntries_le.mpr
      intro e he
      obtain ⟨_, _, hentry⟩ := mem_of_readSeq? hseq e he
      obtain ⟨_, _, hread⟩ := value_of_readEntry hentry
      exact ih hread

/-! ## More brackets -/

variable {item' : List Char → Option (α × List Char)} {p : List α × List Char}

section

variable (h : ∀ cs p, item cs = some p → item' cs = some p)

include h

theorem readSeq_mono
    (hread : readSeq item close fuel cs = some p) : readSeq item' close fuel cs = some p := by
  induction fuel generalizing cs p with
  | zero => simp [readSeq] at hread
  | succ fuel ih =>
    rw [readSeq] at hread ⊢
    obtain ⟨q, hq, hrest⟩ := bind_eq_some_iff.mp hread
    rw [h cs q hq, bind_some]
    cases hskip : skipSpace q.2 with
    | nil =>
      rw [hskip] at hrest
      exact hrest
    | cons c r =>
      rw [hskip] at hrest
      simp only at hrest ⊢
      split_ifs at hrest ⊢ with hclose hcomma
      · exact hrest
      · obtain ⟨q', hq', hmap⟩ := map_eq_some_iff.mp hrest
        rw [ih hq', map_some, hmap]

theorem readSeq?_mono
    (hread : readSeq? item close cs = some p) : readSeq? item' close cs = some p := by
  rw [readSeq?] at hread ⊢
  cases hskip : skipSpace cs with
  | nil =>
    rw [hskip] at hread
    exact hread
  | cons c r =>
    rw [hskip] at hread
    simp only at hread ⊢
    split_ifs at hread ⊢ with hclose
    · exact hread
    · exact readSeq_mono h hread

end

theorem readEntry_mono {value' : List Char → Option (Tree × List Char)}
    (h : ∀ cs p, value cs = some p → value' cs = some p) (cs : List Char)
    (p : (String × Tree) × List Char) (hread : readEntry value cs = some p) :
    readEntry value' cs = some p := by
  rw [readEntry] at hread ⊢
  obtain ⟨k, hk, hrest⟩ := bind_eq_some_iff.mp hread
  obtain ⟨v, hv, hmap⟩ := map_eq_some_iff.mp hrest
  obtain ⟨cs', hcs', hvalue⟩ := bind_eq_some_iff.mp hv
  rw [hk, bind_some, hcs', bind_some, h cs' v hvalue, map_some, hmap]

variable {p : Tree × List Char}

/-- **What is read with some brackets is read alike with one more**, by induction on the brackets
allowed. -/
theorem readValue_succ (h : readValue depth cs = some p) :
    readValue (depth + 1) cs = some p := by
  induction depth generalizing cs p with
  | zero => simp [readValue] at h
  | succ depth ih =>
    rw [readValue] at h ⊢
    cases hskip : skipSpace cs with
    | nil =>
      rw [hskip] at h
      exact h
    | cons c r =>
      rw [hskip] at h
      simp only at h ⊢
      have hitem : ∀ cs p, readValue depth cs = some p → readValue (depth + 1) cs = some p :=
        fun _ _ => ih
      simp only [if_neg (succ_ne_zero depth)]
      split_ifs at h ⊢
      · exact h
      · exact h
      · exact h
      · exact h
      · obtain ⟨q, hseq, hmap⟩ := map_eq_some_iff.mp h
        rw [readSeq?_mono hitem hseq, map_some, hmap]
      · obtain ⟨q, hseq, hmap⟩ := map_eq_some_iff.mp h
        rw [readSeq?_mono (readEntry_mono hitem) hseq, map_some, hmap]
      · exact h

theorem readValue_mono {depth' : Nat} (hle : depth ≤ depth')
    (h : readValue depth cs = some p) : readValue depth' cs = some p := by
  induction depth', hle using le_induction with
  | base => exact h
  | succ depth' _ ih => exact readValue_succ ih

end Tarka.Json
