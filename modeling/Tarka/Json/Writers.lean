import Tarka.Json.PyJson

/-! # Two writers of one document

Python escapes every character that is not printable ASCII, Rust only what JSON demands; and the two
write some numbers differently. A document has the same text for two writers exactly when its
strings and its numbers have (`chars_eq_iff`): in equal texts one string or number after the other
can be cancelled. -/

namespace Tarka.Json

open Tarka.Lib List

namespace PyJson

/-! ## Strings and numbers of a document -/

section

variable (P : String → Prop) (Q : PyNumber → Prop)

mutual

def All : PyJson → Prop
  | number n => Q n
  | string s => P s
  | array items => AllItems items
  | object entries => AllEntries entries
  | _ => True

def AllItems : List PyJson → Prop
  | [] => True
  | v :: vs => All v ∧ AllItems vs

def AllEntries : List (String × PyJson) → Prop
  | [] => True
  | (k, v) :: es => P k ∧ All v ∧ AllEntries es

end

theorem allItems_iff {vs : List PyJson} : AllItems P Q vs ↔ ∀ v ∈ vs, All P Q v := by
  induction vs with
  | nil => simp [AllItems]
  | cons v vs ih => simp [AllItems, ih]

theorem allEntries_iff {es : List (String × PyJson)} :
    AllEntries P Q es ↔ ∀ e ∈ es, P e.1 ∧ All P Q e.2 := by
  induction es with
  | nil => simp [AllEntries]
  | cons e es ih => simp [AllEntries, ih, and_assoc]

variable (P' : String → Prop) (Q' : PyNumber → Prop)

mutual

theorem all_and : ∀ d : PyJson,
    d.All (fun s => P s ∧ P' s) (fun n => Q n ∧ Q' n) ↔ d.All P Q ∧ d.All P' Q'
  | null => (and_self_iff (a := True)).symm
  | bool _ => (and_self_iff (a := True)).symm
  | number _ => Iff.rfl
  | string _ => Iff.rfl
  | array items => allItems_and items
  | object entries => allEntries_and entries

theorem allItems_and : ∀ vs : List PyJson,
    AllItems (fun s => P s ∧ P' s) (fun n => Q n ∧ Q' n) vs ↔ AllItems P Q vs ∧ AllItems P' Q' vs
  | [] => (and_self_iff (a := True)).symm
  | v :: vs => by
    rw [AllItems, AllItems, AllItems, all_and v, allItems_and vs]
    exact and_and_and_comm

theorem allEntries_and : ∀ es : List (String × PyJson),
    AllEntries (fun s => P s ∧ P' s) (fun n => Q n ∧ Q' n) es
      ↔ AllEntries P Q es ∧ AllEntries P' Q' es
  | [] => (and_self_iff (a := True)).symm
  | (k, v) :: es => by
    rw [AllEntries, AllEntries, AllEntries, all_and v, allEntries_and es]
    tauto

end

end

/-! ## Keys in order -/

section

variable (le : String → String → Bool)

mutual

def sortedBy : PyJson → PyJson
  | array items => array (sortedItems items)
  | object entries => object ((sortedEntries entries).insertionSort (fun a b => le a.1 b.1 = true))
  | null => null
  | bool b => bool b
  | number n => number n
  | string s => string s

def sortedItems : List PyJson → List PyJson
  | [] => []
  | v :: vs => sortedBy v :: sortedItems vs

def sortedEntries : List (String × PyJson) → List (String × PyJson)
  | [] => []
  | (k, v) :: es => (k, sortedBy v) :: sortedEntries es

end

variable {P : String → Prop} {Q : PyNumber → Prop}

mutual

/-- The order of the keys does not matter to the strings and numbers. -/
theorem all_sortedBy : ∀ d : PyJson, (d.sortedBy le).All P Q ↔ d.All P Q
  | null => Iff.rfl
  | bool _ => Iff.rfl
  | number _ => Iff.rfl
  | string _ => Iff.rfl
  | array items => allItems_sortedItems items
  | object entries => by
    have hperm := perm_insertionSort
      (fun a b : String × PyJson => le a.1 b.1 = true) (sortedEntries le entries)
    have hentries := allEntries_sortedEntries entries
    rw [allEntries_iff, allEntries_iff] at hentries
    show AllEntries P Q (insertionSort _ (sortedEntries le entries)) ↔ AllEntries P Q entries
    rw [allEntries_iff, allEntries_iff, ← hentries]
    constructor
    · intro h e he
      exact h e (hperm.mem_iff.mpr he)
    · intro h e he
      exact h e (hperm.mem_iff.mp he)

theorem allItems_sortedItems : ∀ vs : List PyJson,
    AllItems P Q (sortedItems le vs) ↔ AllItems P Q vs
  | [] => Iff.rfl
  | v :: vs => by rw [sortedItems, AllItems, AllItems, all_sortedBy v, allItems_sortedItems vs]

theorem allEntries_sortedEntries : ∀ es : List (String × PyJson),
    AllEntries P Q (sortedEntries le es) ↔ AllEntries P Q es
  | [] => Iff.rfl
  | (k, v) :: es => by
    rw [sortedEntries, AllEntries, AllEntries, all_sortedBy v, allEntries_sortedEntries es]

end

end

/-! ## Cancelling -/

variable {num : PyNumber → List Char} {esc : Char → List Char}

theorem delimited_itemsTail
    (vs : List PyJson) (r : List Char) : Delimited (itemsTail esc num vs ++ r) := by
  cases vs with
  | nil => exact Or.inr (Or.inl rfl)
  | cons v vs => exact Or.inl rfl

theorem delimited_entriesTail
    (es : List (String × PyJson)) (r : List Char) : Delimited (entriesTail esc num es ++ r) := by
  cases es with
  | nil => exact Or.inr (Or.inr rfl)
  | cons e es => exact Or.inl rfl

/-- What it takes to compare two writers: a string, or a number with a delimiter after it, can be
cancelled, and is then written alike. -/
structure Comparable (esc esc' : Char → List Char) (num num' : PyNumber → List Char)
    (P : String → Prop) (Q : PyNumber → Prop) : Prop where
  string : ∀ s r r', quoted esc s ++ r = quoted esc' s ++ r' → P s ∧ r = r'
  number : ∀ n r r', Delimited r → Delimited r' → num n ++ r = num' n ++ r' → Q n ∧ r = r'
  quoted_eq : ∀ s, P s → quoted esc s = quoted esc' s
  num_eq : ∀ n, Q n → num n = num' n

section

variable {esc esc' : Char → List Char} {num num' : PyNumber → List Char} {P : String → Prop}
  {Q : PyNumber → Prop}

mutual

theorem chars_cancel (h : Comparable esc esc' num num' P Q) : ∀ (d : PyJson) (r r' : List Char),
    Delimited r → Delimited r' → chars esc num d ++ r = chars esc' num' d ++ r' →
    d.All P Q ∧ r = r'
  | null, _, _, _, _, heq => ⟨trivial, append_cancel_left heq⟩
  | bool true, _, _, _, _, heq => ⟨trivial, append_cancel_left heq⟩
  | bool false, _, _, _, _, heq => ⟨trivial, append_cancel_left heq⟩
  | number n, r, r', hr, hr', heq => h.number n r r' hr hr' heq
  | string s, r, r', _, _, heq => h.string s r r' heq
  | array [], _, _, _, _, heq => ⟨trivial, append_cancel_left heq⟩
  | array (v :: vs), r, r', _, _, heq => by
    simp only [chars, cons_append, append_assoc, cons.injEq, true_and] at heq
    obtain ⟨hv, htail⟩ := chars_cancel h v _ _ (delimited_itemsTail vs r)
      (delimited_itemsTail vs r') heq
    obtain ⟨hvs, hrest⟩ := itemsTail_cancel h vs r r' htail
    exact ⟨⟨hv, hvs⟩, hrest⟩
  | object [], _, _, _, _, heq => ⟨trivial, append_cancel_left heq⟩
  | object ((k, v) :: es), r, r', _, _, heq => by
    simp only [chars, cons_append, append_assoc, cons.injEq, true_and] at heq
    obtain ⟨hk, hcolon⟩ := h.string k _ _ heq
    rw [cons.injEq] at hcolon
    obtain ⟨hv, htail⟩ := chars_cancel h v _ _ (delimited_entriesTail es r)
      (delimited_entriesTail es r') hcolon.2
    obtain ⟨hes, hrest⟩ := entriesTail_cancel h es r r' htail
    exact ⟨⟨hk, hv, hes⟩, hrest⟩

theorem itemsTail_cancel (h : Comparable esc esc' num num' P Q) :
    ∀ (vs : List PyJson) (r r' : List Char),
    itemsTail esc num vs ++ r = itemsTail esc' num' vs ++ r' → AllItems P Q vs ∧ r = r'
  | [], _, _, heq => ⟨trivial, append_cancel_left heq⟩
  | v :: vs, r, r', heq => by
    simp only [itemsTail, cons_append, append_assoc, cons.injEq, true_and] at heq
    obtain ⟨hv, htail⟩ := chars_cancel h v _ _ (delimited_itemsTail vs r)
      (delimited_itemsTail vs r') heq
    obtain ⟨hvs, hrest⟩ := itemsTail_cancel h vs r r' htail
    exact ⟨⟨hv, hvs⟩, hrest⟩

theorem entriesTail_cancel (h : Comparable esc esc' num num' P Q) :
    ∀ (es : List (String × PyJson)) (r r' : List Char),
    entriesTail esc num es ++ r = entriesTail esc' num' es ++ r' → AllEntries P Q es ∧ r = r'
  | [], _, _, heq => ⟨trivial, append_cancel_left heq⟩
  | (k, v) :: es, r, r', heq => by
    simp only [entriesTail, cons_append, append_assoc, cons.injEq, true_and] at heq
    obtain ⟨hk, hcolon⟩ := h.string k _ _ heq
    rw [cons.injEq] at hcolon
    obtain ⟨hv, htail⟩ := chars_cancel h v _ _ (delimited_entriesTail es r)
      (delimited_entriesTail es r') hcolon.2
    obtain ⟨hes, hrest⟩ := entriesTail_cancel h es r r' htail
    exact ⟨⟨hk, hv, hes⟩, hrest⟩

end

mutual

theorem chars_congr (h : Comparable esc esc' num num' P Q) : ∀ d : PyJson, d.All P Q →
    chars esc num d = chars esc' num' d
  | null, _ => rfl
  | bool true, _ => rfl
  | bool false, _ => rfl
  | number n, hd => h.num_eq n hd
  | string s, hd => h.quoted_eq s hd
  | array [], _ => rfl
  | array (v :: vs), hd => by
    rw [chars, chars, chars_congr h v hd.1, itemsTail_congr h vs hd.2]
  | object [], _ => rfl
  | object ((k, v) :: es), hd => by
    rw [chars, chars, h.quoted_eq k hd.1, chars_congr h v hd.2.1, entriesTail_congr h es hd.2.2]

theorem itemsTail_congr (h : Comparable esc esc' num num' P Q) : ∀ vs : List PyJson,
    AllItems P Q vs →
    itemsTail esc num vs = itemsTail esc' num' vs
  | [], _ => rfl
  | v :: vs, hvs => by
    rw [itemsTail, itemsTail, chars_congr h v hvs.1, itemsTail_congr h vs hvs.2]

theorem entriesTail_congr (h : Comparable esc esc' num num' P Q) : ∀ es : List (String × PyJson),
    AllEntries P Q es →
    entriesTail esc num es = entriesTail esc' num' es
  | [], _ => rfl
  | (k, v) :: es, hes => by
    rw [entriesTail, entriesTail, h.quoted_eq k hes.1, chars_congr h v hes.2.1,
      entriesTail_congr h es hes.2.2]

end

/-- **Two writers agree on a document exactly when they agree on its strings and numbers.** -/
theorem chars_eq_iff (h : Comparable esc esc' num num' P Q) (d : PyJson) :
    chars esc num d = chars esc' num' d ↔ d.All P Q := by
  constructor
  · intro heq
    refine (chars_cancel h d [] [] trivial trivial ?_).1
    rw [heq]
  · exact chars_congr h d

end

end PyJson

/-! ## Python's escapes and Rust's -/

/-- ASCII, without the character that Python escapes and Rust does not. -/
def plainText (s : String) : Bool := s.toList.all (fun c => decide (c.toNat < 0x7f))

theorem escapeAscii_eq_escapeChar {c : Char} (h : c.toNat < 0x7f) :
    escapeAscii c = escapeChar c := by
  unfold escapeAscii escapeChar
  cases shortEscape c.toNat with
  | some e => rfl
  | none =>
    by_cases hctrl : c.toNat < 0x20
    · rw [if_neg (by omega), if_pos (by omega), if_pos hctrl]
    · rw [if_pos (by omega), if_neg hctrl]

theorem escapes_differ {c : Char} (h : ¬ c.toNat < 0x7f) :
    (∃ l, escapeAscii c = backslash :: l) ∧ escapeChar c = [c] ∧ c ≠ backslash := by
  have hshort : shortEscape c.toNat = none := by
    unfold shortEscape
    split <;> first | rfl | omega
  refine ⟨?_, ?_, ?_⟩
  · unfold escapeAscii
    rw [hshort]
    rw [if_neg (by omega)]
    split_ifs
    · exact ⟨_, rfl⟩
    · exact ⟨_, rfl⟩
  · unfold escapeChar
    rw [hshort]
    rw [if_neg (by omega)]
  · rintro rfl
    exact h (by decide)

theorem flatMap_escapes_cancel : ∀ (cs : List Char) (r r' : List Char),
    cs.flatMap escapeAscii ++ quote :: r = cs.flatMap escapeChar ++ quote :: r' →
    (∀ c ∈ cs, c.toNat < 0x7f) ∧ r = r'
  | [], r, r', h => by
    simp only [flatMap_nil, nil_append, cons.injEq, true_and] at h
    exact ⟨by simp, h⟩
  | c :: cs, r, r', h => by
    rw [flatMap_cons, flatMap_cons, append_assoc, append_assoc] at h
    by_cases hc : c.toNat < 0x7f
    · rw [escapeAscii_eq_escapeChar hc] at h
      obtain ⟨hcs, hrest⟩ := flatMap_escapes_cancel cs r r' (append_cancel_left h)
      exact ⟨forall_mem_cons.mpr ⟨hc, hcs⟩, hrest⟩
    · obtain ⟨⟨l, hascii⟩, hchar, hne⟩ := escapes_differ hc
      rw [hascii, hchar] at h
      simp only [cons_append, cons.injEq] at h
      exact absurd h.1.symm hne

variable {s : String}

/-- **A string has the same text in Python and in Rust exactly when it is plain.** -/
theorem quoted_escapes_cancel {r r' : List Char}
    (h : quoted escapeAscii s ++ r = quoted escapeChar s ++ r') : plainText s ∧ r = r' := by
  simp only [quoted, cons_append, append_assoc, nil_append, cons.injEq, true_and] at h
  obtain ⟨hplain, hrest⟩ := flatMap_escapes_cancel s.toList r r' h
  refine ⟨?_, hrest⟩
  rw [plainText, all_eq_true]
  exact fun c hc => decide_eq_true (hplain c hc)

theorem quoted_escapes_eq (h : plainText s) : quoted escapeAscii s = quoted escapeChar s := by
  rw [plainText, all_eq_true] at h
  rw [quoted]
  congr 2
  refine flatMap_congr ?_
  exact fun c hc => escapeAscii_eq_escapeChar (of_decide_eq_true (h c hc))

theorem comparable_of_spelled {num' : PyNumber → List Char}
    {numeral numeral' : PyNumber → Numeral} (h : Spelled num numeral) (h' : Spelled num' numeral') :
    PyJson.Comparable escapeAscii escapeChar num num' (fun s => plainText s)
      (fun n => num n = num' n) where
  string := fun _ _ _ => quoted_escapes_cancel
  number := by
    intro n r r' hr hr' heq
    -- both numbers are read from one text, so that the same is left over
    have hread := h n r hr
    rw [heq, h' n r' hr', Option.some.injEq, Prod.mk.injEq] at hread
    obtain ⟨-, rfl⟩ := hread
    exact ⟨append_cancel_right heq, rfl⟩
  quoted_eq := fun _ => quoted_escapes_eq
  num_eq := fun _ hn => hn

end Tarka.Json
