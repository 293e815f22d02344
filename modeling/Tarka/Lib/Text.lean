import Mathlib.Data.List.Lex
import Tarka.Lib.Encoding
import Tarka.Lib.Sorting

/-! # Strings as UTF-8 bytes, and the order of strings

Two languages sort strings by different keys: one compares the UTF-8 bytes, the other the
code points. `byteLe_eq_codePointLe` says that the two orders are one: UTF-8 gives a larger
code point a lexicographically larger encoding, and no encoding is a prefix of another. -/

namespace Tarka.Lib

open List String Nat UInt8

def utf8 (s : String) : Bytes := s.toList.flatMap String.utf8EncodeChar

/-- A statement about the characters of a text is decided along the text. -/
instance (priority := high) decidableForallMemChar (p : Char → Prop) [DecidablePred p]
    (l : List Char) :
    Decidable (∀ c ∈ l, p c) := List.decidableBAll p l

theorem toByteArray_eq_utf8 (s : String) : s.toByteArray = (utf8 s).toByteArray := by
  rw [← String.utf8Encode_toList, utf8Encode, utf8]

theorem utf8_injective : Function.Injective utf8 := by
  intro a b h
  rw [← String.toByteArray_inj, toByteArray_eq_utf8, toByteArray_eq_utf8, h]

/-! ## Lexicographic order -/

section

variable {α : Type} (key : α → Nat)

/-- Lexicographic comparison of two lists by the keys of their elements. -/
def lexLe : List α → List α → Bool
  | [], _ => true
  | _ :: _, [] => false
  | x :: xs, y :: ys => decide (key x < key y) || (decide (key x = key y) && lexLe xs ys)

theorem lexLe_iff {xs ys : List α} : lexLe key xs ys ↔ xs.map key ≤ ys.map key := by
  induction xs generalizing ys with
  | nil => cases ys <;> simp [lexLe, le_iff_lt_or_eq]
  | cons x xs ih =>
    cases ys with
    | nil => simp [lexLe]
    | cons y ys => simp [lexLe, ih, le_iff_lt_or_eq, cons_lt_cons_iff, and_or_left, or_assoc]

theorem lexLe_total (xs ys : List α) : (lexLe key xs ys || lexLe key ys xs) := by
  rw [Bool.or_eq_true, lexLe_iff, lexLe_iff]
  exact le_total _ _

theorem lexLe_trans (xs ys zs : List α) (h₁ : lexLe key xs ys) (h₂ : lexLe key ys zs) :
    lexLe key xs zs := by
  rw [lexLe_iff] at h₁ h₂ ⊢
  exact h₁.trans h₂

theorem lexLe_antisymm (hkey : Function.Injective key) (xs ys : List α) (h₁ : lexLe key xs ys)
    (h₂ : lexLe key ys xs) : xs = ys := by
  rw [lexLe_iff] at h₁ h₂
  exact map_injective_iff.mpr hkey (le_antisymm h₁ h₂)

theorem lexLe_append_left : ∀ p xs ys : List α,
    lexLe key (p ++ xs) (p ++ ys) = lexLe key xs ys
  | [], _, _ => rfl
  | a :: p, xs, ys => by simp [lexLe, lexLe_append_left p xs ys]

end

/-! ## The two orders on strings -/

def byteLe (a b : String) : Bool := lexLe UInt8.toNat (utf8 a) (utf8 b)

def codePointLe (a b : String) : Bool := lexLe Char.toNat a.toList b.toList

/-- `xs` comes strictly before `ys`. -/
def LexBefore {α : Type} (key : α → Nat) (xs ys : List α) : Prop :=
  lexLe key xs ys = true ∧ lexLe key ys xs = false

/-- Bytes in order, and equal ones only if what follows decides. -/
theorem lexBefore_bytes {m n : Nat} {r s : Bytes} (hle : m ≤ n) (hn : n < 256)
    (htail : m = n → LexBefore toNat r s) :
    LexBefore toNat (ofNat m :: r) (ofNat n :: s) := by
  have hm : m < 256 := by omega
  simp only [LexBefore, lexLe, toNat_ofNat', mod_eq_of_lt hm, mod_eq_of_lt hn]
  rcases lt_or_eq_of_le hle with hlt | rfl
  · have h₁ : ¬ n < m := by omega
    have h₂ : n ≠ m := by omega
    simp [hlt, h₁, h₂]
  · simpa [LexBefore] using htail rfl

theorem utf8EncodeChar_cases (c : Char) :
    (c.toNat < 128 ∧ utf8EncodeChar c = [ofNat c.toNat]) ∨
    (128 ≤ c.toNat ∧ c.toNat < 2048 ∧ utf8EncodeChar c =
      [ofNat (192 + c.toNat / 64), ofNat (128 + c.toNat % 64)]) ∨
    (2048 ≤ c.toNat ∧ c.toNat < 65536 ∧ utf8EncodeChar c =
      [ofNat (224 + c.toNat / 4096), ofNat (128 + c.toNat / 64 % 64),
        ofNat (128 + c.toNat % 64)]) ∨
    (65536 ≤ c.toNat ∧ c.toNat < 1114112 ∧ utf8EncodeChar c =
      [ofNat (240 + c.toNat / 262144), ofNat (128 + c.toNat / 4096 % 64),
        ofNat (128 + c.toNat / 64 % 64), ofNat (128 + c.toNat % 64)]) := by
  have hmax : c.toNat < 1114112 := by
    rcases c.valid with hc | hc <;> (show c.val.toNat < 1114112; omega)
  have hc : c.val.toNat = c.toNat := rfl
  unfold utf8EncodeChar
  simp only [hc]
  split_ifs with h₁ h₂ h₃
  · exact .inl ⟨by omega, rfl⟩
  · refine .inr (.inl ⟨by omega, by omega, ?_⟩)
    rw [mod_eq_of_lt (by omega : c.toNat / 64 < 32), add_comm _ 192, add_comm _ 128]
  · refine .inr (.inr (.inl ⟨by omega, by omega, ?_⟩))
    rw [mod_eq_of_lt (by omega : c.toNat / 4096 < 16), add_comm _ 224,
      add_comm _ 128, add_comm (c.toNat % 64) 128]
  · refine .inr (.inr (.inr ⟨by omega, hmax, ?_⟩))
    rw [mod_eq_of_lt (by omega : c.toNat / 262144 < 8), add_comm _ 240,
      add_comm _ 128, add_comm (c.toNat / 64 % 64) 128, add_comm (c.toNat % 64) 128]

/-- **A smaller code point has a smaller encoding**, whatever follows the two. -/
theorem lexBefore_encodeChar {c d : Char} (h : c.toNat < d.toNat) (r s : Bytes) :
    LexBefore toNat (utf8EncodeChar c ++ r) (utf8EncodeChar d ++ s) := by
  -- the lead byte tells the lengths apart, and inside one length the digits decide
  rcases utf8EncodeChar_cases c with ⟨hc, ec⟩ | ⟨hc, hc', ec⟩ | ⟨hc, hc', ec⟩ | ⟨hc, hc', ec⟩ <;>
    rcases utf8EncodeChar_cases d with ⟨hd, ed⟩ | ⟨hd, hd', ed⟩ | ⟨hd, hd', ed⟩ | ⟨hd, hd', ed⟩ <;>
    rw [ec, ed] <;> try omega
  all_goals refine lexBefore_bytes (by omega) (by omega) (fun h₁ => ?_)
  all_goals try omega
  all_goals refine lexBefore_bytes (by omega) (by omega) (fun h₂ => ?_)
  all_goals try omega
  all_goals refine lexBefore_bytes (by omega) (by omega) (fun h₃ => ?_)
  all_goals try omega
  exact lexBefore_bytes (by omega) (by omega) (fun h₄ => by omega)

theorem lexLe_flatMap_encodeChar : ∀ a b : List Char,
    lexLe toNat (a.flatMap utf8EncodeChar) (b.flatMap utf8EncodeChar)
      = lexLe Char.toNat a b
  | [], _ => by simp [lexLe]
  | c :: a, [] => by
    have hne : utf8EncodeChar c ≠ [] := utf8EncodeChar_ne_nil
    rw [flatMap_nil, flatMap_cons]
    cases hc : utf8EncodeChar c with
    | nil => exact absurd hc hne
    | cons x xs => simp [lexLe]
  | c :: a, d :: b => by
    rw [flatMap_cons, flatMap_cons]
    rcases lt_trichotomy c.toNat d.toNat with h | h | h
    · rw [(lexBefore_encodeChar h _ _).1]
      simp [lexLe, h]
    · have hcd : c = d := Char.toNat_inj.mp h
      rw [hcd, lexLe_append_left, lexLe_flatMap_encodeChar a b]
      simp [lexLe]
    · rw [(lexBefore_encodeChar h _ _).2]
      have h1 : ¬ c.toNat < d.toNat := by omega
      have h2 : ¬ c.toNat = d.toNat := by omega
      simp [lexLe, h1, h2]

/-- **Byte order is code point order.** -/
theorem byteLe_eq_codePointLe : byteLe = codePointLe := by
  funext a b
  exact lexLe_flatMap_encodeChar a.toList b.toList

theorem byteLe_antisymm {a b : String} (h₁ : byteLe a b) (h₂ : byteLe b a) : a = b :=
  utf8_injective (lexLe_antisymm _ (fun _ _ h => UInt8.toNat_inj.mp h) _ _ h₁ h₂)

/-! ## Substrings -/

/-- Whether `t` occurs in `s`. -/
def charsContain : List Char → List Char → Bool
  | [], t => t.isPrefixOf []
  | c :: s, t => t.isPrefixOf (c :: s) || charsContain s t

def strContains (s t : String) : Bool := charsContain s.toList t.toList

/-! ## Sorting -/

def sortByBytes (l : List String) : List String :=
  l.insertionSort (fun a b => byteLe a b = true)

def sortByCodePoints (l : List String) : List String :=
  l.insertionSort (fun a b => codePointLe a b = true)

theorem sortByCodePoints_eq (l : List String) : sortByCodePoints l = sortByBytes l := by
  unfold sortByCodePoints sortByBytes
  simp [byteLe_eq_codePointLe]

theorem sortByBytes_perm (l : List String) : (sortByBytes l).Perm l :=
  perm_insertionSort _ l

variable {l₁ l₂ : List String}

/-- **Sorting forgets nothing but the order**: lists that sort alike are permutations. -/
theorem perm_of_sortByBytes_eq (h : sortByBytes l₁ = sortByBytes l₂) : l₁.Perm l₂ := by
  have h₁ := (sortByBytes_perm l₁).symm
  rw [h] at h₁
  exact h₁.trans (sortByBytes_perm l₂)

instance : IsTrans String (fun a b => byteLe a b = true) :=
  ⟨fun a b c => lexLe_trans _ (utf8 a) (utf8 b) (utf8 c)⟩

instance : Std.Total (fun a b => byteLe a b = true) where
  total a b := by
    have htotal := lexLe_total UInt8.toNat (utf8 a) (utf8 b)
    simpa [byteLe] using htotal

theorem sortByBytes_sorted (l : List String) : (sortByBytes l).Pairwise (fun a b => byteLe a b) :=
  pairwise_insertionSort _ l

theorem sortByBytes_eq_of_perm (h : l₁.Perm l₂) : sortByBytes l₁ = sortByBytes l₂ :=
  insertionSort_eq_of_perm h fun _ _ _ _ => byteLe_antisymm

end Tarka.Lib
