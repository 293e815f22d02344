import Mathlib.Data.List.DropRight
import Mathlib.Data.List.TakeWhile
import Tarka.Lib.Text

/-! # Trimming, folding and splitting strings

The string operations that configuration code applies to what it reads: white space is cut at
both ends, ASCII letters are lowered and a list is split at a separator. `strip_strip` says that
trimming once is enough. -/

namespace Tarka.Lib

open List Char

/-- The characters `str.strip` removes: the white space and separator characters of Unicode. -/
def isStripSpace (c : Char) : Bool :=
  let n := c.toNat
  (0x09 ≤ n && n ≤ 0x0d) || (0x1c ≤ n && n ≤ 0x20) || n == 0x85 || n == 0xa0 || n == 0x1680
    || (0x2000 ≤ n && n ≤ 0x200a) || n == 0x2028 || n == 0x2029 || n == 0x202f || n == 0x205f
    || n == 0x3000

/-- The characters `str::trim` of Rust removes: those with the property `White_Space`. -/
def isWhiteSpace (c : Char) : Bool := isStripSpace c && !(0x1c ≤ c.toNat && c.toNat ≤ 0x1f)

def stripChars (cs : List Char) : List Char :=
  (cs.dropWhile isStripSpace).rdropWhile isStripSpace

def strip (s : String) : String := String.ofList (stripChars s.toList)

/-- `str::trim` of Rust. -/
def trim (s : String) : String :=
  String.ofList ((s.toList.dropWhile isWhiteSpace).rdropWhile isWhiteSpace)

def expect : List Char → List Char → Option (List Char)
  | [], cs => some cs
  | _ :: _, [] => none
  | w :: ws, c :: cs => if w = c then expect ws cs else none

def asciiLower (s : String) : String := String.ofList (s.toList.map Char.toLower)

def splitChars (sep : Char) : List Char → List (List Char)
  | [] => [[]]
  | c :: cs =>
    if c = sep then [] :: splitChars sep cs
    else
      match splitChars sep cs with
      | [] => [[c]]
      | t :: ts => (c :: t) :: ts

/-- `str.split` with a one-character separator. -/
def split (sep : Char) (s : String) : List String :=
  (splitChars sep s.toList).map String.ofList

/-- `str::lines` of Rust: a line ends with a line feed, after a carriage return or not, and nothing
follows the last line feed. -/
def lines (cs : List Char) : List (List Char) :=
  let parts := splitChars '\n' cs
  (parts.dropLast.map (fun l => if l.getLast? = some '\r' then l.dropLast else l))
    ++ (parts.getLast?.toList.filter (fun l => !l.isEmpty))

variable {α : Type}

/-- Cutting at the end leaves a front that needs no cutting alone. -/
theorem dropWhile_rdropWhile (p : α → Bool) (l : List α) :
    ((l.dropWhile p).rdropWhile p).dropWhile p = (l.dropWhile p).rdropWhile p := by
  rw [dropWhile_eq_self_iff]
  intro hlen hp
  obtain ⟨t, ht⟩ := rdropWhile_prefix p (l.dropWhile p)
  have hhead : (l.dropWhile p).head? = some (((l.dropWhile p).rdropWhile p).get ⟨0, hlen⟩) := by
    conv_lhs => rw [← ht]
    rw [head?_append_of_ne_nil _ (ne_nil_of_length_pos hlen), head?_eq_getElem?]
    simp
  have hnot := head?_dropWhile_not p l
  rw [hhead] at hnot
  simp_all

theorem stripChars_stripChars (cs : List Char) : stripChars (stripChars cs) = stripChars cs := by
  unfold stripChars
  rw [dropWhile_rdropWhile, rdropWhile_idempotent]

/-- **Trimming is idempotent.** -/
@[simp] theorem strip_strip (s : String) : strip (strip s) = strip s := by
  unfold strip
  rw [String.toList_ofList, stripChars_stripChars]

@[simp] theorem trim_trim (s : String) : trim (trim s) = trim s := by
  unfold trim
  rw [String.toList_ofList, dropWhile_rdropWhile, rdropWhile_idempotent]

variable {p : α → Bool}

theorem dropWhile_rdropWhile_pad {w₁ t w₂ : List α} (h₁ : ∀ c ∈ w₁, p c)
    (h₂ : ∀ c ∈ w₂, p c) (hhead : ∀ c ∈ t.head?, p c = false)
    (hlast : ∀ c ∈ t.getLast?, p c = false) : ((w₁ ++ (t ++ w₂)).dropWhile p).rdropWhile p = t := by
  rw [dropWhile_append_of_pos h₁]
  cases t with
  | nil =>
    rw [nil_append, dropWhile_eq_nil_iff.mpr h₂]
    rfl
  | cons c t =>
    have hc : p c = false := hhead c rfl
    have hback : ∀ c ∈ w₂.reverse, p c := fun c hmem => h₂ c (mem_reverse.mp hmem)
    rw [cons_append, dropWhile_cons_of_neg (by simp [hc]), ← cons_append,
      rdropWhile, reverse_append, dropWhile_append_of_pos hback]
    cases hrev : (c :: t).reverse with
    | nil => simp at hrev
    | cons e r =>
      have he : p e = false := by
        apply hlast e
        rw [getLast?_eq_head?_reverse, hrev]
        rfl
      rw [dropWhile_cons_of_neg (by simp [he]), ← hrev, reverse_reverse]

theorem dropWhile_rdropWhile_self {l : List α} (h : ∀ c ∈ l, p c = false) :
    (l.dropWhile p).rdropWhile p = l := by
  have hdrop : ∀ l : List α, (∀ c ∈ l, p c = false) → l.dropWhile p = l := by
    intro l hl
    rw [dropWhile_eq_self_iff]
    intro hlen
    simp [hl _ (getElem_mem hlen)]
  have hreverse : ∀ c ∈ l.reverse, p c = false := fun c hc => h c (mem_reverse.mp hc)
  rw [hdrop l h, rdropWhile, hdrop l.reverse hreverse, reverse_reverse]

/-- A run of characters of one kind is cut from both sides of an equation. -/
theorem append_inj_of_stop {p : Char → Bool} {l l' r r' : List Char} (hl : ∀ c ∈ l, p c)
    (hl' : ∀ c ∈ l', p c) (hr : ∀ c ∈ r.head?, p c = false)
    (hr' : ∀ c ∈ r'.head?, p c = false) (h : l ++ r = l' ++ r') : l = l' ∧ r = r' := by
  have htake : ∀ {l r : List Char}, (∀ c ∈ l, p c) → (∀ c ∈ r.head?, p c = false) →
      (l ++ r).takeWhile p = l := by
    intro l r hl hr
    rw [takeWhile_append_of_pos hl]
    cases r with
    | nil => simp
    | cons c r => simp [hr c rfl]
  have hfront : l = l' := by rw [← htake hl hr, h, htake hl' hr']
  subst hfront
  exact ⟨rfl, append_cancel_left h⟩

variable {s : String}

section

variable (h : ∀ c ∈ s.toList, isStripSpace c = false)

include h

theorem strip_eq_self : strip s = s := by
  rw [strip, stripChars, dropWhile_rdropWhile_self h, String.ofList_toList]

theorem trim_eq_self : trim s = s := by
  have hwhite : ∀ c ∈ s.toList, isWhiteSpace c = false := by
    intro c hc
    rw [isWhiteSpace, h c hc, Bool.false_and]
  rw [trim, dropWhile_rdropWhile_self hwhite, String.ofList_toList]

end

/-- Nothing is cut off from a text whose first and last characters are no white space. -/
theorem strip_of_ends (hhead : ∀ c ∈ s.toList.head?, isStripSpace c = false)
    (hlast : ∀ c ∈ s.toList.getLast?, isStripSpace c = false) : strip s = s := by
  have hnone : ∀ c ∈ ([] : List Char), isStripSpace c := fun _ h => absurd h not_mem_nil
  have h := dropWhile_rdropWhile_pad hnone hnone hhead hlast
  rw [nil_append, append_nil] at h
  rw [strip, stripChars, h, String.ofList_toList]

theorem isStripSpace_ascii {c : Char} (hlow : 0x20 < c.toNat) (hhigh : c.toNat < 0x7f) :
    isStripSpace c = false := by
  simp only [isStripSpace, Bool.or_eq_false_iff, Bool.and_eq_false_iff, decide_eq_false_iff_not,
    beq_eq_false_iff_ne]
  omega

theorem isStripSpace_of_isDigit {c : Char} (h : c.isDigit) : isStripSpace c = false := by
  have hrange : 48 ≤ c.toNat ∧ c.toNat ≤ 57 := by
    simpa [isDigit, UInt32.le_iff_toNat_le] using h
  exact isStripSpace_ascii (by omega) (by omega)

/-! ## Lowering -/

theorem toNat_toLower (c : Char) :
    c.toLower.toNat = if 65 ≤ c.toNat ∧ c.toNat ≤ 90 then c.toNat + 32 else c.toNat := by
  delta toLower
  by_cases h : 65 ≤ c.toNat ∧ c.toNat ≤ 90
  · have hval : c.val ≥ 'A'.val ∧ c.val ≤ 'Z'.val := by
      exact h
    rw [dif_pos hval, if_pos h]
    show (c.val + 32).toNat = c.val.toNat + 32
    have hle : c.val.toNat ≤ 90 := h.2
    exact Nat.mod_eq_of_lt (show c.val.toNat + 32 < 2 ^ 32 by omega)
  · have hval : ¬ (c.val ≥ 'A'.val ∧ c.val ≤ 'Z'.val) := by
      exact h
    rw [dif_neg hval, if_neg h]

theorem toLower_toLower (c : Char) : c.toLower.toLower = c.toLower := by
  apply toNat_inj.mp
  rw [toNat_toLower c.toLower, toNat_toLower c]
  split_ifs <;> omega

theorem isStripSpace_toLower (c : Char) : isStripSpace c.toLower = isStripSpace c := by
  by_cases h : 65 ≤ c.toNat ∧ c.toNat ≤ 90
  · have hlower : c.toLower.toNat = c.toNat + 32 := by rw [toNat_toLower, if_pos h]
    rw [isStripSpace_ascii (by omega) (by omega), isStripSpace_ascii (by omega) (by omega)]
  · have hsame : c.toLower = c := by
      apply toNat_inj.mp
      rw [toNat_toLower, if_neg h]
    rw [hsame]

theorem stripChars_map_toLower (cs : List Char) :
    stripChars (cs.map toLower) = (stripChars cs).map toLower := by
  have hspace : isStripSpace ∘ toLower = isStripSpace := funext isStripSpace_toLower
  rw [stripChars, stripChars, dropWhile_map, rdropWhile, rdropWhile,
    ← map_reverse, dropWhile_map, hspace, map_reverse]

theorem asciiLower_strip_idem (s : String) :
    asciiLower (strip (asciiLower (strip s))) = asciiLower (strip s) := by
  simp only [asciiLower, strip, String.toList_ofList, stripChars_map_toLower, stripChars_stripChars,
    map_map]
  congr 2
  funext c
  exact toLower_toLower c

end Tarka.Lib
