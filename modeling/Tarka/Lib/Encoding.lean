import Mathlib.Tactic

/-! # Self-delimiting byte encodings

The canonical encodings of this development are concatenations of fields: fixed-width
big-endian integers, length-prefixed byte strings, counted lists and tagged payloads. Their
injectivity is always the same argument, read from the left: a field that knows where it
ends can be cancelled from both sides of an equation. `SelfDelimiting` is that property, and
this file closes it under the combinators the encodings are made of.

An encoder may be partial (a length that does not fit its prefix is an error), so
`SelfDelimiting P enc` speaks only of the values satisfying `P`.
-/

namespace Tarka.Lib

open List Nat

abbrev Bytes := List UInt8

abbrev Digest := { b : Bytes // b.length = 32 }

def zeroDigest : Digest := ⟨List.replicate 32 0, by simp⟩

/-! ## Big-endian integers -/

/-- The `k` low bytes of `n`, most significant first. -/
def beBytes : Nat → Nat → Bytes
  | 0, _ => []
  | k + 1, n => UInt8.ofNat (n / 256 ^ k) :: beBytes k n

def ofBeBytes (b : Bytes) : Nat := b.foldl (fun acc x => acc * 256 + x.toNat) 0

@[simp] theorem length_beBytes (k n : Nat) : (beBytes k n).length = k := by
  induction k with
  | zero => rfl
  | succ k ih => simp [beBytes, ih]

theorem foldl_beBytes (k n acc : Nat) :
    (beBytes k n).foldl (fun acc x => acc * 256 + x.toNat) acc = acc * 256 ^ k + n % 256 ^ k := by
  induction k generalizing acc with
  | zero => simp [beBytes, mod_one]
  | succ k ih =>
    have hsplit : n % 256 ^ (k + 1) = (n / 256 ^ k % 256) * 256 ^ k + n % 256 ^ k := by
      rw [pow_succ, mod_mul, add_comm, mul_comm]
    simp only [beBytes, foldl_cons]
    rw [ih, hsplit, UInt8.toNat_ofNat']
    ring

/-- **Reading back a big-endian integer** that fits its width. -/
theorem ofBeBytes_beBytes {k n : Nat} (h : n < 256 ^ k) : ofBeBytes (beBytes k n) = n := by
  rw [ofBeBytes, foldl_beBytes, mod_eq_of_lt h]
  simp

theorem beBytes_inj {k m n : Nat} (hm : m < 256 ^ k) (hn : n < 256 ^ k)
    (h : beBytes k m = beBytes k n) : m = n := by
  rw [← ofBeBytes_beBytes hm, h, ofBeBytes_beBytes hn]

/-! ## The property -/

section

variable {α β : Type}

/-- On the values satisfying `P`, the encoding `enc` knows where it ends: it can be
cancelled from the front of an equation between byte strings. -/
def SelfDelimiting (P : α → Prop) (enc : α → Bytes) : Prop :=
  ∀ a b, P a → P b → ∀ r s : Bytes, enc a ++ r = enc b ++ s → a = b ∧ r = s

variable {P : α → Prop} {enc : α → Bytes}

theorem SelfDelimiting.inj (h : SelfDelimiting P enc) {a b : α} (ha : P a) (hb : P b)
    (he : enc a = enc b) : a = b :=
  (h a b ha hb [] [] (by rw [he])).1

theorem SelfDelimiting.of_width (w : Nat) (hw : ∀ a, (enc a).length = w)
    (hinj : ∀ a b, P a → P b → enc a = enc b → a = b) : SelfDelimiting P enc := by
  intro a b ha hb r s h
  obtain ⟨h1, h2⟩ := append_inj h (by rw [hw, hw])
  exact ⟨hinj a b ha hb h1, h2⟩

theorem selfDelimiting_beBytes (k : Nat) : SelfDelimiting (· < 256 ^ k) (beBytes k) :=
  .of_width k (length_beBytes k) (fun _ _ ha hb h => beBytes_inj ha hb h)

theorem SelfDelimiting.append {Q : β → Prop} {f : α → Bytes} {g : β → Bytes}
    (hf : SelfDelimiting P f) (hg : SelfDelimiting Q g) :
    SelfDelimiting (fun x : α × β => P x.1 ∧ Q x.2) (fun x => f x.1 ++ g x.2) := by
  rintro ⟨a, c⟩ ⟨b, d⟩ ⟨ha, hc⟩ ⟨hb, hd⟩ r s h
  simp only [append_assoc] at h
  obtain ⟨rfl, h'⟩ := hf a b ha hb _ _ h
  obtain ⟨rfl, hrs⟩ := hg c d hc hd _ _ h'
  exact ⟨rfl, hrs⟩

theorem SelfDelimiting.comap (h : SelfDelimiting P enc) {f : β → α} (hf : Function.Injective f) :
    SelfDelimiting (fun b => P (f b)) (fun b => enc (f b)) := by
  intro a b ha hb r s he
  obtain ⟨hab, hrs⟩ := h (f a) (f b) ha hb r s he
  exact ⟨hf hab, hrs⟩

/-! ## Length prefixes -/

/-- A byte string behind its length, as a four-byte big-endian integer. -/
def lenPrefixed (b : Bytes) : Bytes := beBytes 4 b.length ++ b

@[simp] theorem length_lenPrefixed (b : Bytes) : (lenPrefixed b).length = 4 + b.length := by
  simp [lenPrefixed]

/-- **A length prefix delimits** every byte string whose length fits it. -/
theorem selfDelimiting_lenPrefixed :
    SelfDelimiting (fun b : Bytes => b.length < 256 ^ 4) lenPrefixed := by
  intro a b ha hb r s h
  obtain ⟨hlen, h'⟩ := selfDelimiting_beBytes 4 _ _ ha hb _ _ h
  exact append_inj h' hlen

/-! ## Lists -/

variable {enc : α → Bytes} {P : α → Prop}

theorem SelfDelimiting.flatMap (h : SelfDelimiting P enc) :
    ∀ (xs ys : List α), (∀ x ∈ xs, P x) → (∀ y ∈ ys, P y) → xs.length = ys.length →
      ∀ r s : Bytes, xs.flatMap enc ++ r = ys.flatMap enc ++ s → xs = ys ∧ r = s
  | [], [], _, _, _, r, s, he => ⟨rfl, by simpa using he⟩
  | [], _ :: _, _, _, hl, _, _, _ => by simp at hl
  | _ :: _, [], _, _, hl, _, _, _ => by simp at hl
  | x :: xs, y :: ys, hx, hy, hl, r, s, he => by
    simp only [flatMap_cons, append_assoc] at he
    obtain ⟨rfl, he'⟩ := h x y (hx x (by simp)) (hy y (by simp)) _ _ he
    obtain ⟨rfl, hrs⟩ := SelfDelimiting.flatMap h xs ys (fun z hz => hx z (by simp [hz]))
      (fun z hz => hy z (by simp [hz])) (by simpa using hl) r s he'
    exact ⟨rfl, hrs⟩

/-- A list behind the number of its elements, as a four-byte big-endian integer. -/
def counted (enc : α → Bytes) (xs : List α) : Bytes := beBytes 4 xs.length ++ xs.flatMap enc

/-- **A count delimits** a list of self-delimiting elements. -/
theorem SelfDelimiting.counted (h : SelfDelimiting P enc) :
    SelfDelimiting (fun xs : List α => xs.length < 256 ^ 4 ∧ ∀ x ∈ xs, P x) (counted enc) := by
  rintro xs ys ⟨hxl, hx⟩ ⟨hyl, hy⟩ r s he
  obtain ⟨hlen, he'⟩ := selfDelimiting_beBytes 4 _ _ hxl hyl _ _ he
  exact h.flatMap xs ys hx hy hlen r s he'

/-- A whole byte string that is nothing but a list of elements needs no count, as long as
no element is encoded by the empty string. -/
theorem SelfDelimiting.flatMap_inj (h : SelfDelimiting P enc) (hne : ∀ a, P a → enc a ≠ []) :
    ∀ (xs ys : List α), (∀ x ∈ xs, P x) → (∀ y ∈ ys, P y) →
      xs.flatMap enc = ys.flatMap enc → xs = ys
  | [], [], _, _, _ => rfl
  | [], y :: ys, _, hy, he => by
    rw [flatMap_nil, flatMap_cons, eq_comm, append_eq_nil_iff] at he
    exact absurd he.1 (hne y (hy y (by simp)))
  | x :: xs, [], hx, _, he => by
    rw [flatMap_nil, flatMap_cons, append_eq_nil_iff] at he
    exact absurd he.1 (hne x (hx x (by simp)))
  | x :: xs, y :: ys, hx, hy, he => by
    rw [flatMap_cons, flatMap_cons] at he
    obtain ⟨rfl, he'⟩ := h x y (hx x (by simp)) (hy y (by simp)) _ _ he
    rw [SelfDelimiting.flatMap_inj h hne xs ys (fun z hz => hx z (by simp [hz]))
      (fun z hz => hy z (by simp [hz])) he']

variable {R : α → β → Prop}

/-- **A loop that appends.** If every successful step of a fold extends its buffer by the
encoding of some `y` related to the element it read, then a successful fold extends the buffer
by the encodings of a list related to the whole input, element by element. -/
theorem foldlM_append_ok {ε : Type} {step : Bytes → α → Except ε Bytes}
    {enc : β → Bytes}
    (hstep : ∀ acc x out, step acc x = .ok out → ∃ y, R x y ∧ out = acc ++ enc y) :
    ∀ (xs : List α) (acc out : Bytes), xs.foldlM step acc = .ok out →
      ∃ ys, List.Forall₂ R xs ys ∧ out = acc ++ ys.flatMap enc
  | [], acc, out, h => by
    rw [foldlM_nil] at h
    cases h
    exact ⟨[], .nil, by simp⟩
  | x :: xs, acc, out, h => by
    rw [foldlM_cons] at h
    cases hx : step acc x with
    | error e =>
      rw [hx] at h
      cases h
    | ok mid =>
      rw [hx] at h
      obtain ⟨y, hR, rfl⟩ := hstep acc x mid hx
      obtain ⟨ys, hRs, rfl⟩ := foldlM_append_ok hstep xs _ out h
      exact ⟨y :: ys, .cons hR hRs, by simp⟩

theorem forall_mem_of_forall₂ {P : β → Prop} (hR : ∀ x y, R x y → P y)
    {xs : List α} {ys : List β} (h : List.Forall₂ R xs ys) : ∀ y ∈ ys, P y := by
  induction h with
  | nil => simp
  | cons hxy _ ih => exact forall_mem_cons.mpr ⟨hR _ _ hxy, ih⟩

end

end Tarka.Lib
