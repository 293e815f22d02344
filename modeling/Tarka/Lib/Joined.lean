import Mathlib.Tactic

/-! # Texts joined by a separator

A pair joined by a separator can be read in more than one way when a part may hold the separator
itself. Two pairs that are joined to one text are equal, or one of them is the other with the
separator shifted (`joined_eq_iff`). -/

namespace Tarka.Lib

open List

section

variable {α : Type} {sep : α} {p q : List α × List α}

def joined (sep : α) (p : List α × List α) : List α := p.1 ++ sep :: p.2

/-- A piece `m` and a separator have moved from the second part of `p` to the first part of `q`. -/
def Shifted (sep : α) (p q : List α × List α) : Prop :=
  ∃ m, q.1 = p.1 ++ sep :: m ∧ p.2 = m ++ sep :: q.2

def Clash (sep : α) (p q : List α × List α) : Prop := Shifted sep p q ∨ Shifted sep q p

theorem joined_eq_of_shifted (h : Shifted sep p q) : joined sep p = joined sep q := by
  obtain ⟨m, hfirst, hsecond⟩ := h
  rw [joined, joined, hfirst, hsecond, append_assoc, cons_append]

theorem shifted_or_eq {l₁ l₂ r₁ r₂ m : List α} (hfirst : r₁ = l₁ ++ m)
    (hsecond : sep :: l₂ = m ++ sep :: r₂) :
    (l₁, l₂) = (r₁, r₂) ∨ Shifted sep (l₁, l₂) (r₁, r₂) := by
  cases m with
  | nil =>
    rw [append_nil] at hfirst
    exact .inl (by rw [hfirst, (List.cons.inj hsecond).2])
  | cons x m =>
    obtain ⟨hx, hrest⟩ := List.cons.inj hsecond
    exact .inr ⟨m, by rw [hfirst, hx], hrest⟩

/-- **When two pairs are joined to one text.** -/
theorem joined_eq_iff : joined sep p = joined sep q ↔ p = q ∨ Clash sep p q := by
  constructor
  · intro h
    rcases append_eq_append_iff.mp h with ⟨m, hfirst, hsecond⟩ | ⟨m, hfirst, hsecond⟩
    · exact (shifted_or_eq hfirst hsecond).imp id .inl
    · exact (shifted_or_eq hfirst hsecond).imp Eq.symm .inr
  · rintro (rfl | h | h)
    · rfl
    · exact joined_eq_of_shifted h
    · exact (joined_eq_of_shifted h).symm

theorem Shifted.length_lt (h : Shifted sep p q) : p.1.length < q.1.length := by
  obtain ⟨m, hfirst, -⟩ := h
  rw [hfirst, length_append, length_cons]
  omega

theorem Clash.length_ne (h : Clash sep p q) : p.1.length ≠ q.1.length := by
  rcases h with h | h
  · exact Nat.ne_of_lt h.length_lt
  · exact Nat.ne_of_gt h.length_lt

theorem Clash.snd_length_ne (h : Clash sep p q) : p.2.length ≠ q.2.length := by
  rcases h with ⟨m, -, hsecond⟩ | ⟨m, -, hsecond⟩
  · rw [hsecond, length_append, length_cons]
    omega
  · rw [hsecond, length_append, length_cons]
    omega

/-- Without the separator in their first parts two pairs do not clash. -/
theorem not_clash (hp : sep ∉ p.1) (hq : sep ∉ q.1) : ¬ Clash sep p q := by
  rintro (⟨m, hfirst, -⟩ | ⟨m, hfirst, -⟩)
  · exact hq (by simp [hfirst])
  · exact hp (by simp [hfirst])

theorem not_clash_of_snd (hp : sep ∉ p.2) (hq : sep ∉ q.2) : ¬ Clash sep p q := by
  rintro (⟨m, -, hsecond⟩ | ⟨m, -, hsecond⟩)
  · exact hp (by simp [hsecond])
  · exact hq (by simp [hsecond])

theorem isPrefix_append_singleton_iff {a l : List α} :
    a ++ [sep] <+: l ↔ ∃ t, a ++ sep :: t = l := by
  constructor
  · rintro ⟨t, h⟩
    exact ⟨t, by rw [← h, append_assoc, singleton_append]⟩
  · rintro ⟨t, h⟩
    exact ⟨t, by rw [← h, append_assoc, singleton_append]⟩

/-- **When a first part with the separator after it begins a joined text.** -/
theorem isPrefix_joined_iff {a : List α} :
    a ++ [sep] <+: joined sep q
      ↔ a = q.1 ∨ (∃ m, q.1 = a ++ sep :: m)
        ∨ ∃ m, a = q.1 ++ sep :: m ∧ m ++ [sep] <+: q.2 := by
  rw [isPrefix_append_singleton_iff]
  constructor
  · rintro ⟨t, h⟩
    rcases joined_eq_iff.mp (show joined sep (a, t) = joined sep q from h) with heq | h | h
    · exact .inl (congrArg Prod.fst heq)
    · obtain ⟨m, hfirst, -⟩ := h
      exact .inr (.inl ⟨m, hfirst⟩)
    · obtain ⟨m, hfirst, hsecond⟩ := h
      exact .inr (.inr ⟨m, hfirst, isPrefix_append_singleton_iff.mpr ⟨t, hsecond.symm⟩⟩)
  · rintro (heq | ⟨m, hfirst⟩ | ⟨m, hfirst, hsecond⟩)
    · exact ⟨q.2, by rw [heq]; rfl⟩
    · have hshift : Shifted sep (a, m ++ sep :: q.2) q := ⟨m, hfirst, rfl⟩
      exact ⟨m ++ sep :: q.2, joined_eq_of_shifted hshift⟩
    · obtain ⟨t, ht⟩ := isPrefix_append_singleton_iff.mp hsecond
      have hshift : Shifted sep q (a, t) := ⟨m, hfirst, ht.symm⟩
      exact ⟨t, (joined_eq_of_shifted hshift).symm⟩

end

end Tarka.Lib
