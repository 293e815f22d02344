import Mathlib.Tactic

/-! # Dictionaries in insertion order

A dictionary is the list of its entries. Assigning to a key that is there keeps its place; a new
key goes to the end. A dictionary is *proper* when no key occurs twice, and a loop that assigns the
entries of a proper dictionary one by one rebuilds it (`rebuild_self`). A `part` is what one of
several users of a dictionary sees of it. -/

namespace Tarka.Lib.Dict

open List

variable {κ V W : Type} [DecidableEq κ]

/-- `d[k] = v`. -/
def set : List (κ × V) → κ → V → List (κ × V)
  | [], k, v => [(k, v)]
  | (k', v') :: d, k, v => if k' = k then (k, v) :: d else (k', v') :: set d k v

def setDefault (d : List (κ × V)) (k : κ) (v : V) : List (κ × V) :=
  if k ∈ d.map Prod.fst then d else d ++ [(k, v)]

/-- `d.pop(k, None)`. -/
def erase (d : List (κ × V)) (k : κ) : List (κ × V) := d.filter (fun e => decide (e.1 ≠ k))

/-- A loop over the entries of a dictionary that assigns to a new one; `none` skips an entry. -/
def rebuild (f : κ × V → Option (κ × W)) (d : List (κ × V)) : List (κ × W) :=
  d.foldl (fun acc e => (f e).elim acc (fun e' => set acc e'.1 e'.2)) []

def Proper (d : List (κ × V)) : Prop := (d.map Prod.fst).Nodup

variable {d : List (κ × V)} {k : κ}

omit [DecidableEq κ] in
theorem proper_cons {e : κ × V} : Proper (e :: d) ↔ e.1 ∉ d.map Prod.fst ∧ Proper d := nodup_cons

theorem set_of_not_mem (h : k ∉ d.map Prod.fst) (v : V) : set d k v = d ++ [(k, v)] := by
  induction d with
  | nil => rfl
  | cons e d ih =>
    simp only [map_cons, mem_cons, not_or] at h
    rw [set, if_neg (fun heq => h.1 heq.symm), ih h.2, cons_append]

theorem map_fst_set (d : List (κ × V)) (k : κ) (v : V) :
    (set d k v).map Prod.fst
      = if k ∈ d.map Prod.fst then d.map Prod.fst else d.map Prod.fst ++ [k] := by
  induction d with
  | nil => simp [set]
  | cons e d ih =>
    by_cases hk : e.1 = k
    · simp [set, hk]
    · have hne : ¬ k = e.1 := fun heq => hk heq.symm
      rw [set, if_neg hk, map_cons, ih]
      by_cases hmem : k ∈ d.map Prod.fst
      · rw [if_pos hmem, if_pos (by simp [hmem])]
        rfl
      · rw [if_neg hmem, if_neg (by simp [hne, hmem])]
        rfl

theorem Proper.set (h : Proper d) (k : κ) (v : V) : Proper (set d k v) := by
  unfold Proper
  rw [map_fst_set]
  split_ifs with hmem
  · exact h
  · rw [nodup_append]
    refine ⟨h, by simp, ?_⟩
    intro a ha b hb
    rw [mem_singleton.mp hb]
    rintro rfl
    exact hmem ha

variable {v : V} {e : κ × V}

theorem mem_set (h : e ∈ set d k v) : e = (k, v) ∨ e ∈ d := by
  induction d with
  | nil => exact Or.inl (mem_singleton.mp h)
  | cons a d ih =>
    rw [set] at h
    split_ifs at h
    · rcases mem_cons.mp h with rfl | h
      · exact .inl rfl
      · exact .inr (mem_cons_of_mem _ h)
    · rcases mem_cons.mp h with rfl | h
      · exact .inr (by simp)
      · rcases ih h with heq | hd
        · exact .inl heq
        · exact .inr (mem_cons_of_mem _ hd)

theorem mem_keys_set {k' : κ}
    (h : k' ∈ (set d k v).map Prod.fst) : k' = k ∨ k' ∈ d.map Prod.fst := by
  obtain ⟨e, he, rfl⟩ := mem_map.mp h
  rcases mem_set he with rfl | he
  · exact .inl rfl
  · exact .inr (mem_map_of_mem he)

theorem lookup_set [BEq κ] [LawfulBEq κ] (d : List (κ × V)) (k k' : κ) (v : V) :
    (set d k v).lookup k' = if k' = k then some v else d.lookup k' := by
  induction d with
  | nil =>
    rw [set, lookup_cons]
    by_cases hk : k' = k
    · simp [hk]
    · rw [beq_false_of_ne hk, if_neg hk]
  | cons e d ih =>
    by_cases he : e.1 = k
    · rw [set, if_pos he, lookup_cons, lookup_cons, he]
      by_cases hk : k' = k
      · simp [hk]
      · simp [hk, beq_false_of_ne hk]
    · rw [set, if_neg he, lookup_cons, lookup_cons, ih]
      by_cases hk : k' = e.1
      · simp [hk, he]
      · simp [beq_false_of_ne hk]

theorem foldl_set_of_disjoint (d acc : List (κ × V)) (hd : Proper d)
    (hdisjoint : ∀ e ∈ d, e.1 ∉ acc.map Prod.fst) :
    d.foldl (fun acc e => set acc e.1 e.2) acc = acc ++ d := by
  induction d generalizing acc with
  | nil => simp
  | cons e d ih =>
    have hnd := proper_cons.mp hd
    rw [foldl_cons, set_of_not_mem (hdisjoint e (by simp)), ih _ hnd.2, append_assoc]
    · rfl
    · intro e' he' hmem
      rw [map_append, mem_append] at hmem
      rcases hmem with hmem | hmem
      · exact hdisjoint e' (mem_cons_of_mem _ he') hmem
      · have heq : e'.1 = e.1 := by simpa using hmem
        exact hnd.1 (heq ▸ mem_map_of_mem he')

/-- **A loop that assigns every entry unchanged rebuilds the dictionary.** -/
theorem rebuild_self {f : κ × V → Option (κ × V)} (hd : Proper d)
    (hf : ∀ e ∈ d, f e = some e) : rebuild f d = d := by
  have hloop : ∀ acc, d.foldl (fun acc e => (f e).elim acc (fun e' => set acc e'.1 e'.2)) acc
      = d.foldl (fun acc e => set acc e.1 e.2) acc := by
    intro acc
    apply foldl_ext
    intro acc e he
    rw [hf e he]
    rfl
  calc rebuild f d = d.foldl (fun acc e => set acc e.1 e.2) [] := hloop []
    _ = [] ++ d := foldl_set_of_disjoint d [] hd (by simp)
    _ = d := nil_append d

/-! ## Erasing and filtering -/

theorem erase_cons (e : κ × V) (d : List (κ × V)) (k : κ) :
    erase (e :: d) k = if e.1 = k then erase d k else e :: erase d k := by
  by_cases hk : e.1 = k
  · simp [hk, erase]
  · simp [hk, erase]

omit [DecidableEq κ] in
theorem Proper.filter (h : Proper d) (p : κ × V → Bool) : Proper (d.filter p) :=
  h.sublist (filter_sublist.map Prod.fst)

theorem Proper.erase (h : Proper d) (k : κ) : Proper (erase d k) := h.filter _

theorem lookup_filter [BEq κ] [LawfulBEq κ] (h : Proper d) (p : V → Bool)
    (k : κ) : (d.filter (fun e => p e.2)).lookup k = (d.lookup k).filter p := by
  induction d with
  | nil => rfl
  | cons e d ih =>
    have hnd := proper_cons.mp h
    rw [lookup_cons]
    by_cases hk : k = e.1
    · have hnone : (d.filter (fun e => p e.2)).lookup e.1 = none := by
        rw [lookup_eq_none_iff]
        intro e' he'
        have hmem := mem_map_of_mem (f := Prod.fst) (mem_of_mem_filter he')
        exact bne_iff_ne.mpr (fun heq => hnd.1 (heq ▸ hmem))
      rw [filter_cons]
      by_cases hp : p e.2 = true
      · rw [if_pos hp, lookup_cons, hk, beq_self_eq_true, Option.filter_some, if_pos hp]
      · simp [hp, hk, hnone, Option.filter_some]
    · rw [filter_cons, beq_false_of_ne hk]
      split_ifs
      · rw [lookup_cons, beq_false_of_ne hk, ih hnd.2]
      · rw [ih hnd.2]

theorem filter_erase (d : List (κ × V)) (p : κ × V → Bool) (k : κ) :
    (erase d k).filter p = erase (d.filter p) k := by
  rw [erase, erase, filter_filter, filter_filter]
  simp only [Bool.and_comm]

theorem set_perm (h : Proper d) (k : κ) (v : V) : (set d k v).Perm ((k, v) :: erase d k) := by
  induction d with
  | nil => exact Perm.refl _
  | cons e d ih =>
    have hnd := proper_cons.mp h
    by_cases he : e.1 = k
    · have hrest : erase (e :: d) k = d := by
        rw [erase_cons, if_pos he, erase, filter_eq_self]
        intro e' he'
        have hne : e'.1 ≠ k := fun heq => hnd.1 (he ▸ heq ▸ mem_map_of_mem he')
        simp [hne]
      rw [set, if_pos he, hrest]
    · rw [set, if_neg he, erase_cons, if_neg he]
      exact ((ih hnd.2).cons e).trans (Perm.swap _ _ _)

theorem mem_set_iff (h : Proper d) : e ∈ set d k v ↔ e = (k, v) ∨ e ∈ d ∧ e.1 ≠ k := by
  rw [(set_perm h k v).mem_iff, mem_cons, erase, mem_filter, decide_eq_true_iff]

omit [DecidableEq κ] in
/-- A loop over a dictionary in which only one key yields anything. -/
theorem flatMap_eq_lookup [BEq κ] [LawfulBEq κ] (hd : Proper d) {g : κ × V → List W}
    (h : ∀ e ∈ d, e.1 ≠ k → g e = []) : d.flatMap g = (d.lookup k).elim [] (fun v => g (k, v)) := by
  induction d with
  | nil => rfl
  | cons e d ih =>
    have hnd := proper_cons.mp hd
    have htail : ∀ e' ∈ d, e'.1 ≠ k → g e' = [] := fun e' he' => h e' (mem_cons_of_mem _ he')
    rw [flatMap_cons, lookup_cons]
    by_cases hk : k = e.1
    · have hrest : d.flatMap g = [] := by
        rw [flatMap_eq_nil_iff]
        intro e' he'
        exact htail e' he' (fun heq => hnd.1 (heq.trans hk ▸ mem_map_of_mem he'))
      rw [hrest, append_nil, hk, beq_self_eq_true, Option.elim_some]
    · rw [h e (by simp) (fun heq => hk heq.symm), nil_append, beq_false_of_ne hk, ih hnd.2 htail]

/-- The dictionary of what the elements of a list tell, later ones over earlier ones. -/
def collect {α : Type} (f : α → Option (κ × V)) (as : List α) : List (κ × V) :=
  as.foldl (fun d a => (f a).elim d (fun e => set d e.1 e.2)) []

theorem exists_lookup_collect [BEq κ] [LawfulBEq κ] {α : Type} {f : α → Option (κ × V)}
    {as : List α} {a : α} (ha : a ∈ as) (hf : f a = some (k, v)) :
    ∃ a' ∈ as, ∃ v', f a' = some (k, v') ∧ (collect f as).lookup k = some v' := by
  induction as using reverseRecOn with
  | nil => cases ha
  | append_singleton as last ih =>
    have hlast : last ∈ as ++ [last] := mem_append_right _ (mem_singleton_self _)
    rw [collect, foldl_append, ← collect, foldl_cons, foldl_nil]
    -- the value is that of the last element, or stands since before
    cases htold : f last with
    | none =>
      have hbefore : a ∈ as := by
        refine (mem_append.mp ha).resolve_right (fun h => ?_)
        rw [mem_singleton.mp h, htold] at hf
        cases hf
      obtain ⟨a', ha', v', hf', hlookup⟩ := ih hbefore
      exact ⟨a', mem_append_left _ ha', v', hf', hlookup⟩
    | some e =>
      rw [Option.elim_some, lookup_set]
      by_cases hk : k = e.1
      · exact ⟨last, hlast, e.2, by rw [htold, hk], by rw [if_pos hk]⟩
      · have hbefore : a ∈ as := by
          refine (mem_append.mp ha).resolve_right (fun h => hk ?_)
          rw [mem_singleton.mp h, htold] at hf
          rw [Option.some.inj hf]
        obtain ⟨a', ha', v', hf', hlookup⟩ := ih hbefore
        exact ⟨a', mem_append_left _ ha', v', hf', by rw [if_neg hk, hlookup]⟩

/-! ## Parts of a dictionary

The values that pass a test, under names of their own. If the keys of such values correspond to the
names, then the part is a dictionary and the operations on the whole are those on the part. -/

section

variable {κ' : Type} [DecidableEq κ'] (own : V → Bool) (name : V → κ')

def part (d : List (κ × V)) : List (κ' × V) :=
  (d.filter (fun e => own e.2)).map (fun e => (name e.2, e.2))

variable {own name} {d : List (κ × V)} {k : κ} {v : V} {n : κ'}

omit [DecidableEq κ] [DecidableEq κ'] in
theorem part_cons_own (h : own e.2) :
    part own name (e :: d) = (name e.2, e.2) :: part own name d := by
  simp [part, h]

omit [DecidableEq κ] [DecidableEq κ'] in
theorem part_cons_other (h : own e.2 = false) : part own name (e :: d) = part own name d := by
  simp [part, h]

def Stands (own : V → Bool) (name : V → κ') (d : List (κ × V)) (k : κ) (n : κ') : Prop :=
  ∀ e ∈ d, e.1 = k ↔ own e.2 = true ∧ name e.2 = n

omit [DecidableEq κ] [DecidableEq κ'] in
theorem Stands.tail (h : Stands own name (e :: d) k n) : Stands own name d k n :=
  fun e' he' => h e' (mem_cons_of_mem _ he')

theorem part_set_own (hv : own v) (h : Stands own name d k (name v)) :
    part own name (set d k v) = set (part own name d) (name v) v := by
  induction d with
  | nil => simp [set, part, hv]
  | cons e d ih =>
    by_cases hk : e.1 = k
    · obtain ⟨hown, hname⟩ := (h e (by simp)).mp hk
      have hv' : own (k, v).2 := hv
      rw [set, if_pos hk, part_cons_own hv', part_cons_own hown, set, if_pos hname]
    · rw [set, if_neg hk]
      cases hown : own e.2 with
      | true =>
        have hname : ¬ name e.2 = name v := fun heq => hk ((h e (by simp)).mpr ⟨hown, heq⟩)
        rw [part_cons_own hown, part_cons_own hown, set, if_neg hname, ih h.tail]
      | false => rw [part_cons_other hown, part_cons_other hown, ih h.tail]

omit [DecidableEq κ'] in
theorem part_set_other (hv : own v = false) (h : ∀ e ∈ d, e.1 = k → own e.2 = false) :
    part own name (set d k v) = part own name d := by
  induction d with
  | nil => simp [set, part, hv]
  | cons e d ih =>
    have htail : ∀ e ∈ d, e.1 = k → own e.2 = false := fun e' he' => h e' (mem_cons_of_mem _ he')
    by_cases hk : e.1 = k
    · have hv' : own (k, v).2 = false := hv
      rw [set, if_pos hk, part_cons_other hv', part_cons_other (h e (by simp) hk)]
    · rw [set, if_neg hk]
      cases hown : own e.2 with
      | true => rw [part_cons_own hown, part_cons_own hown, ih htail]
      | false => rw [part_cons_other hown, part_cons_other hown, ih htail]

theorem part_erase_own (h : Stands own name d k n) :
    part own name (erase d k) = erase (part own name d) n := by
  induction d with
  | nil => rfl
  | cons e d ih =>
    by_cases hk : e.1 = k
    · obtain ⟨hown, hname⟩ := (h e (by simp)).mp hk
      rw [erase_cons, if_pos hk, part_cons_own hown, erase_cons, if_pos hname, ih h.tail]
    · rw [erase_cons, if_neg hk]
      cases hown : own e.2 with
      | true =>
        have hname : ¬ name e.2 = n := fun heq => hk ((h e (by simp)).mpr ⟨hown, heq⟩)
        rw [part_cons_own hown, part_cons_own hown, ih h.tail, erase_cons, if_neg hname]
      | false => rw [part_cons_other hown, part_cons_other hown, ih h.tail]

omit [DecidableEq κ'] in
theorem part_erase_other (h : ∀ e ∈ d, e.1 = k → own e.2 = false) :
    part own name (erase d k) = part own name d := by
  have hfilter : (d.filter (fun e => decide (e.1 ≠ k))).filter (fun e => own e.2)
      = d.filter (fun e => own e.2) := by
    rw [filter_filter]
    refine filter_congr (fun e he => ?_)
    cases hown : own e.2 with
    | true =>
      have hne : e.1 ≠ k := fun heq => by rw [h e he heq] at hown; cases hown
      simp [hne]
    | false => simp
  rw [part, part, erase, hfilter]

omit [DecidableEq κ'] in
theorem lookup_part [BEq κ] [LawfulBEq κ] [BEq κ'] [LawfulBEq κ'] (h : Stands own name d k n) :
    (part own name d).lookup n = d.lookup k := by
  induction d with
  | nil => rfl
  | cons e d ih =>
    rw [lookup_cons]
    by_cases hk : k = e.1
    · obtain ⟨hown, hname⟩ := (h e (by simp)).mp hk.symm
      rw [part_cons_own hown]
      simp [hk, hname]
    · rw [beq_false_of_ne hk]
      cases hown : own e.2 with
      | true =>
        have hname : n ≠ name e.2 :=
          fun heq => hk ((h e (by simp)).mpr ⟨hown, heq.symm⟩).symm
        rw [part_cons_own hown, lookup_cons, beq_false_of_ne hname, ih h.tail]
      | false => rw [part_cons_other hown, ih h.tail]

end

end Tarka.Lib.Dict
