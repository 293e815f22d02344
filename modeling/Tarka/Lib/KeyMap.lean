import Tarka.Lib.Text

/-! # Maps with string keys

A map is its list of entries, in whatever order its iterator yields them, with no key twice.
Code that hashes or compares a map sorts the keys first; `sortedEntries` is what such code
walks over, and `get?_eq_of_sortedEntries_eq` says that it determines the map. -/

namespace Tarka.Lib

open List Option

/-- A map from strings, with every key at most once. -/
structure KeyMap (V : Type) where
  entries : List (String × V)
  nodup : (entries.map Prod.fst).Nodup

namespace KeyMap

variable {V : Type}

def empty : KeyMap V := ⟨[], by simp⟩

def keys (m : KeyMap V) : List String := m.entries.map Prod.fst

def get? (m : KeyMap V) (k : String) : Option V := m.entries.lookup k

def insert (m : KeyMap V) (k : String) (v : V) : KeyMap V where
  entries := m.entries.filter (fun e => decide (e.1 ≠ k)) ++ [(k, v)]
  nodup := by
    rw [List.map_append, List.nodup_append]
    refine ⟨(m.nodup.sublist (List.filter_sublist.map _)), by simp, ?_⟩
    rintro a ha b hb rfl
    obtain ⟨e, he, rfl⟩ := List.mem_map.mp ha
    have hne := (List.mem_filter.mp he).2
    simp at hb hne
    exact hne hb

def erase (m : KeyMap V) (k : String) : KeyMap V where
  entries := m.entries.filter (fun e => decide (e.1 ≠ k))
  nodup := m.nodup.sublist (List.filter_sublist.map _)

def map {W : Type} (f : V → W) (m : KeyMap V) : KeyMap W where
  entries := m.entries.map (fun e => (e.1, f e.2))
  nodup := by
    rw [List.map_map]
    exact m.nodup

theorem lookup_map {W : Type} (f : V → W) (k : String) : ∀ l : List (String × V),
    (l.map (fun e => (e.1, f e.2))).lookup k = (l.lookup k).map f
  | [] => rfl
  | (k', v) :: l => by
    rw [map_cons, lookup_cons, lookup_cons, lookup_map f k l]
    cases k == k' <;> rfl

@[simp] theorem get?_map {W : Type} (f : V → W) (m : KeyMap V) (k : String) :
    (m.map f).get? k = (m.get? k).map f := lookup_map f k m.entries

theorem mem_entries_of_lookup {l : List (String × V)} {k : String} {v : V}
    (h : l.lookup k = some v) : (k, v) ∈ l := by
  obtain ⟨l₁, l₂, rfl, -⟩ := lookup_eq_some_iff.mp h
  simp

theorem lookup_of_mem_entries {l : List (String × V)} {k : String} {v : V}
    (hnd : (l.map Prod.fst).Nodup) (h : (k, v) ∈ l) : l.lookup k = some v := by
  obtain ⟨l₁, l₂, rfl⟩ := append_of_mem h
  refine lookup_eq_some_iff.mpr ⟨l₁, l₂, rfl, ?_⟩
  rw [map_append, nodup_append] at hnd
  intro p hp
  exact bne_iff_ne.mpr (hnd.2.2 p.1 (mem_map_of_mem hp) k (by simp)).symm

theorem lookup_eq_of_perm {l l' : List (String × V)} (hperm : l.Perm l')
    (hnd : (l.map Prod.fst).Nodup) (k : String) : l.lookup k = l'.lookup k := by
  have hnd' : (l'.map Prod.fst).Nodup := (hperm.map Prod.fst).nodup_iff.mp hnd
  apply ext
  intro v
  constructor
  · intro h
    exact lookup_of_mem_entries hnd' (hperm.mem_iff.mp (mem_entries_of_lookup h))
  · intro h
    exact lookup_of_mem_entries hnd (hperm.mem_iff.mpr (mem_entries_of_lookup h))

theorem get?_eq_some_iff (m : KeyMap V) (k : String) (v : V) :
    m.get? k = some v ↔ (k, v) ∈ m.entries :=
  ⟨mem_entries_of_lookup, lookup_of_mem_entries m.nodup⟩

theorem lookup_filter_key (l : List (String × V)) (q : String → Bool) (k : String) :
    (l.filter (fun e => q e.1)).lookup k = if q k = true then l.lookup k else none := by
  induction l with
  | nil => simp
  | cons e l ih =>
    rw [lookup_cons, filter_cons]
    by_cases hk : k = e.1
    · by_cases hq : q e.1 = true
      · rw [if_pos hq, lookup_cons, hk, if_pos hq, beq_self_eq_true]
      · rw [if_neg hq, ih, hk, if_neg hq, if_neg hq]
    · rw [beq_false_of_ne hk]
      by_cases hq : q e.1 = true
      · rw [if_pos hq, lookup_cons, beq_false_of_ne hk, ih]
      · rw [if_neg hq, ih]

theorem lookup_filter_ne (l : List (String × V)) (k k' : String) :
    (l.filter (fun e => decide (e.1 ≠ k))).lookup k' = if k' = k then none else l.lookup k' := by
  rw [lookup_filter_key l (fun key => decide (key ≠ k))]
  by_cases hk : k' = k
  · simp [hk]
  · simp [hk]

theorem get?_erase (m : KeyMap V) (k k' : String) :
    (m.erase k).get? k' = if k' = k then none else m.get? k' := lookup_filter_ne m.entries k k'

theorem get?_insert (m : KeyMap V) (k k' : String) (v : V) :
    (m.insert k v).get? k' = if k' = k then some v else m.get? k' := by
  show (m.entries.filter (fun e => decide (e.1 ≠ k)) ++ [(k, v)]).lookup k' = _
  rw [lookup_append, lookup_filter_ne, lookup_cons]
  by_cases hk : k' = k
  · simp [hk]
  · simp [hk, beq_false_of_ne hk, get?]

theorem get?_foldl_insert (es : List (String × V)) (hnd : (es.map Prod.fst).Nodup) (m : KeyMap V)
    (k : String) :
    (es.foldl (fun m e => m.insert e.1 e.2) m).get? k = (es.lookup k).or (m.get? k) := by
  induction es generalizing m with
  | nil => simp
  | cons e es ih =>
    rw [map_cons, nodup_cons] at hnd
    rw [foldl_cons, ih hnd.2, get?_insert, lookup_cons]
    by_cases hk : k = e.1
    · have hlookup : es.lookup e.1 = none := by
        rw [lookup_eq_none_iff]
        intro e' he'
        exact bne_iff_ne.mpr (fun heq => hnd.1 (mem_map.mpr ⟨e', he', heq.symm⟩))
      simp [hk, hlookup]
    · simp [hk, beq_false_of_ne hk]

variable {m : KeyMap V}

theorem mem_keys_iff {k : String} : k ∈ m.keys ↔ ∃ v, m.get? k = some v := by
  constructor
  · intro h
    obtain ⟨⟨k', v⟩, hmem, rfl⟩ := mem_map.mp h
    exact ⟨v, (m.get?_eq_some_iff _ _).mpr hmem⟩
  · rintro ⟨v, h⟩
    exact mem_map.mpr ⟨(k, v), (m.get?_eq_some_iff k v).mp h, rfl⟩

def sortedEntries (m : KeyMap V) : List (String × V) :=
  (sortByBytes m.keys).filterMap (fun k => (m.get? k).map (fun v => (k, v)))

theorem mem_sortedEntries (m : KeyMap V) (k : String) (v : V) :
    (k, v) ∈ m.sortedEntries ↔ m.get? k = some v := by
  simp only [sortedEntries, mem_filterMap, map_eq_some_iff, Prod.mk.injEq]
  constructor
  · rintro ⟨k', -, v', h, rfl, rfl⟩
    exact h
  · intro h
    refine ⟨k, ?_, v, h, rfl, rfl⟩
    rw [(sortByBytes_perm m.keys).mem_iff]
    exact mem_keys_iff.mpr ⟨v, h⟩

theorem sortedEntries_keys (m : KeyMap V) : m.sortedEntries.map Prod.fst = sortByBytes m.keys := by
  have hkeys : ∀ k ∈ sortByBytes m.keys, (m.get? k).map (fun v => (k, v).1) = some k := by
    intro k hk
    obtain ⟨v, hv⟩ := mem_keys_iff.mp ((sortByBytes_perm m.keys).mem_iff.mp hk)
    rw [hv, map_some]
  rw [sortedEntries, map_filterMap]
  generalize sortByBytes m.keys = ks at hkeys
  induction ks with
  | nil => rfl
  | cons k ks ih =>
    have hhead := hkeys k (by simp)
    rw [filterMap_cons, Option.map_map, show (m.get? k).map (Prod.fst ∘ fun v => (k, v))
      = some k from hhead, ih (fun k' hk' => hkeys k' (mem_cons_of_mem _ hk'))]

theorem nodup_sortedEntries (m : KeyMap V) : (m.sortedEntries.map Prod.fst).Nodup := by
  rw [sortedEntries_keys]
  exact (sortByBytes_perm _).nodup_iff.mpr m.nodup

theorem length_sortedEntries (m : KeyMap V) : m.sortedEntries.length = m.entries.length := by
  rw [← length_map Prod.fst, sortedEntries_keys, (sortByBytes_perm _).length_eq, keys, length_map]

theorem sortedEntries_eq_map {β : Type} {R : String → β → Prop}
    {f : β → String × V} (hR : ∀ k y, R k y → (f y).1 = k ∧ m.get? k = some (f y).2) {ys : List β}
    (h : Forall₂ R (sortByBytes m.keys) ys) : m.sortedEntries = ys.map f := by
  unfold sortedEntries
  generalize sortByBytes m.keys = ks at h
  induction h with
  | nil => rfl
  | cons hy _ ih =>
    obtain ⟨rfl, hget⟩ := hR _ _ hy
    rw [filterMap_cons, hget]
    simp [ih]

/-- **The sorted entries determine the map.** -/
theorem get?_eq_of_sortedEntries_eq {m₁ m₂ : KeyMap V}
    (h : m₁.sortedEntries = m₂.sortedEntries) (k : String) : m₁.get? k = m₂.get? k := by
  apply ext
  intro v
  rw [← mem_sortedEntries, ← mem_sortedEntries, h]

/-! ## Lists of entries -/

/-- Entries in the byte order of their keys; those of one key keep their order. -/
def sortKeys (es : List (String × V)) : List (String × V) :=
  es.insertionSort (fun a b => byteLe a.1 b.1 = true)

theorem sortKeys_perm (es : List (String × V)) : (sortKeys es).Perm es :=
  perm_insertionSort _ es

instance : IsTrans (String × V) (fun a b => byteLe a.1 b.1) :=
  ⟨fun a b c => IsTrans.trans (r := fun a b => byteLe a b = true) a.1 b.1 c.1⟩

instance : Std.Total (fun a b : String × V => byteLe a.1 b.1) :=
  ⟨fun a b => Std.Total.total (r := fun a b => byteLe a b = true) a.1 b.1⟩

theorem sortKeys_sorted (es : List (String × V)) :
    (sortKeys es).Pairwise (fun a b => byteLe a.1 b.1) :=
  pairwise_insertionSort _ es

variable {es : List (String × V)} {l₁ l₂ : List (String × V)}

theorem sortKeys_eq_of_perm (hperm : l₁.Perm l₂)
    (hnd : (l₁.map Prod.fst).Nodup) : sortKeys l₁ = sortKeys l₂ := by
  have hnd' : (l₂.map Prod.fst).Nodup := (hperm.map Prod.fst).nodup_iff.mp hnd
  refine insertionSort_eq_of_perm hperm ?_
  intro a ha b hb hab hba
  exact inj_on_of_nodup_map hnd' ha hb (byteLe_antisymm hab hba)

theorem filter_sortKeys (hnd : (es.map Prod.fst).Nodup)
    (p : String × V → Bool) : (sortKeys es).filter p = sortKeys (es.filter p) := by
  have hsorted : ((sortKeys es).filter p).Pairwise (fun a b => byteLe a.1 b.1) :=
    (sortKeys_sorted es).filter p
  have hperm : (es.filter p).Perm ((sortKeys es).filter p) := (sortKeys_perm es).symm.filter p
  have hkeys : ((es.filter p).map Prod.fst).Nodup := hnd.sublist (filter_sublist.map Prod.fst)
  calc (sortKeys es).filter p
      = sortKeys ((sortKeys es).filter p) := hsorted.insertionSort_eq.symm
    _ = sortKeys (es.filter p) := (sortKeys_eq_of_perm hperm hkeys).symm

end KeyMap

end Tarka.Lib
