import Tarka.Lib.Dict
import Tarka.Lib.KeyMap

/-! # Sorted sets that expire

A sorted set gives every member a score; adding a member again replaces its score. Sets are kept
under keys, and an addition renews the time after which the set under its key is dropped.

Of a run of additions, `ofAdds` is the set without expiry: every member has the score it got last.
If no score is later than the time of its addition, then expiry is not seen by queries for recent
scores (`above_live_perm`). -/

namespace Tarka.Lib.SortedSet

open List Dict KeyMap

abbrev ZSet := List (String × Int)

def zadd (z : ZSet) (member : String) (score : Int) : ZSet := Dict.set z member score

def above (z : ZSet) (cutoff : Int) : ZSet := z.filter (fun x => decide (cutoff ≤ x.2))

/-- `ZCOUNT` up to infinity. -/
def zcount (z : ZSet) (cutoff : Int) : Nat := (above z cutoff).length

/-- The order of a sorted set: by score, and by the bytes of the member. -/
def Before (a b : String × Int) : Prop := a.2 < b.2 ∨ a.2 = b.2 ∧ byteLe a.1 b.1 = true

instance : DecidableRel Before := fun a b =>
  inferInstanceAs (Decidable (a.2 < b.2 ∨ a.2 = b.2 ∧ byteLe a.1 b.1 = true))

/-- `ZRANGEBYSCORE` up to infinity. -/
def zrangeByScore (z : ZSet) (cutoff : Int) : List String :=
  ((above z cutoff).insertionSort Before).map Prod.fst

/-! ## The order -/

theorem before_total (a b : String × Int) : Before a b ∨ Before b a := by
  rcases lt_trichotomy a.2 b.2 with h | h | h
  · exact .inl (.inl h)
  · rcases Bool.or_eq_true_iff.mp (lexLe_total _ (utf8 a.1) (utf8 b.1)) with hle | hle
    · exact .inl (.inr ⟨h, hle⟩)
    · exact .inr (.inr ⟨h.symm, hle⟩)
  · exact .inr (.inl h)

variable {a b : String × Int}

theorem before_trans {c : String × Int} (hab : Before a b) (hbc : Before b c) : Before a c := by
  rcases hab with hab | ⟨hab, hle⟩ <;> rcases hbc with hbc | ⟨hbc, hle'⟩
  · exact .inl (by omega)
  · exact .inl (by omega)
  · exact .inl (by omega)
  · exact .inr ⟨by omega, lexLe_trans _ _ _ _ hle hle'⟩

theorem before_antisymm (hab : Before a b) (hba : Before b a) : a = b := by
  rcases hab with hab | ⟨hab, hle⟩ <;> rcases hba with hba | ⟨hba, hle'⟩
  · omega
  · omega
  · omega
  · exact Prod.ext (byteLe_antisymm hle hle') hab

variable {z : ZSet}

theorem sort_eq_of_perm {z' : ZSet} (h : z.Perm z') :
    z.insertionSort Before = z'.insertionSort Before := by
  have htotal : Std.Total Before := ⟨before_total⟩
  have htrans : IsTrans (String × Int) Before := ⟨fun _ _ _ => before_trans⟩
  exact insertionSort_eq_of_perm h fun _ _ _ _ => before_antisymm

/-! ## Additions -/

def ofAdds (adds : List (String × Int)) : ZSet := adds.foldl (fun z x => zadd z x.1 x.2) []

variable (adds : List (String × Int))

theorem ofAdds_append_singleton (x : String × Int) :
    ofAdds (adds ++ [x]) = zadd (ofAdds adds) x.1 x.2 := by
  rw [ofAdds, foldl_append]
  rfl

theorem proper_ofAdds : Proper (ofAdds adds) := by
  induction adds using reverseRecOn with
  | nil => exact nodup_nil
  | append_singleton adds x ih =>
    rw [ofAdds_append_singleton]
    exact ih.set _ _

theorem lookup_ofAdds (m : String) :
    (ofAdds adds).lookup m = adds.reverse.lookup m := by
  induction adds using reverseRecOn with
  | nil => rfl
  | append_singleton adds x ih =>
    rw [ofAdds_append_singleton, zadd, lookup_set, ih, reverse_append,
      reverse_singleton, singleton_append, lookup_cons]
    split_ifs with hm
    · rw [hm, beq_self_eq_true]
    · rw [beq_false_of_ne hm]

variable {adds : List (String × Int)}

theorem ofAdds_eq_self (h : Proper adds) : ofAdds adds = adds := by
  exact (foldl_set_of_disjoint adds [] h (by simp)).trans (nil_append adds)

theorem proper_above (h : Proper z) (cutoff : Int) : Proper (above z cutoff) :=
  h.filter _

variable {x : String × Int} {cutoff : Int}

theorem mem_above : x ∈ above z cutoff ↔ x ∈ z ∧ cutoff ≤ x.2 := by
  rw [above, mem_filter, decide_eq_true_iff]

variable {m : String}

theorem mem_members_above :
    m ∈ ((above z cutoff).map Prod.fst).toFinset ↔ ∃ score, (m, score) ∈ z ∧ cutoff ≤ score := by
  rw [mem_toFinset, mem_map]
  constructor
  · rintro ⟨x, hx, rfl⟩
    exact ⟨x.2, mem_above.mp hx⟩
  · rintro ⟨score, hx⟩
    exact ⟨(m, score), mem_above.mpr hx, rfl⟩

theorem mem_ofAdds {score : Int} :
    (m, score) ∈ ofAdds adds ↔ adds.reverse.lookup m = some score := by
  rw [← lookup_ofAdds]
  exact ⟨lookup_of_mem_entries (proper_ofAdds adds), mem_entries_of_lookup⟩

/-- **The members with a late score are all that were ever added with one**, exactly if none of them
got an early score last. -/
theorem zcount_ofAdds_eq_iff (adds : List (String × Int)) (cutoff : Int) :
    zcount (ofAdds adds) cutoff = ((above adds cutoff).map Prod.fst).toFinset.card
      ↔ ∀ x ∈ adds, cutoff ≤ x.2 → ∀ score ∈ adds.reverse.lookup x.1, cutoff ≤ score := by
  have hcard : zcount (ofAdds adds) cutoff
      = ((above (ofAdds adds) cutoff).map Prod.fst).toFinset.card := by
    rw [toFinset_card_of_nodup (proper_above (proper_ofAdds adds) cutoff), length_map]
    rfl
  have hsubset : ((above (ofAdds adds) cutoff).map Prod.fst).toFinset
      ⊆ ((above adds cutoff).map Prod.fst).toFinset := by
    intro m hm
    obtain ⟨score, hmem, hcut⟩ := mem_members_above.mp hm
    have hadded := mem_entries_of_lookup (mem_ofAdds.mp hmem)
    exact mem_members_above.mpr ⟨score, mem_reverse.mp hadded, hcut⟩
  rw [hcard]
  constructor
  · intro heq x hx hcut score hscore
    have hsame := Finset.eq_of_subset_of_card_le hsubset heq.ge
    have hm : x.1 ∈ ((above (ofAdds adds) cutoff).map Prod.fst).toFinset := by
      rw [hsame]
      exact mem_members_above.mpr ⟨x.2, hx, hcut⟩
    obtain ⟨score', hmem, hcut'⟩ := mem_members_above.mp hm
    have hlast : some score' = some score := (mem_ofAdds.mp hmem).symm.trans hscore
    cases hlast
    exact hcut'
  · intro hlast
    apply le_antisymm (Finset.card_le_card hsubset)
    apply Finset.card_le_card
    intro m hm
    obtain ⟨score, hmem, hcut⟩ := mem_members_above.mp hm
    cases hlookup : adds.reverse.lookup m with
    | none =>
      rw [lookup_eq_none_iff] at hlookup
      exact absurd rfl (bne_iff_ne.mp (hlookup (m, score) (mem_reverse.mpr hmem)))
    | some time =>
      exact mem_members_above.mpr
        ⟨time, mem_ofAdds.mpr hlookup, hlast (m, score) hmem hcut time hlookup⟩

/-! ## Keys -/

/-- The sets by their keys, with the times at which they are dropped. -/
abbrev Keys := List (String × ZSet × Int)

def live (s : Keys) (key : String) (now : Int) : ZSet :=
  (s.lookup key).elim [] (fun e => if now < e.2 then e.1 else [])

/-- An addition to the set under a key, at a time. -/
structure Add where
  key : String
  member : String
  score : Int
  now : Int

/-- `ZADD` and then `EXPIRE`. -/
def zaddExpire (ttl : Int) (s : Keys) (a : Add) : Keys :=
  Dict.set s a.key (zadd (live s a.key a.now) a.member a.score, a.now + ttl)

def run (ttl : Int) (adds : List Add) : Keys := adds.foldl (zaddExpire ttl) []

def addsTo (key : String) (adds : List Add) : List (String × Int) :=
  (adds.filter (fun a => a.key == key)).map (fun a => (a.member, a.score))

theorem addsTo_append_singleton (key : String) (adds : List Add) (a : Add) :
    addsTo key (adds ++ [a])
      = if a.key = key then addsTo key adds ++ [(a.member, a.score)] else addsTo key adds := by
  unfold addsTo
  by_cases h : a.key = key <;> simp [h]

/-- The set under a key after additions up to a time, compared with the one without expiry: what is
missing was old by then. -/
structure Kept (ttl : Int) (stored : Option (ZSet × Int)) (full : ZSet) (time : Int) : Prop where
  proper : ∀ e ∈ stored, Dict.Proper e.1
  subset : ∀ e ∈ stored, ∀ x ∈ e.1, x ∈ full
  renewed : ∀ e ∈ stored, e.2 ≤ time + ttl ∧ ∀ x ∈ e.1, x.2 + ttl ≤ e.2
  missing : ∀ x ∈ full, (∃ e ∈ stored, x ∈ e.1) ∨ x.2 + ttl ≤ time

section

variable {ttl time : Int} {s : Keys} {key : String} {full : ZSet}
  (h : Kept ttl (s.lookup key) full time)

include h

theorem Kept.later {time' : Int} (hle : time ≤ time') :
    Kept ttl (s.lookup key) full time' where
  proper := h.proper
  subset := h.subset
  renewed := by
    intro e he
    obtain ⟨hdeadline, hscores⟩ := h.renewed e he
    exact ⟨by omega, hscores⟩
  missing := by
    intro x hx
    rcases h.missing x hx with hin | hold
    · exact .inl hin
    · exact .inr (by omega)

variable {now : Int}

theorem Kept.mem_live (hle : time ≤ now) : (x ∈ live s key now → x ∈ full)
      ∧ (x ∈ full → now < x.2 + ttl → x ∈ live s key now) := by
  unfold live
  constructor
  · intro hx
    cases hs : s.lookup key with
    | none => simp [hs] at hx
    | some e =>
      rw [hs, Option.elim_some] at hx
      split_ifs at hx with hnow
      · exact h.subset e hs x hx
      · cases hx
  · intro hx hrecent
    rcases h.missing x hx with ⟨e, he, hxe⟩ | hold
    · have hs : s.lookup key = some e := he
      have hdeadline := (h.renewed e he).2 x hxe
      rw [hs, Option.elim_some, if_pos (by omega)]
      exact hxe
    · omega

theorem Kept.score_le (hx : x ∈ live s key now) : x.2 ≤ time := by
  unfold live at hx
  cases hs : s.lookup key with
  | none => simp [hs] at hx
  | some e =>
    rw [hs, Option.elim_some] at hx
    split_ifs at hx
    · obtain ⟨hdeadline, hscores⟩ := h.renewed e hs
      have hscore := hscores x hx
      omega
    · cases hx

theorem Kept.proper_live (now : Int) : Proper (live s key now) := by
  unfold live
  cases hs : s.lookup key with
  | none => exact nodup_nil
  | some e =>
    rw [Option.elim_some]
    split_ifs
    · exact h.proper e hs
    · exact nodup_nil

theorem Kept.zaddExpire (hfull : Proper full) {a : Add}
    (hkey : a.key = key) (hle : time ≤ a.now) (hdated : a.score ≤ a.now) :
    Kept ttl ((zaddExpire ttl s a).lookup key) (zadd full a.member a.score) a.now := by
  have hlookup : (SortedSet.zaddExpire ttl s a).lookup key
      = some (zadd (live s key a.now) a.member a.score, a.now + ttl) := by
    rw [SortedSet.zaddExpire, lookup_set, hkey, if_pos rfl]
  have hproper := h.proper_live a.now
  rw [hlookup]
  constructor
  · rintro e ⟨⟩
    exact hproper.set _ _
  · rintro e ⟨⟩ x hx
    rcases (mem_set_iff hproper).mp hx with rfl | ⟨hx, hne⟩
    · exact (mem_set_iff hfull).mpr (.inl rfl)
    · exact (mem_set_iff hfull).mpr (.inr ⟨(h.mem_live hle).1 hx, hne⟩)
  · rintro e ⟨⟩
    refine ⟨le_refl _, ?_⟩
    intro x hx
    rcases (mem_set_iff hproper).mp hx with rfl | ⟨hx, -⟩
    · show a.score + ttl ≤ a.now + ttl
      omega
    · have hscore := h.score_le hx
      show x.2 + ttl ≤ a.now + ttl
      omega
  · intro x hx
    rcases (mem_set_iff hfull).mp hx with rfl | ⟨hx, hne⟩
    · exact .inl ⟨_, rfl, (mem_set_iff hproper).mpr (.inl rfl)⟩
    · by_cases hrecent : a.now < x.2 + ttl
      · have hlive := (h.mem_live hle).2 hx hrecent
        exact .inl ⟨_, rfl, (mem_set_iff hproper).mpr (.inr ⟨hlive, hne⟩)⟩
      · exact .inr (by omega)

end

/-- **A run keeps what is recent**, by induction on its additions. -/
theorem kept_run {ttl : Int} {adds : List Add} (hsorted : adds.Pairwise (fun a b => a.now ≤ b.now))
    (hdated : ∀ a ∈ adds, a.score ≤ a.now) (key : String) {time : Int}
    (hpast : ∀ a ∈ adds, a.now ≤ time) :
    Kept ttl ((run ttl adds).lookup key) (ofAdds (addsTo key adds)) time := by
  induction adds using reverseRecOn generalizing time with
  | nil => exact ⟨nofun, nofun, nofun, nofun⟩
  | append_singleton adds a ih =>
    rw [pairwise_append] at hsorted
    have hbefore : ∀ b ∈ adds, b.now ≤ a.now := fun b hb => hsorted.2.2 b hb a (by simp)
    have hkept := ih hsorted.1 (fun b hb => hdated b (by simp [hb])) hbefore
    have ha : a.now ≤ time := hpast a (by simp)
    have hrun : run ttl (adds ++ [a]) = zaddExpire ttl (run ttl adds) a := by
      rw [run, foldl_append]
      rfl
    rw [hrun, addsTo_append_singleton]
    by_cases hkey : a.key = key
    · rw [if_pos hkey, ofAdds_append_singleton]
      exact (hkept.zaddExpire (proper_ofAdds _) hkey (le_refl _) (hdated a (by simp))).later ha
    · have hother : (zaddExpire ttl (run ttl adds) a).lookup key = (run ttl adds).lookup key := by
        rw [zaddExpire, lookup_set, if_neg (fun heq => hkey heq.symm)]
      rw [if_neg hkey, hother]
      exact hkept.later ha

/-- **Expiry is not seen by queries for recent scores.** -/
theorem above_live_perm {ttl : Int} {adds : List Add}
    (hsorted : adds.Pairwise (fun a b => a.now ≤ b.now)) (hdated : ∀ a ∈ adds, a.score ≤ a.now)
    (hpast : ∀ a ∈ adds, a.now ≤ now) (hrecent : now < cutoff + ttl) (key : String) :
    (above (live (run ttl adds) key now) cutoff).Perm
      (above (ofAdds (addsTo key adds)) cutoff) := by
  have hkept := @kept_run ttl adds hsorted hdated key now hpast
  have hnodup := (proper_above (hkept.proper_live now) cutoff).of_map
  have hnodup' := (proper_above (proper_ofAdds (addsTo key adds)) cutoff).of_map
  rw [perm_ext_iff_of_nodup hnodup hnodup']
  intro x
  rw [mem_above, mem_above]
  constructor
  · rintro ⟨hx, hcut⟩
    exact ⟨(hkept.mem_live (le_refl _)).1 hx, hcut⟩
  · rintro ⟨hx, hcut⟩
    exact ⟨(hkept.mem_live (le_refl _)).2 hx (by omega), hcut⟩

end Tarka.Lib.SortedSet
