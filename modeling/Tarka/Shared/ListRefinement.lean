import Tarka.Shared.EntityLists

/-! # The entity lists refine a map with expiry

What one tenant sees of a store, in a run with the operations of all tenants, is a map with expiry
that gets this tenant's operations only (`list_stores_refine`). That holds for each backend under
conditions of its own; each of them marks a place where the code departs from such a map:

* all three tell of an expired entry, when it is removed, that it was there;
* Redis counts expired entries, forgets an entry once a check has found it expired, and leaves
  entries with one time of creation in the order of the server;
* the store in memory returns a list in the order of insertion, and its keys and scans mix up
  tenants with colons in their names. -/

namespace Tarka.Shared.EntityLists

open Tarka.Lib Tarka.Json List Dict Function KeyMap Redis ListEntry

/-! ## Conditions -/

/-- An entry that is removed has not expired. -/
def RemovesLive (m : TenantMap) (ev : Event) : Prop :=
  ∀ lt t e, ev.op = .remove lt t e → ∀ x ∈ (m.lists lt).lookup e, x.isExpired ev.now.micros = false

/-- What the Redis store needs: the clock does not go back, entries that are counted have not
expired, and entries that are listed were created at different times. -/
structure RedisRegular (m : TenantMap) (ev : Event) : Prop where
  removes : RemovesLive m ev
  clock : m.time ≤ ev.now.micros
  counts : ∀ lt t, ev.op = .count lt t → ∀ x ∈ m.lists lt, x.2.isExpired ev.now.micros = false
  lists : ∀ lt t limit, ev.op = .getAll lt t limit →
    ((live ev.now.micros (m.lists lt)).map (fun x => x.2.createdAt)).Nodup

/-- What the store in memory needs of a tenant: entries that are listed were inserted from the
newest to the oldest. -/
structure MemoryRegular (m : TenantMap) (ev : Event) : Prop where
  removes : RemovesLive m ev
  lists : ∀ lt t limit, ev.op = .getAll lt t limit →
    ((live ev.now.micros (m.lists lt)).map Prod.snd).Pairwise
      (fun a b => codePointLe b.createdAt a.createdAt = true)

/-- No two operations of a run mix up their keys. -/
structure Apart (evs : List Event) : Prop where
  keys : ∀ a ∈ evs, ∀ b ∈ evs, ∀ e ∈ a.op.entityId?, ∀ e' ∈ b.op.entityId?,
    ¬ SharesKey (a.op.tenantId, e) (b.op.tenantId, e')
  scans : ∀ a ∈ evs, ∀ b ∈ evs, ∀ e' ∈ b.op.entityId?, a.op.tenantId ≠ b.op.tenantId →
    ∀ lt lt', ¬ (listScan lt a.op.tenantId).toList <+: (listKey lt' b.op.tenantId e').toList

theorem apart_of_no_colon {evs : List Event} (h : ∀ ev ∈ evs, ':' ∉ ev.op.tenantId.toList) :
    Apart evs where
  keys := fun a ha b hb _ _ _ _ => not_clash (h a ha) (h b hb)
  scans := by
    intro a ha b hb e' _ hne lt lt' hscan
    rcases ((listScan_isPrefix_iff).mp hscan).2 with heq | ⟨m, hm⟩ | ⟨m, hm, -⟩
    · exact hne heq
    · exact h b hb (by simp [hm, String.toList_append])
    · exact h a ha (by simp [hm, String.toList_append])

/-! ## Entries that have not expired -/

section

variable {d d' : List (String × ListEntry)} {now now' : Int}

theorem isExpired_mono {e : ListEntry} (hle : now ≤ now') (h : e.isExpired now) :
    e.isExpired now' = true := by
  unfold isExpired at h ⊢
  cases hexp : e.expiresAt with
  | none => simp [hexp] at h
  | some s =>
    simp only [hexp] at h ⊢
    split_ifs at h ⊢
    split at h
    · exact decide_eq_true (by have := of_decide_eq_true h; omega)
    · cases h

theorem lookup_live (hd : Proper d) (k : String) :
    (live now d).lookup k = (d.lookup k).filter (fun x => !x.isExpired now) :=
  lookup_filter hd (fun x => !x.isExpired now) k

theorem live_eq_self (h : ∀ x ∈ d, x.2.isExpired now = false) : live now d = d := by
  rw [live, filter_eq_self]
  intro x hx
  rw [h x hx]
  rfl

theorem mem_live {x : String × ListEntry} : x ∈ live now d ↔ x ∈ d ∧ x.2.isExpired now = false := by
  rw [live, mem_filter, Bool.not_eq_true']

theorem live_set_perm (hd : Proper d) (hd' : Proper d')
    (h : (live now d).Perm (live now d')) (k : String) (e : ListEntry) :
    (live now (Dict.set d k e)).Perm (live now (Dict.set d' k e)) := by
  have hset : ∀ {c : List (String × ListEntry)}, Proper c →
      (live now (Dict.set c k e)).Perm (live now [(k, e)] ++ Dict.erase (live now c) k) := by
    intro c hc
    have hperm := (set_perm hc k e).filter (fun x => !x.2.isExpired now)
    rw [← singleton_append, filter_append, filter_erase] at hperm
    exact hperm
  exact (hset hd).trans (((h.filter _).append_left _).trans (hset hd').symm)

theorem live_erase_perm (h : (live now d).Perm (live now d')) (k : String) :
    (live now (Dict.erase d k)).Perm (live now (Dict.erase d' k)) := by
  rw [live, live, filter_erase, filter_erase]
  exact h.filter _

end

/-- The order by the time of creation, if no two times are the same. -/
theorem newestFirst_eq_of_perm {l l' : List ListEntry} (hperm : l.Perm l')
    (hnd : (l'.map createdAt).Nodup) : newestFirst l = newestFirst l' := by
  have htotal : Std.Total (fun a b : ListEntry => codePointLe b.createdAt a.createdAt) :=
    ⟨fun a b => Bool.or_eq_true_iff.mp (lexLe_total _ b.createdAt.toList a.createdAt.toList)⟩
  have htrans : IsTrans ListEntry (fun a b => codePointLe b.createdAt a.createdAt) :=
    ⟨fun a b c hab hbc => lexLe_trans _ _ _ _ hbc hab⟩
  refine insertionSort_eq_of_perm hperm ?_
  intro a ha b hb hab hba
  rw [← byteLe_eq_codePointLe] at hab hba
  exact inj_on_of_nodup_map hnd ha hb (byteLe_antisymm hba hab)

/-! ## Files -/

theorem entities_setEntities (s : File.State) (lt lt' : ListType) (t t' : String)
    (d : List (String × ListEntry)) :
    File.entities (File.setEntities s lt t d) lt' t'
      = if lt' = lt ∧ t' = t then d else File.entities s lt' t' := by
  unfold File.entities File.setEntities
  rw [lookup_set]
  by_cases hlt : lt' = lt
  · rw [if_pos hlt, Option.getD_some, lookup_set]
    by_cases ht : t' = t
    · rw [if_pos ht, if_pos ⟨hlt, ht⟩, Option.getD_some]
    · rw [if_neg ht, if_neg (fun h => ht h.2), hlt]
  · rw [if_neg hlt, if_neg (fun h => hlt h.1)]

/-- The files hold the lists of the tenant. -/
structure FileHolds (t : String) (s : File.State) (m : TenantMap) : Prop where
  same : ∀ lt, File.entities s lt t = m.lists lt
  proper : ∀ lt, Dict.Proper (m.lists lt)

variable {t e : String} {m : TenantMap} {ev : Event} {lt : ListType}

theorem removed_eq (h : RemovesLive m ev)
    (hop : ev.op = .remove lt t e) (hproper : Proper (m.lists lt)) :
    ((live ev.now.micros (m.lists lt)).lookup e).isSome = ((m.lists lt).lookup e).isSome := by
  rw [lookup_live hproper]
  cases hx : (m.lists lt).lookup e with
  | none => rfl
  | some x => simp [h lt t e hop x (by rw [hx]; rfl), Option.filter_some]

variable {now : Int}

theorem checkLists_eq {get : ListType → List (String × ListEntry)}
    (h : ∀ lt, Proper (get lt)) (e : String) :
    checkLists now (fun lt => (get lt).lookup e)
      = (checkOrder.findSome? (fun lt => (live now (get lt)).lookup e)).elim .notFound
          (fun entry => buildResult now (some entry)) := by
  simp only [checkLists, lookup_live (h _)]

variable {d : List (String × ListEntry)} {lists : ListType → List (String × ListEntry)}

theorem proper_update (h : ∀ lt, Proper (lists lt)) (hd : Proper d) :
    ∀ lt', Proper (update lists lt d lt') := by
  intro lt'
  by_cases hlt : lt' = lt
  · subst hlt
    simpa using hd
  · simpa [hlt] using h lt'

variable {s : File.State}

theorem FileHolds.update (h : FileHolds t s m) (lt : ListType) (hd : Proper d)
    (time : Int) : FileHolds t (File.setEntities s lt t d) ⟨update m.lists lt d, time⟩ := by
  constructor
  · intro lt'
    rw [entities_setEntities]
    by_cases hlt : lt' = lt
    · subst hlt
      simp
    · simp [hlt, h.same]
  · exact proper_update h.proper hd

theorem file_own
    (ht : ev.op.tenantId = t) (hcond : RemovesLive m ev) (h : FileHolds t s m) :
    (File.step s ev).2 = (m.step ev).2 ∧ FileHolds t (File.step s ev).1 (m.step ev).1 := by
  have hrest : FileHolds t s ⟨m.lists, ev.now.micros⟩ := ⟨h.same, h.proper⟩
  obtain ⟨now, op⟩ := ev
  cases op with
  | add lt t' e args =>
    obtain rfl : t' = t := ht
    simp only [File.step, TenantMap.step, h.same lt, true_and]
    exact h.update lt ((h.proper lt).set _ _) _
  | remove lt t' e =>
    obtain rfl : t' = t := ht
    simp only [File.step, TenantMap.step, h.same lt, removed_eq hcond rfl (h.proper lt), true_and]
    exact h.update lt ((h.proper lt).erase _) _
  | check t' e =>
    obtain rfl : t' = t := ht
    exact ⟨by simp only [File.step, TenantMap.step, h.same, checkLists_eq h.proper], hrest⟩
  | getAll lt t' limit =>
    obtain rfl : t' = t := ht
    exact ⟨by simp only [File.step, TenantMap.step, h.same], hrest⟩
  | getEntry lt t' e =>
    obtain rfl : t' = t := ht
    exact ⟨by simp only [File.step, TenantMap.step, h.same, lookup_live (h.proper lt)], hrest⟩
  | count lt t' =>
    obtain rfl : t' = t := ht
    exact ⟨by simp only [File.step, TenantMap.step, h.same], hrest⟩

theorem file_other
    (ht : ev.op.tenantId ≠ t) (h : FileHolds t s m) : FileHolds t (File.step s ev).1 m := by
  have hset : ∀ lt d, FileHolds t (File.setEntities s lt ev.op.tenantId d) m := by
    intro lt d
    refine ⟨fun lt' => ?_, h.proper⟩
    rw [entities_setEntities, if_neg (fun hboth => ht hboth.2.symm), h.same]
  obtain ⟨now, op⟩ := ev
  cases op with
  | add lt t' e args => exact hset lt _
  | remove lt t' e => exact hset lt _
  | check | getAll | getEntry | count => exact h

/-! ## Redis -/

variable {t' : String} {lt' : ListType}

theorem redis_key_inj (h : key lt t = key lt' t') : lt = lt' ∧ t = t' := by
  have hchars := congrArg String.toList h
  simp only [key, String.append_assoc, String.toList_append, append_cancel_left_eq] at hchars
  obtain ⟨hlt, hrest⟩ := ListType.name_append_inj.mp hchars
  exact ⟨hlt, String.toList_inj.mp hrest⟩

theorem fields_set (s : State) (lt lt' : ListType) (t t' : String) (d : List (String × ListEntry)) :
    fields (Dict.set s (key lt t) d) lt' t'
      = if lt' = lt ∧ t' = t then d else fields s lt' t' := by
  unfold fields
  rw [lookup_set]
  by_cases hboth : lt' = lt ∧ t' = t
  · rw [if_pos hboth, if_pos (by rw [hboth.1, hboth.2]), Option.getD_some]
  · rw [if_neg hboth, if_neg (fun hkey => hboth (redis_key_inj hkey))]

/-- From a time on, the hashes of the tenant hold what has not expired of its lists. What is missing
in a hash has expired by then. -/
structure HashHolds (d d' : List (String × ListEntry)) (time : Int) : Prop where
  proper : Dict.Proper d
  proper' : Dict.Proper d'
  subset : ∀ x ∈ d, x ∈ d'
  live : ∀ now, time ≤ now → (live now d).Perm (live now d')

def RedisHolds (t : String) (s : Redis.State) (m : TenantMap) : Prop :=
  ∀ lt, HashHolds (Redis.fields s lt t) (m.lists lt) m.time

variable {x : ListEntry}

section

variable {d d' : List (String × ListEntry)} {time time' now : Int} {e : String}
  (h : HashHolds d d' time)

include h

theorem HashHolds.later (hle : time ≤ time') : HashHolds d d' time' :=
  ⟨h.proper, h.proper', h.subset, fun now hnow => h.live now (by omega)⟩

theorem HashHolds.set (k : String) (v : ListEntry) :
    HashHolds (Dict.set d k v) (Dict.set d' k v) time where
  proper := h.proper.set k v
  proper' := h.proper'.set k v
  subset := by
    intro x hx
    rw [mem_set_iff h.proper] at hx
    rw [mem_set_iff h.proper']
    exact hx.imp id (fun hx => ⟨h.subset x hx.1, hx.2⟩)
  live := fun now hnow => live_set_perm h.proper h.proper' (h.live now hnow) k v

theorem HashHolds.erase (k : String) :
    HashHolds (Dict.erase d k) (Dict.erase d' k) time where
  proper := h.proper.erase k
  proper' := h.proper'.erase k
  subset := by
    intro x hx
    rw [Dict.erase, mem_filter] at hx ⊢
    exact ⟨h.subset x hx.1, hx.2⟩
  live := fun now hnow => live_erase_perm (h.live now hnow) k

theorem HashHolds.drop (hx : d.lookup e = some x) (hexp : x.isExpired time) :
    HashHolds (Dict.erase d e) d' time where
  proper := h.proper.erase e
  proper' := h.proper'
  subset := fun y hy => h.subset y (mem_of_mem_filter hy)
  live := by
    intro now hnow
    have hnone : EntityLists.live now (Dict.erase d e) = EntityLists.live now d := by
      rw [show EntityLists.live now (Dict.erase d e) = Dict.erase (EntityLists.live now d) e from
        filter_erase d _ e, Dict.erase, filter_eq_self]
      intro y hy
      have hlive := mem_live.mp hy
      refine decide_eq_true (fun heq => ?_)
      have hlookup := lookup_of_mem_entries h.proper (heq ▸ hlive.1 : (e, y.2) ∈ d)
      rw [hx, Option.some.injEq] at hlookup
      rw [← hlookup, isExpired_mono hnow hexp] at hlive
      exact Bool.noConfusion hlive.2
    rw [hnone]
    exact h.live now hnow

theorem HashHolds.lookup (hle : time ≤ now) (e : String) :
    (d.lookup e).filter (fun x => !x.isExpired now) = (EntityLists.live now d').lookup e := by
  rw [← lookup_live h.proper]
  exact lookup_eq_of_perm (h.live now hle) (h.proper.filter _) e

end

variable {s : State}

theorem RedisHolds.set {time : Int} (h : ∀ lt, HashHolds (fields s lt t) (m.lists lt) time)
    (lt : ListType) {d' : List (String × ListEntry)} (hd : HashHolds d d' time) :
    RedisHolds t (Dict.set s (key lt t) d) ⟨update m.lists lt d', time⟩ := by
  intro lt'
  rw [fields_set]
  by_cases hlt : lt' = lt
  · subst hlt
    simpa using hd
  · simpa [hlt] using h lt'

/-- **The loop of a check**: its answer, and what is left of the hashes. -/
theorem checkFrom_spec (lts : List ListType) (h : ∀ lt, HashHolds (fields s lt t) (lists lt) now) :
    (checkFrom now t e lts s).2
        = (lts.findSome? (fun lt => (live now (lists lt)).lookup e)).elim .notFound
            (fun entry => buildResult now (some entry))
      ∧ ∀ lt, HashHolds (fields (checkFrom now t e lts s).1 lt t) (lists lt) now := by
  induction lts generalizing s with
  | nil => exact ⟨rfl, h⟩
  | cons lt lts ih =>
    have hlookup := (h lt).lookup (Int.le_refl now) e
    rw [checkFrom, List.findSome?_cons, ← hlookup]
    cases hx : (fields s lt t).lookup e with
    | none => exact ih h
    | some x =>
      cases hexp : x.isExpired now with
      | true =>
        -- the entry is deleted, and the loop goes on as if it had not been there
        have hdel : ∀ lt', HashHolds (fields (hdel s lt t e) lt' t) (lists lt') now := by
          intro lt'
          rw [hdel, fields_set]
          by_cases hlt : lt' = lt
          · subst hlt
            simpa using (h lt').drop hx hexp
          · simpa [hlt] using h lt'
        simp only [hexp, if_true, Option.filter_some, Bool.not_true, Bool.false_eq_true, if_false]
        exact ih hdel
      | false =>
        simp only [hexp, Bool.false_eq_true, if_false, Option.filter_some, Bool.not_false,
          if_true, Option.elim_some]
        exact ⟨trivial, h⟩

theorem fields_checkFrom (hne : t' ≠ t) (lt : ListType) (lts : List ListType) (s : State) :
    fields (checkFrom now t' e lts s).1 lt t = fields s lt t := by
  induction lts generalizing s with
  | nil => rfl
  | cons lt' lts ih =>
    rw [checkFrom]
    cases (fields s lt' t').lookup e with
    | none => exact ih s
    | some x =>
      simp only
      split_ifs
      · rw [ih, hdel, fields_set, if_neg (fun hboth => hne hboth.2.symm)]
      · rfl

variable {order : FieldOrder}

theorem redis_own (ht : ev.op.tenantId = t) (hcond : RedisRegular m ev) (h : RedisHolds t s m) :
    (step order s ev).2 = (m.step ev).2
      ∧ RedisHolds t (step order s ev).1 (m.step ev).1 := by
  subst ht
  have hnow : ∀ lt, HashHolds (fields s lt ev.op.tenantId) (m.lists lt) ev.now.micros :=
    fun lt => (h lt).later hcond.clock
  obtain ⟨now, op⟩ := ev
  cases op with
  | add lt t e args => exact ⟨rfl, RedisHolds.set hnow lt ((hnow lt).set _ _)⟩
  | remove lt t e =>
    refine ⟨?_, RedisHolds.set hnow lt ((hnow lt).erase _)⟩
    simp only [step, TenantMap.step, ← (hnow lt).lookup (Int.le_refl _) e, Op.tenantId]
    cases hx : (fields s lt t).lookup e with
    | none => rfl
    | some x =>
      have hmem := (hnow lt).subset _ (mem_entries_of_lookup hx)
      have hlive := hcond.removes lt t e rfl x
        (lookup_of_mem_entries (hnow lt).proper' hmem)
      simp [hlive, Option.filter_some]
  | check t e =>
    obtain ⟨hresult, hholds⟩ := checkFrom_spec (e := e) checkOrder hnow
    exact ⟨congrArg Answer.checked hresult, hholds⟩
  | getAll lt t limit =>
    refine ⟨?_, hnow⟩
    have hperm : (live now.micros (order.hgetall (fields s lt t))).Perm
        (live now.micros (m.lists lt)) :=
      ((order.perm _).filter _).trans ((hnow lt).live _ (Int.le_refl _))
    have hnd := hcond.lists lt t limit rfl
    simp only [step, TenantMap.step]
    rw [newestFirst_eq_of_perm (hperm.map Prod.snd)]
    rwa [map_map]
  | getEntry lt t e => exact ⟨congrArg Answer.entry ((hnow lt).lookup (Int.le_refl _) e), hnow⟩
  | count lt t =>
    refine ⟨?_, hnow⟩
    have hfields : live now.micros (fields s lt t) = fields s lt t :=
      live_eq_self (fun x hx => hcond.counts lt t rfl x ((hnow lt).subset x hx))
    have hlength := ((hnow lt).live _ (Int.le_refl _)).length_eq
    simp only [Op.tenantId, hfields] at hlength
    exact congrArg Answer.size hlength

theorem redis_other (ht : ev.op.tenantId ≠ t) (h : RedisHolds t s m) :
    RedisHolds t (step order s ev).1 m := by
  have hset : ∀ lt d, RedisHolds t (Dict.set s (key lt ev.op.tenantId) d) m := by
    intro lt d lt'
    rw [fields_set, if_neg (fun hboth => ht hboth.2.symm)]
    exact h lt'
  obtain ⟨now, op⟩ := ev
  cases op with
  | add lt t' e args => exact hset lt _
  | remove lt t' e => exact hset lt _
  | check t' e =>
    have hne : t' ≠ t := ht
    intro lt
    simp only [step, fields_checkFrom hne]
    exact h lt
  | getAll | getEntry | count => exact h

/-! ## In memory -/

def ListEntry.isOf (lt : ListType) (t : String) (x : ListEntry) : Bool :=
  decide (x.listType = lt ∧ x.tenantId = t)

/-- The tenant's part of the store is its lists, and the keys of the store are those of the entries,
which operations of the run have added. -/
structure MemoryHolds (evs : List Event) (t : String) (s : Memory.State) (m : TenantMap) :
    Prop where
  keyed : ∀ x ∈ s, x.1 = listKey x.2.listType x.2.tenantId x.2.entityId
  known : ∀ x ∈ s, ∃ ev ∈ evs, ev.op.tenantId = x.2.tenantId ∧ x.2.entityId ∈ ev.op.entityId?
  same : ∀ lt, Dict.part (ListEntry.isOf lt t) ListEntry.entityId s = m.lists lt
  proper : ∀ lt, Dict.Proper (m.lists lt)

section

variable {evs : List Event} {t : String} {s : Memory.State} {m : TenantMap} {ev : Event}

section

variable (h : MemoryHolds evs t s m)

include h

theorem MemoryHolds.stands (hapart : Apart evs) (hev : ev ∈ evs)
    (he : e ∈ ev.op.entityId?) (lt : ListType) :
    Stands (isOf lt ev.op.tenantId) entityId s
      (listKey lt ev.op.tenantId e) e := by
  intro x hx
  obtain ⟨ev', hev', htenant, hentity⟩ := h.known x hx
  have hshares : ¬ SharesKey (x.2.tenantId, x.2.entityId) (ev.op.tenantId, e) :=
    htenant ▸ hapart.keys ev' hev' ev hev _ hentity e he
  rw [h.keyed x hx, isOf, decide_eq_true_iff]
  constructor
  · intro hkey
    rw [← String.toList_inj, toList_listKey, toList_listKey, ListType.name_append_inj,
      joined_eq_iff] at hkey
    have hpair := hkey.2.resolve_right hshares
    rw [Prod.mk.injEq, String.toList_inj, String.toList_inj] at hpair
    exact ⟨⟨hkey.1, hpair.1⟩, hpair.2⟩
  · rintro ⟨⟨hlt, ht⟩, rfl⟩
    rw [hlt, ht]

/-- An entry with the key of an operation is in the list of that operation and of no other. -/
theorem MemoryHolds.not_isOf (hapart : Apart evs) (hev : ev ∈ evs)
    (he : e ∈ ev.op.entityId?) (hne : lt' ≠ lt ∨ t' ≠ ev.op.tenantId) :
    ∀ x ∈ s, x.1 = listKey lt ev.op.tenantId e → x.2.isOf lt' t' = false := by
  intro x hx hkey
  have hof := ((h.stands hapart hev he lt x hx).mp hkey).1
  obtain ⟨hlist, htenant⟩ := of_decide_eq_true hof
  apply decide_eq_false
  rintro ⟨hlist', htenant'⟩
  rcases hne with hne | hne
  · exact hne (hlist'.symm.trans hlist)
  · exact hne (htenant'.symm.trans htenant)

theorem MemoryHolds.scan_eq (hapart : Apart evs) (hev : ev ∈ evs)
    (ht : ev.op.tenantId = t) (now : Int) (lt : ListType) :
    Memory.scan s now lt t = (live now (m.lists lt)).map Prod.snd := by
  have hcollects : ∀ x ∈ live now s,
      (listScan lt t).toList.isPrefixOf x.1.toList = x.2.isOf lt t := by
    intro x hx
    have hxs := (mem_live.mp hx).1
    obtain ⟨ev', hev', htenant, hentity⟩ := h.known x hxs
    rw [Bool.eq_iff_iff, isPrefixOf_iff_prefix, h.keyed x hxs, isOf, decide_eq_true_iff]
    constructor
    · intro hscan
      have hlt := ((listScan_isPrefix_iff).mp hscan).1
      refine ⟨hlt.symm, ?_⟩
      by_contra hne
      rw [← htenant, ← ht] at hne hscan
      exact hapart.scans ev hev ev' hev' _ hentity (fun heq => hne heq.symm) _ _ hscan
    · rintro ⟨rfl, rfl⟩
      exact (listScan_isPrefix_iff).mpr ⟨rfl, .inl rfl⟩
  rw [← h.same lt, Memory.scan, filter_congr hcollects, Dict.part, live, live,
    filter_map, map_map, filter_filter, filter_filter]
  simp only [comp_def, Bool.and_comm]

variable {m' : TenantMap}

theorem MemoryHolds.set
    (hknown : ∃ ev ∈ evs, ev.op.tenantId = x.tenantId ∧ x.entityId ∈ ev.op.entityId?)
    (hproper : ∀ lt, Proper (m'.lists lt))
    (hsame : ∀ lt, Dict.part (isOf lt t) entityId
      (Dict.set s (listKey x.listType x.tenantId x.entityId) x) = m'.lists lt) :
    MemoryHolds evs t (Dict.set s (listKey x.listType x.tenantId x.entityId) x) m' := by
  refine ⟨?_, ?_, hsame, hproper⟩
  · intro y hy
    rcases mem_set hy with rfl | hy
    · rfl
    · exact h.keyed y hy
  · intro y hy
    rcases mem_set hy with rfl | hy
    · exact hknown
    · exact h.known y hy

theorem MemoryHolds.erase {k : String} (hproper : ∀ lt, Proper (m'.lists lt))
    (hsame : ∀ lt, Dict.part (isOf lt t) entityId (Dict.erase s k) = m'.lists lt) :
    MemoryHolds evs t (Dict.erase s k) m' :=
  ⟨fun y hy => h.keyed y (mem_of_mem_filter hy),
    fun y hy => h.known y (mem_of_mem_filter hy), hsame, hproper⟩

theorem MemoryHolds.part_set (hapart : Apart evs) (hev : ev ∈ evs) (ht : ev.op.tenantId = t)
    (he : x.entityId ∈ ev.op.entityId?) (hx : x.tenantId = t) (lt : ListType) :
    Dict.part (isOf lt t) entityId
        (Dict.set s (listKey x.listType t x.entityId) x)
      = update m.lists x.listType (Dict.set (m.lists x.listType) x.entityId x) lt := by
  subst ht
  by_cases hlt : lt = x.listType
  · subst hlt
    rw [update_self, ← h.same]
    exact part_set_own (decide_eq_true ⟨rfl, hx⟩) (h.stands hapart hev he _)
  · rw [update_of_ne hlt, ← h.same]
    exact part_set_other (decide_eq_false (fun hboth => hlt hboth.1.symm))
      (h.not_isOf hapart hev he (.inl hlt))

theorem MemoryHolds.part_erase (hapart : Apart evs) (hev : ev ∈ evs)
    (ht : ev.op.tenantId = t) (he : e ∈ ev.op.entityId?) (lt lt' : ListType) :
    Dict.part (isOf lt' t) entityId (Dict.erase s (listKey lt t e))
      = update m.lists lt (Dict.erase (m.lists lt) e) lt' := by
  subst ht
  by_cases hlt : lt' = lt
  · subst hlt
    rw [update_self, ← h.same]
    exact part_erase_own (h.stands hapart hev he _)
  · rw [update_of_ne hlt, ← h.same]
    exact part_erase_other (h.not_isOf hapart hev he (.inl hlt))

end

theorem memory_own (hapart : Apart evs) (hev : ev ∈ evs) (ht : ev.op.tenantId = t)
    (hcond : MemoryRegular m ev) (h : MemoryHolds evs t s m) :
    (Memory.step s ev).2 = (m.step ev).2
      ∧ MemoryHolds evs t (Memory.step s ev).1 (m.step ev).1 := by
  have hrest : MemoryHolds evs t s ⟨m.lists, ev.now.micros⟩ := ⟨h.keyed, h.known, h.same, h.proper⟩
  have hget : ∀ e ∈ ev.op.entityId?, ∀ lt,
      s.lookup (listKey lt t e) = (m.lists lt).lookup e := by
    intro e he lt
    rw [← h.same lt, ← ht, lookup_part (h.stands hapart hev he lt)]
  have hscan := h.scan_eq hapart hev ht ev.now.micros
  obtain ⟨now, op⟩ := ev
  cases op with
  | add lt t' e args =>
    obtain rfl : t' = t := ht
    simp only [Memory.step, TenantMap.step, true_and]
    exact h.set (x := new now lt t' e args) ⟨_, hev, rfl, rfl⟩
      (proper_update h.proper ((h.proper lt).set _ _))
      (h.part_set (x := new now lt t' e args) hapart hev rfl rfl rfl)
  | remove lt t' e =>
    obtain rfl : t' = t := ht
    simp only [Memory.step, TenantMap.step, hget e rfl, true_and,
      removed_eq hcond.removes rfl (h.proper lt)]
    exact h.erase (proper_update h.proper ((h.proper lt).erase _))
      (h.part_erase hapart hev rfl rfl lt)
  | check t' e =>
    obtain rfl : t' = t := ht
    exact ⟨by simp only [Memory.step, TenantMap.step, hget e rfl, checkLists_eq h.proper], hrest⟩
  | getAll lt t' limit =>
    obtain rfl : t' = t := ht
    have hsorted : newestFirst ((live now.micros (m.lists lt)).map Prod.snd)
        = (live now.micros (m.lists lt)).map Prod.snd :=
      (hcond.lists lt t' limit rfl).insertionSort_eq
    exact ⟨by simp only [Memory.step, TenantMap.step, hscan, hsorted], hrest⟩
  | getEntry lt t' e =>
    obtain rfl : t' = t := ht
    exact ⟨by simp only [Memory.step, TenantMap.step, hget e rfl, lookup_live (h.proper lt)], hrest⟩
  | count lt t' =>
    obtain rfl : t' = t := ht
    exact ⟨by simp only [Memory.step, TenantMap.step, hscan, length_map], hrest⟩

theorem memory_other (hapart : Apart evs) (hev : ev ∈ evs) (ht : ev.op.tenantId ≠ t)
    (h : MemoryHolds evs t s m) : MemoryHolds evs t (Memory.step s ev).1 m := by
  -- an entry with the key of the operation is of another tenant
  have hother : ∀ e ∈ ev.op.entityId?, ∀ lt lt', ∀ x ∈ s,
      x.1 = listKey lt ev.op.tenantId e → x.2.isOf lt' t = false :=
    fun e he lt lt' => h.not_isOf hapart hev he (.inr ht.symm)
  obtain ⟨now, op⟩ := ev
  cases op with
  | add lt t' e args =>
    refine h.set (x := new now lt t' e args) ⟨_, hev, rfl, rfl⟩ h.proper (fun lt' => ?_)
    rw [← h.same]
    exact part_set_other (decide_eq_false (fun hboth => ht hboth.2)) (hother e rfl lt lt')
  | remove lt t' e =>
    refine h.erase h.proper (fun lt' => ?_)
    rw [← h.same]
    exact part_erase_other (hother e rfl lt lt')
  | check | getAll | getEntry | count => exact h

end

/-! ## Runs -/

open Machine

def Event.isOf (t : String) (ev : Event) : Bool := decide (ev.op.tenantId = t)

/-- **What a tenant sees of each store is a map with expiry of its own**, whatever the other tenants
do. -/
theorem list_stores_refine (order : Redis.FieldOrder) (start : Int) (evs : List Event)
    (t : String) :
    (Along TenantMap.step RemovesLive (.empty start) (evs.filter (Event.isOf t)) →
      outputsFor (Event.isOf t) File.step [] evs
        = outputs TenantMap.step (.empty start) (evs.filter (Event.isOf t)))
    ∧ (Along TenantMap.step RedisRegular (.empty start) (evs.filter (Event.isOf t)) →
      outputsFor (Event.isOf t) (Redis.step order) [] evs
        = outputs TenantMap.step (.empty start) (evs.filter (Event.isOf t)))
    ∧ (Apart evs → Along TenantMap.step MemoryRegular (.empty start) (evs.filter (Event.isOf t)) →
      outputsFor (Event.isOf t) Memory.step [] evs
        = outputs TenantMap.step (.empty start) (evs.filter (Event.isOf t))) := by
  have hnil : Proper ([] : List (String × ListEntry)) := nodup_nil
  refine ⟨?_, ?_, ?_⟩
  · intro hcond
    refine outputsFor_eq (R := FileHolds t) (P := fun _ => True) ?_ ?_ (fun _ _ => trivial) ?_ hcond
    · exact fun s m ev _ ht => file_own (of_decide_eq_true ht)
    · exact fun s m ev _ ht => file_other (of_decide_eq_false ht)
    · exact ⟨fun _ => rfl, fun _ => hnil⟩
  · intro hcond
    refine outputsFor_eq (R := RedisHolds t) (P := fun _ => True) ?_ ?_
      (fun _ _ => trivial) ?_ hcond
    · exact fun s m ev _ ht => redis_own (of_decide_eq_true ht)
    · exact fun s m ev _ ht => redis_other (of_decide_eq_false ht)
    · exact fun lt => ⟨hnil, hnil, fun _ hx => hx, fun _ _ => List.Perm.refl _⟩
  · intro hapart hcond
    refine outputsFor_eq (R := MemoryHolds evs t) (P := (· ∈ evs)) ?_ ?_ (fun _ hev => hev) ?_ hcond
    · exact fun s m ev hev ht => memory_own hapart hev (of_decide_eq_true ht)
    · exact fun s m ev hev ht => memory_other hapart hev (of_decide_eq_false ht)
    · exact ⟨by simp, by simp, fun _ => rfl, fun _ => hnil⟩

/-- `2026-01-01T00:00:00+00:00`. -/
def newYear : Int := 63902908800000000

/-- Two tenants block an entity of one name, and one of them lets it go. -/
def twoTenants : List Event :=
  [⟨⟨newYear, "2026-01-01T00:00:00+00:00"⟩,
      .add .blacklist "a" "e" ⟨"fraud", "system", none, [], ""⟩⟩,
    ⟨⟨newYear + 1000000, "2026-01-01T00:00:01+00:00"⟩,
      .add .blacklist "b" "e" ⟨"", "system", none, [], ""⟩⟩,
    ⟨⟨newYear + 2000000, "2026-01-01T00:00:02+00:00"⟩, .remove .blacklist "b" "e"⟩,
    ⟨⟨newYear + 3000000, "2026-01-01T00:00:03+00:00"⟩, .check "a" "e"⟩,
    ⟨⟨newYear + 4000000, "2026-01-01T00:00:04+00:00"⟩, .getAll .blacklist "a" 10⟩,
    ⟨⟨newYear + 5000000, "2026-01-01T00:00:05+00:00"⟩, .count .blacklist "a"⟩]

def asStored : Redis.FieldOrder := ⟨id, fun _ => List.Perm.refl _⟩

theorem twoTenants_refined :
    outputsFor (Event.isOf "a") File.step [] twoTenants
        = outputs TenantMap.step (.empty 0) (twoTenants.filter (Event.isOf "a"))
      ∧ outputsFor (Event.isOf "a") (Redis.step asStored) [] twoTenants
        = outputs TenantMap.step (.empty 0) (twoTenants.filter (Event.isOf "a"))
      ∧ outputsFor (Event.isOf "a") Memory.step [] twoTenants
        = outputs TenantMap.step (.empty 0) (twoTenants.filter (Event.isOf "a")) := by
  have hown : twoTenants.filter (Event.isOf "a")
      = [twoTenants[0], twoTenants[3], twoTenants[4], twoTenants[5]] := by
    simp [twoTenants, Event.isOf, Op.tenantId]
  have hremoves :
      Along TenantMap.step RemovesLive (.empty 0) (twoTenants.filter (Event.isOf "a")) := by
    rw [hown]
    simp [twoTenants, Along, RemovesLive, TenantMap.step]
  have hredis :
      Along TenantMap.step RedisRegular (.empty 0) (twoTenants.filter (Event.isOf "a")) := by
    rw [hown]
    refine ⟨⟨?_, ?_, ?_, ?_⟩, ⟨?_, ?_, ?_, ?_⟩, ⟨?_, ?_, ?_, ?_⟩, ⟨?_, ?_, ?_, ?_⟩, trivial⟩ <;>
      simp [twoTenants, newYear, RemovesLive, TenantMap.step, TenantMap.empty, Dict.set, live,
        ListEntry.new, ListEntry.isExpired]
  have hmemory :
      Along TenantMap.step MemoryRegular (.empty 0) (twoTenants.filter (Event.isOf "a")) := by
    rw [hown]
    refine ⟨⟨?_, ?_⟩, ⟨?_, ?_⟩, ⟨?_, ?_⟩, ⟨?_, ?_⟩, trivial⟩ <;>
      simp [twoTenants, newYear, RemovesLive, TenantMap.step, TenantMap.empty, Dict.set, live,
        ListEntry.new, ListEntry.isExpired]
  have hapart : Apart twoTenants := apart_of_no_colon (by decide +kernel)
  exact ⟨(list_stores_refine asStored 0 twoTenants "a").1 hremoves,
    (list_stores_refine asStored 0 twoTenants "a").2.1 hredis,
    (list_stores_refine asStored 0 twoTenants "a").2.2 hapart hmemory⟩

def expiring : List Event :=
  [⟨⟨newYear, "2026-01-01T00:00:00+00:00"⟩,
      .add .blacklist "a" "e" ⟨"", "system", some "2026-01-01T00:00:01+00:00", [], ""⟩⟩,
    ⟨⟨newYear + 2000000, "2026-01-01T00:00:02+00:00"⟩, .count .blacklist "a"⟩,
    ⟨⟨newYear + 3000000, "2026-01-01T00:00:03+00:00"⟩, .remove .blacklist "a" "e"⟩]

/-- A tenant adds an entry, and another one with a name that begins alike counts its own. -/
def alike : List Event :=
  [⟨⟨newYear, "2026-01-01T00:00:00+00:00"⟩, .add .blacklist "a:b" "e" ⟨"", "system", none, [], ""⟩⟩,
    ⟨⟨newYear + 1000000, "2026-01-01T00:00:01+00:00"⟩, .count .blacklist "a"⟩]

/-- **No store is a map with expiry**: Redis counts the expired entry, the files tell that it was
there, and the store in memory counts an entry of another tenant. -/
theorem stores_depart :
    (outputsFor (Event.isOf "a") (Redis.step asStored) [] expiring)[1]? = some (.size 1)
      ∧ (outputsFor (Event.isOf "a") File.step [] expiring)[2]? = some (.removed true)
      ∧ (outputs TenantMap.step (.empty 0) (expiring.filter (Event.isOf "a"))).drop 1
        = [.size 0, .removed false]
      ∧ outputsFor (Event.isOf "a") Memory.step [] alike = [.size 1]
      ∧ outputs TenantMap.step (.empty 0) (alike.filter (Event.isOf "a")) = [.size 0] := by
  have hcount : ListEntry.isExpired (newYear + 2000000)
      (.new ⟨newYear, "2026-01-01T00:00:00+00:00"⟩ .blacklist "a" "e"
        ⟨"", "system", some "2026-01-01T00:00:01+00:00", [], ""⟩) = true := by decide +kernel
  have hlater : newYear + 2000000 ≤ newYear + 3000000 := by decide
  have hremove := isExpired_mono hlater hcount
  refine ⟨rfl, rfl, ?_, rfl, rfl⟩
  simp [expiring, Event.isOf, Op.tenantId, outputs, TenantMap.step, TenantMap.empty, Dict.set, live,
    hcount, hremove]

end Tarka.Shared.EntityLists
