import Tarka.Messaging.DiskBuffer

/-! # What a replay delivers

At every moment the table is a front of flushed rows, which are those the broker took, followed by
the rows that are still to go (`Split`). The replayer works on a front of the latter: the row it
holds is their first one. Publishing and marking moves one row over the border, and appending
leaves the border where it is. `replay_in_order` reads order, completeness and the meaning of the
flag off this invariant, for every run. -/

namespace Tarka.Messaging

open Tarka.Lib List Steps

variable {s s' : State} {done todo : List Row}

def Row.entry (r : Row) : Nat × Message := (r.id, r.message)

/-- The ids the replayer has listed and not yet marked. -/
def Replayer.pendingIds : Replayer → List Nat
  | .batch _ _ ids => ids
  | .fetched _ _ row ids => row.id :: ids
  | .published _ _ row ids => row.id :: ids
  | _ => []

def Replayer.inHand : Replayer → Option Row
  | .fetched _ _ row _ => some row
  | .published _ _ row _ => some row
  | _ => none

/-- The row that is published and not yet marked. -/
def Replayer.inFlight : Replayer → List Row
  | .published _ _ row _ => [row]
  | _ => []

/-- The invariant: the rows before the border are done, those behind it are still to go. -/
structure Split (s : State) (done todo : List Row) : Prop where
  rows : s.rows = done ++ todo
  flushed : ∀ r ∈ done, r.flushed = true
  unflushed : ∀ r ∈ todo, r.flushed = false
  increasing : (s.rows.map Row.id).Pairwise (· < ·)
  bounded : ∀ r ∈ s.rows, r.id ≤ s.lastId
  accepted : s.accepted = s.rows.map Row.entry
  delivered : s.delivered = (done ++ s.replayer.inFlight).map Row.entry
  pending : s.replayer.pendingIds <+: todo.map Row.id
  inHand : ∀ r, s.replayer.inHand = some r → todo.head? = some r

theorem split_init : Split .init [] [] where
  rows := rfl
  flushed := by simp
  unflushed := by simp
  increasing := Pairwise.nil
  bounded := by simp [State.init]
  accepted := rfl
  delivered := rfl
  pending := prefix_refl []
  inHand := by
    intro r h
    cases h

/-! ## Accesses under the invariant -/

theorem Split.filter_unflushed (h : Split s done todo) :
    s.rows.filter (fun r => !r.flushed) = todo := by
  rw [h.rows, filter_append]
  have hdone : done.filter (fun r => !r.flushed) = [] := by
    apply filter_eq_nil_iff.mpr
    intro r hr
    simp [h.flushed r hr]
  have htodo : todo.filter (fun r => !r.flushed) = todo := by
    apply filter_eq_self.mpr
    intro r hr
    simp [h.unflushed r hr]
  rw [hdone, htodo, nil_append]

/-- The ids behind the border are increasing, so that sorting them changes nothing. -/
theorem Split.listPendingIds_eq (h : Split s done todo) (limit : Int) :
    listPendingIds s.rows limit = (todo.map Row.id).take (max 1 limit).toNat := by
  have hsorted : (todo.map Row.id).Pairwise (· ≤ ·) := by
    have hall := h.increasing
    rw [h.rows, map_append, pairwise_append] at hall
    exact hall.2.1.imp Nat.le_of_lt
  rw [listPendingIds, h.filter_unflushed, hsorted.insertionSort_eq]

variable {r : Row} {rest : List Row}

section

variable (h : Split s done (r :: rest))

include h

theorem Split.fetchRow_eq : fetchRow s.rows r.id = some r := by
  have hdone : done.find? (fun x => x.id == r.id && !x.flushed) = none := by
    apply find?_eq_none.mpr
    intro x hx
    simp [h.flushed x hx]
  have hr : r.flushed = false := h.unflushed r (by simp)
  rw [fetchRow, h.rows, find?_append, hdone]
  simp [hr]

theorem Split.id_ne :
    (∀ x ∈ done, x.id ≠ r.id) ∧ ∀ x ∈ rest, x.id ≠ r.id := by
  have hall := h.increasing
  rw [h.rows, map_append, map_cons, pairwise_append, pairwise_cons] at hall
  obtain ⟨-, ⟨hrest, -⟩, hcross⟩ := hall
  constructor
  · intro x hx
    have hlt : x.id < r.id := hcross _ (mem_map_of_mem hx) _ (by simp)
    omega
  · intro x hx
    have hlt : r.id < x.id := hrest _ (mem_map_of_mem hx)
    omega

theorem Split.markFlushed_eq :
    markFlushed s.rows r.id = (done ++ [{ r with flushed := true }]) ++ rest := by
  have hkeep : ∀ l : List Row, (∀ x ∈ l, x.id ≠ r.id) →
      l.map (fun x => if x.id = r.id then { x with flushed := true } else x) = l := by
    intro l hl
    calc l.map (fun x => if x.id = r.id then { x with flushed := true } else x)
        = l.map id := map_congr_left (fun x hx => if_neg (hl x hx))
      _ = l := map_id l
  rw [markFlushed, h.rows, map_append, map_cons, if_pos rfl, hkeep done h.id_ne.1,
    hkeep rest h.id_ne.2, append_assoc, singleton_append]

end

/-! ## Steps -/

section

variable (h : Split s done todo)

include h

variable {returned : List Nat} {r : Replayer}

theorem Split.move (hflight : r.inFlight = [])
    (hbefore : s.replayer.inFlight = []) (hpending : r.pendingIds <+: todo.map Row.id)
    (hhand : ∀ x, r.inHand = some x → todo.head? = some x) :
    Split { s with replayer := r, returned := returned } done todo where
  rows := h.rows
  flushed := h.flushed
  unflushed := h.unflushed
  increasing := h.increasing
  bounded := h.bounded
  accepted := h.accepted
  delivered := by
    show s.delivered = (done ++ r.inFlight).map Row.entry
    rw [h.delivered, hbefore, hflight]
  pending := hpending
  inHand := hhand

theorem Split.letGo
    (hflight : r.inFlight = []) (hbefore : s.replayer.inFlight = []) (hpending : r.pendingIds = [])
    (hhand : r.inHand = none) : Split { s with replayer := r, returned := returned } done todo := by
  refine h.move hflight hbefore ?_ ?_
  · rw [hpending]
    exact nil_prefix
  · intro x hx
    rw [hhand] at hx
    cases hx

theorem Split.enqueue (subject : String) (payload : Bytes) (delivery : PublishDelivery) :
    ∃ todo', Split (Messaging.enqueue s subject payload delivery) done todo' := by
  unfold Messaging.enqueue
  split_ifs with hbounds
  · refine ⟨todo ++ [⟨s.lastId + 1, subject, payload, delivery.value, false⟩], ?_⟩
    constructor
    · show s.rows ++ [_] = _
      rw [h.rows, append_assoc]
    · exact h.flushed
    · intro r hr
      rcases mem_append.mp hr with hr | hr
      · exact h.unflushed r hr
      · rw [mem_singleton.mp hr]
    · -- the new id is larger than every other
      show ((s.rows ++ [_]).map Row.id).Pairwise (· < ·)
      rw [map_append, pairwise_append]
      refine ⟨h.increasing, by simp, ?_⟩
      intro x hx y hy
      obtain ⟨r, hr, rfl⟩ := mem_map.mp hx
      have hle := h.bounded r hr
      have hy' : y = s.lastId + 1 := by simpa using hy
      omega
    · intro r hr
      show r.id ≤ s.lastId + 1
      rcases mem_append.mp hr with hr | hr
      · have hle := h.bounded r hr
        omega
      · rw [mem_singleton.mp hr]
    · show s.accepted ++ [_] = (s.rows ++ [_]).map Row.entry
      rw [h.accepted, map_append, map_singleton, Row.entry, Row.message, coerceDelivery_value]
    · exact h.delivered
    · show s.replayer.pendingIds <+: _
      rw [map_append]
      exact h.pending.trans (prefix_append _ _)
    · intro r hr
      have hhead := h.inHand r hr
      cases todo with
      | nil => cases hhead
      | cons x xs => exact hhead
  · exact ⟨todo, h⟩

variable {limit : Int} {total : Nat} {ids : List Nat}

theorem Split.publish {row : Row} (hr : s.replayer = .fetched limit total row ids) : Split { s with
      replayer := .published limit total row ids
      delivered := s.delivered ++ [row.entry] } done todo where
  rows := h.rows
  flushed := h.flushed
  unflushed := h.unflushed
  increasing := h.increasing
  bounded := h.bounded
  accepted := h.accepted
  delivered := by
    show s.delivered ++ [row.entry] = (done ++ [row]).map Row.entry
    rw [h.delivered, hr]
    simp [Replayer.inFlight]
  pending := by
    have hpending := h.pending
    rw [hr] at hpending
    exact hpending
  inHand := by
    intro r hr'
    apply h.inHand r
    rw [hr]
    exact hr'

theorem Split.mark {row : Row}
    (hr : s.replayer = .published limit total row ids) : ∃ todo', Split { s with
        rows := markFlushed s.rows row.id
        replayer := .batch limit (total + 1) ids }
      (done ++ [{ row with flushed := true }]) todo' := by
  have hhead : todo.head? = some row := h.inHand row (by rw [hr]; rfl)
  cases todo with
  | nil => cases hhead
  | cons r rest =>
    have hrow : r = row := Option.some.inj hhead
    subst hrow
    have hrows := h.markFlushed_eq
    have hids : (markFlushed s.rows r.id).map Row.id = s.rows.map Row.id := by
      rw [hrows, h.rows]
      simp
    have hentries : (markFlushed s.rows r.id).map Row.entry = s.rows.map Row.entry := by
      rw [hrows, h.rows]
      simp [Row.entry, Row.message]
    refine ⟨rest, hrows, ?_, ?_, ?_, ?_, ?_, ?_, ?_, ?_⟩
    · intro x hx
      rcases mem_append.mp hx with hx | hx
      · exact h.flushed x hx
      · rw [mem_singleton.mp hx]
    · intro x hx
      exact h.unflushed x (mem_cons_of_mem _ hx)
    · show ((markFlushed s.rows r.id).map Row.id).Pairwise (· < ·)
      rw [hids]
      exact h.increasing
    · intro x hx
      have hx' : x.id ∈ s.rows.map Row.id := by
        rw [← hids]
        exact mem_map_of_mem hx
      obtain ⟨y, hy, hxy⟩ := mem_map.mp hx'
      show x.id ≤ s.lastId
      rw [← hxy]
      exact h.bounded y hy
    · show s.accepted = (markFlushed s.rows r.id).map Row.entry
      rw [hentries, h.accepted]
    · show s.delivered = ((done ++ [_]) ++ []).map Row.entry
      rw [h.delivered, hr]
      simp [Replayer.inFlight, Row.entry, Row.message]
    · have hpending := h.pending
      rw [hr] at hpending
      exact (cons_prefix_cons.mp hpending).2
    · intro x hx
      cases hx

theorem Split.fetch {rowId : Nat} (hr : s.replayer = .batch limit total (rowId :: ids)) :
    ∃ row rest, todo = row :: rest ∧ fetchRow s.rows rowId = some row ∧ row.id = rowId := by
  have hpending := h.pending
  rw [hr] at hpending
  cases todo with
  | nil => simp [Replayer.pendingIds] at hpending
  | cons r rest =>
    have hid : rowId = r.id := (cons_prefix_cons.mp hpending).1
    refine ⟨r, rest, rfl, ?_, hid.symm⟩
    rw [hid]
    exact h.fetchRow_eq

/-- **One step.** There is a border after every step. -/
theorem Split.step {a : Act} (hstep : bufferStep s a = some s') :
    ∃ done' todo', Split s' done' todo' := by
  unfold bufferStep at hstep
  split at hstep
  · next subject payload delivery =>
      cases hstep
      exact ⟨done, h.enqueue subject payload delivery⟩
  · next limit hr =>
      cases hstep
      exact ⟨done, todo, h.letGo rfl (by rw [hr]; rfl) rfl rfl⟩
  · next limit total hr =>
      have hflight : s.replayer.inFlight = [] := by rw [hr]; rfl
      split at hstep
      · cases hstep
        exact ⟨done, todo, h.letGo rfl hflight rfl rfl⟩
      · cases hstep
        refine ⟨done, todo, h.move rfl hflight ?_ ?_⟩
        · show listPendingIds s.rows limit <+: todo.map Row.id
          rw [h.listPendingIds_eq]
          exact take_prefix _ _
        · intro x hx
          cases hx
  · next limit total hr =>
      cases hstep
      exact ⟨done, todo, h.letGo rfl (by rw [hr]; rfl) rfl rfl⟩
  · next limit total rowId ids hr =>
      have hflight : s.replayer.inFlight = [] := by rw [hr]; rfl
      obtain ⟨row, rest, rfl, hfetch, hid⟩ := h.fetch hr
      rw [hfetch] at hstep
      cases hstep
      refine ⟨done, row :: rest, h.move rfl hflight ?_ ?_⟩
      · have hpending := h.pending
        rw [hr] at hpending
        show row.id :: ids <+: _
        rw [hid]
        exact hpending
      · intro x hx
        exact hx
  · next limit total row ids hr =>
      cases hstep
      exact ⟨done, todo, h.publish hr⟩
  · next limit total row ids hr =>
      cases hstep
      exact ⟨done, todo, h.letGo rfl (by rw [hr]; rfl) rfl rfl⟩
  · next limit total row ids hr =>
      cases hstep
      exact ⟨_, h.mark hr⟩
  · cases hstep
  · next hr =>
      cases hstep
      have hflight : s.replayer.inFlight = [] := by
        cases hs : s.replayer with
        | published limit total row ids => exact absurd hs (hr limit total row ids)
        | _ => rfl
      exact ⟨done, todo, h.letGo rfl hflight rfl rfl⟩
  · cases hstep

end

/-! ## Runs -/

/-- The rows that are not flushed, as messages. -/
def State.unflushed (s : State) : List (Nat × Message) :=
  (s.rows.filter (fun r => !r.flushed)).map Row.entry

def State.Quiescent (s : State) : Prop := s.replayer.inFlight = []

theorem split_of_run {as : List Act} (hrun : run bufferStep .init as = some s) :
    ∃ done todo, Split s done todo := by
  have hinit : ∃ done todo, Split .init done todo := ⟨[], [], split_init⟩
  have htrue : Meets bufferStep (fun _ _ => True) .init as := meets_true _ _
  refine invariant_of_run (I := fun s => ∃ done todo, Split s done todo) ?_ hinit htrue hrun
  rintro s a s' ⟨done, todo, h⟩ - hstep
  exact h.step hstep

section

variable (h : Split s done todo)

include h

theorem Split.unflushed_eq : s.unflushed = todo.map Row.entry := by
  rw [State.unflushed, h.filter_unflushed]

theorem Split.delivered_prefix :
    s.delivered.map Prod.fst <+: s.rows.map Row.id := by
  have hflight : s.replayer.inFlight <+: todo := by
    cases hr : s.replayer with
    | published limit total row ids =>
      have hhead : todo.head? = some row := h.inHand row (by rw [hr]; rfl)
      cases todo with
      | nil => cases hhead
      | cons r rest =>
        rw [← Option.some.inj hhead]
        exact prefix_append [r] rest
    | _ => exact nil_prefix
  have hids : s.delivered.map Prod.fst = (done ++ s.replayer.inFlight).map Row.id := by
    rw [h.delivered, map_map]
    rfl
  rw [hids, h.rows]
  exact ((prefix_append_right_inj done).mpr hflight).map Row.id

theorem Split.not_mem_done {m : Nat × Message}
    (hm : m ∈ todo.map Row.entry) : m ∉ done.map Row.entry := by
  intro hm'
  obtain ⟨r, hr, rfl⟩ := mem_map.mp hm
  obtain ⟨r', hr', hentry⟩ := mem_map.mp hm'
  have hall := h.increasing
  rw [h.rows, map_append, pairwise_append] at hall
  have hlt : r'.id < r.id := hall.2.2 _ (mem_map_of_mem hr') _ (mem_map_of_mem hr)
  have heq : r'.id = r.id := congrArg Prod.fst hentry
  omega

theorem Split.accepted_iff (m : Nat × Message) :
    m ∈ s.accepted ↔ m ∈ done.map Row.entry ∨ m ∈ todo.map Row.entry := by
  rw [h.accepted, h.rows, map_append, mem_append]

end

/-- **Replays deliver in order and lose nothing.** In every run of publishers, a failing or working
broker and one replayer: messages are delivered in the order of their ids, an accepted message is
delivered or still in the buffer, and when no row is between publication and mark the unflushed
rows are exactly the accepted messages that were not delivered. -/
theorem replay_in_order (as : List Act) (s : State)
    (hrun : Steps.run bufferStep .init as = some s) :
    (s.delivered.map Prod.fst).Pairwise (· < ·) ∧
    (∀ m ∈ s.accepted, m ∈ s.delivered ∨ m ∈ s.unflushed) ∧
    (s.Quiescent → ∀ m, m ∈ s.unflushed ↔ m ∈ s.accepted ∧ m ∉ s.delivered) := by
  obtain ⟨done, todo, h⟩ := split_of_run hrun
  refine ⟨?_, ?_, ?_⟩
  · exact h.increasing.sublist h.delivered_prefix.sublist
  · intro m hm
    rw [h.delivered, h.unflushed_eq, map_append, mem_append]
    rcases (h.accepted_iff m).mp hm with hdone | htodo
    · exact .inl (.inl hdone)
    · exact .inr htodo
  · intro hquiet m
    have hdelivered : s.delivered = done.map Row.entry := by
      rw [h.delivered, hquiet, append_nil]
    rw [h.unflushed_eq, hdelivered, h.accepted_iff]
    constructor
    · intro htodo
      exact ⟨.inr htodo, h.not_mem_done htodo⟩
    · rintro ⟨hdone | htodo, hnot⟩
      · exact absurd hdone hnot
      · exact htodo

/-- Two messages, a broker that fails on the second one, and a message that arrives meanwhile. -/
def Reference.outage : List Act :=
  [.enqueue "a" [1] .core, .enqueue "b" [2] .jetstream, .replay 500, .list, .fetch, .publish true,
    .enqueue "c" [3] .core, .mark, .fetch, .publish false]

theorem replay_in_order_outage : ∃ s, Steps.run bufferStep .init Reference.outage = some s ∧
    s.Quiescent ∧ s.delivered.map Prod.fst = [1] ∧
    ∀ m, m ∈ s.unflushed ↔ m ∈ s.accepted ∧ m ∉ s.delivered := by
  refine ⟨_, rfl, rfl, rfl, ?_⟩
  exact (replay_in_order Reference.outage _ rfl).2.2 rfl

end Tarka.Messaging
