import Mathlib.Data.Set.Card
import Tarka.Lib.FloatValue
import Tarka.Rules.ConditionParity
import Tarka.Shared.Aggregates

/-! # What the aggregates report

A window of an entity is a set of its events: those with a time between its start and now. On runs
that are `Regular` the count and the sum that the store reports are those of the window, whatever
the order of arrival, and the number of different values is that of the window exactly if of every
value in it the event that arrived last is in it too (`windows_exact`). An older event that arrives
late takes the score of its value back.

The other conditions mark where the count and the sum go wrong as well: windows over thirty days are
cut, events dated in the future are counted, an event that comes again replaces the first one, a
boolean is recorded as a number but not summed, and names with colons share keys. -/

namespace Tarka.Shared.Aggregates

open Tarka.Lib Tarka.Json SortedSet List Function Value Dict

/-! ## Windows -/

/-- An event with the time that counts. -/
structure Stamped where
  time : Int
  eventId : String
  fields : List (String × Value)

def Record.stamped (r : Record) : Stamped := ⟨r.time, r.event.eventId, r.event.fields⟩

def Record.isOf (tenantId entityId : String) (r : Record) : Bool :=
  decide (r.event.tenantId = tenantId ∧ r.event.entityId = entityId)

def eventsOf (tenantId entityId : String) (rs : List Record) : List Stamped :=
  (rs.filter (Record.isOf tenantId entityId)).map Record.stamped

def inWindow (now window : Int) (events : List Stamped) : List Stamped :=
  events.filter (fun e => decide (now - seconds window ≤ e.time ∧ e.time ≤ now))

def amount : Value → Option F64
  | .number n => n.asF64
  | .bool b => some (F64.ofNat b.toNat)
  | _ => none

/-- A number of an event, with what orders it among others. -/
structure Reading where
  member : String
  time : Int
  value : F64

section

variable (host : Host)

def reading (field : String) (e : Stamped) : Option Reading :=
  (e.fields.lookup field).bind (fun v => (amount v).map (fun x =>
    ⟨e.eventId ++ ":" ++ v.pyStr host.py, e.time, x⟩))

/-- The sum of a field over events, added up in the order of time. -/
def windowSum (field : String) (events : List Stamped) : F64 :=
  ((events.filterMap (reading host field)).insertionSort
    (fun a b => Before (a.member, a.time) (b.member, b.time))).foldl
      (fun total r => host.add total r.value) (F64.ofNat 0)

def windowValues (field : String) (events : List Stamped) : Set Value :=
  { v | ∃ e ∈ events, e.fields.lookup field = some v ∧ v.isNull = false }

def valueTimes (field : String) (events : List Stamped) : List (String × Int) :=
  events.filterMap (fun e => ((e.fields.lookup field).bind (distinctText host field)).map
    (fun text => (text, e.time)))

end

/-! ## Additions to a metric -/

theorem field_ne (a b : String) : "field:" ++ a ≠ "distinct:" ++ b := by
  intro h
  have hchars := congrArg String.toList h
  simp [String.toList_append] at hchars

theorem events_ne (a : String) : "field:" ++ a ≠ "events" ∧ "distinct:" ++ a ≠ "events" := by
  constructor <;>
  · intro h
    have hchars := congrArg String.toList h
    simp [String.toList_append] at hchars

section

variable (host : Host)

theorem metrics_events (e : Event) :
    (metrics host e).filter (fun x => x.1 == "events") = [("events", e.eventId)] := by
  have hfields : (e.fields.flatMap (fieldMetrics host e.eventId)).filter
      (fun x => x.1 == "events") = [] := by
    rw [filter_eq_nil_iff]
    intro x hx
    obtain ⟨f, -, hf⟩ := mem_flatMap.mp hx
    rw [beq_iff_eq]
    rcases mem_append.mp hf with hf | hf
    · obtain ⟨text, -, rfl⟩ := Option.map_eq_some_iff.mp (Option.mem_toList.mp hf)
      exact (events_ne f.1).1
    · obtain ⟨text, -, rfl⟩ := Option.map_eq_some_iff.mp (Option.mem_toList.mp hf)
      exact (events_ne f.1).2
  rw [metrics, filter_cons, hfields]
  rfl

theorem append_inj (front a b : String) : front ++ a = front ++ b ↔ a = b := by
  rw [← String.toList_inj, String.toList_append, String.toList_append, append_cancel_left_eq,
    String.toList_inj]

theorem append_beq (front a b : String) :
    ((front ++ a : String) == front ++ b) = decide (a = b) := by
  rw [Bool.eq_iff_iff, beq_iff_eq, append_inj, decide_eq_true_iff]

theorem fieldMetrics_field (id : String) (e : String × Value) (f : String) :
    (fieldMetrics host id e).filter (fun x => x.1 == "field:" ++ f)
      = if e.1 = f then
          ((numericText host f e.2).map (fun text => ("field:" ++ f, id ++ ":" ++ text))).toList
        else [] := by
  have hother : (("distinct:" ++ e.1 : String) == "field:" ++ f) = false :=
    beq_false_of_ne (field_ne f e.1).symm
  rw [fieldMetrics]
  cases hn : numericText host e.1 e.2 <;> cases distinctText host e.1 e.2 <;>
    by_cases hf : e.1 = f <;> simp_all [append_beq]

theorem fieldMetrics_distinct (id : String) (e : String × Value) (f : String) :
    (fieldMetrics host id e).filter (fun x => x.1 == "distinct:" ++ f)
      = if e.1 = f then
          ((distinctText host f e.2).map (fun text => ("distinct:" ++ f, text))).toList
        else [] := by
  have hother : (("field:" ++ e.1 : String) == "distinct:" ++ f) = false :=
    beq_false_of_ne (field_ne e.1 f)
  rw [fieldMetrics]
  cases numericText host e.1 e.2 <;> cases hd : distinctText host e.1 e.2 <;>
    by_cases hf : e.1 = f <;> simp_all [append_beq]

theorem metrics_of_field {e : Event} {metric : String} (f : String)
    (text : Value → Option (String × String)) (hevents : "events" ≠ metric)
    (hfield : ∀ x : String × Value, (fieldMetrics host e.eventId x).filter (fun y => y.1 == metric)
      = if x.1 = f then (text x.2).toList else []) :
    (metrics host e).filter (fun x => x.1 == metric) = ((e.fields.lookup f).bind text).toList := by
  rw [metrics, filter_cons, if_neg (by simpa using hevents), filter_flatMap,
    flatMap_eq_lookup e.proper (k := f) (fun x _ hx => by rw [hfield, if_neg hx])]
  cases e.fields.lookup f with
  | none => rfl
  | some v => rw [Option.elim_some, hfield, if_pos rfl, Option.bind_some]

theorem metrics_field (e : Event) (f : String) :
    (metrics host e).filter (fun x => x.1 == "field:" ++ f)
      = (((e.fields.lookup f).bind (numericText host f)).map
          (fun text => ("field:" ++ f, e.eventId ++ ":" ++ text))).toList := by
  rw [metrics_of_field host f (fun v => (numericText host f v).map
    (fun text => ("field:" ++ f, e.eventId ++ ":" ++ text))) (events_ne f).1.symm
    (fun x => fieldMetrics_field host e.eventId x f), Option.map_bind]
  rfl

theorem metrics_distinct (e : Event) (f : String) :
    (metrics host e).filter (fun x => x.1 == "distinct:" ++ f)
      = (((e.fields.lookup f).bind (distinctText host f)).map
          (fun text => ("distinct:" ++ f, text))).toList := by
  rw [metrics_of_field host f (fun v => (distinctText host f v).map
    (fun text => ("distinct:" ++ f, text))) (events_ne f).2.symm
    (fun x => fieldMetrics_distinct host e.eventId x f), Option.map_bind]
  rfl

def Separate (vs tenantId entityId : String) (rs : List Record) : Prop :=
  ∀ r ∈ rs, ∀ m m', aggKey vs r.event.tenantId r.event.entityId m = aggKey vs tenantId entityId m' →
    r.event.tenantId = tenantId ∧ r.event.entityId = entityId

variable {vs m : String}

theorem aggKey_inj {t e m' : String} : aggKey vs t e m = aggKey vs t e m' ↔ m = m' :=
  append_inj _ m m'

theorem recordAll_eq (vs : String) (rs : List Record) :
    recordAll host vs rs = run keyLife (rs.flatMap (additions host vs)) := by
  rw [run, foldl_flatMap]
  rfl

theorem addsTo_additions {tenantId entityId : String} {rs : List Record}
    (h : Separate vs tenantId entityId rs) (metric : String) :
    addsTo (aggKey vs tenantId entityId metric) (rs.flatMap (additions host vs))
      = (rs.filter (Record.isOf tenantId entityId)).flatMap (fun r =>
        ((metrics host r.event).filter (fun x => x.1 == metric)).map (fun x => (x.2, r.time))) := by
  induction rs with
  | nil => rfl
  | cons r rs ih =>
    have htail : Separate vs tenantId entityId rs := fun r' hr' => h r' (mem_cons_of_mem _ hr')
    have hone : addsTo (aggKey vs tenantId entityId metric) (additions host vs r)
        = if r.isOf tenantId entityId then
            ((metrics host r.event).filter (fun x => x.1 == metric)).map (fun x => (x.2, r.time))
          else [] := by
      unfold addsTo additions
      rw [filter_map, map_map]
      cases hof : r.isOf tenantId entityId with
      | true =>
        obtain ⟨ht, he⟩ := of_decide_eq_true hof
        congr 1
        apply filter_congr
        intro x _
        rw [Bool.eq_iff_iff, comp_apply, beq_iff_eq, beq_iff_eq, ht, he, aggKey_inj]
      | false =>
        rw [if_neg Bool.false_ne_true, map_eq_nil_iff, filter_eq_nil_iff]
        intro x _
        rw [comp_apply, beq_iff_eq]
        intro hkey
        exact of_decide_eq_false hof (h r (by simp) _ _ hkey)
    have hsplit : addsTo (aggKey vs tenantId entityId metric)
        ((r :: rs).flatMap (additions host vs))
        = addsTo (aggKey vs tenantId entityId metric) (additions host vs r)
          ++ addsTo (aggKey vs tenantId entityId metric) (rs.flatMap (additions host vs)) := by
      rw [flatMap_cons, addsTo, filter_append, map_append]
      rfl
    rw [hsplit, hone, ih htail, filter_cons]
    split_ifs
    · rw [flatMap_cons]
    · rfl

def numericEntry (f : String) (e : Stamped) : Option (String × Int) :=
  ((e.fields.lookup f).bind (numericText host f)).map
    (fun text => (e.eventId ++ ":" ++ text, e.time))

section

variable {vs tenantId entityId : String} {rs : List Record} (h : Separate vs tenantId entityId rs)

include h

theorem addsTo_events :
    addsTo (aggKey vs tenantId entityId "events") (rs.flatMap (additions host vs))
      = (eventsOf tenantId entityId rs).map (fun e => (e.eventId, e.time)) := by
  rw [addsTo_additions host h, eventsOf, map_map]
  simp only [metrics_events, map_cons, map_nil]
  rw [← map_eq_flatMap]
  rfl

theorem addsTo_field (f : String) :
    addsTo (aggKey vs tenantId entityId ("field:" ++ f)) (rs.flatMap (additions host vs))
      = (eventsOf tenantId entityId rs).filterMap (numericEntry host f) := by
  rw [addsTo_additions host h, eventsOf, filterMap_map, filterMap_eq_flatMap_toList]
  congr 1
  funext r
  rw [metrics_field, comp_apply, numericEntry, Record.stamped]
  cases (r.event.fields.lookup f).bind (numericText host f) <;> rfl

theorem addsTo_distinct (f : String) :
    addsTo (aggKey vs tenantId entityId ("distinct:" ++ f)) (rs.flatMap (additions host vs))
      = valueTimes host f (eventsOf tenantId entityId rs) := by
  rw [addsTo_additions host h, eventsOf, valueTimes, filterMap_map, filterMap_eq_flatMap_toList]
  congr 1
  funext r
  rw [metrics_distinct, comp_apply, Record.stamped]
  cases (r.event.fields.lookup f).bind (distinctText host f) <;> rfl

end

end

/-! ## Regular runs -/

/-- The calls of a run come in order, before the query; no event is dated after its call; the window
is not longer than the store looks back; the events of the entity have different ids, and no other
entity shares its keys. -/
structure Regular (vs : String) (rs : List Record) (now window : Int) (tenantId entityId : String) :
    Prop where
  window : window ≤ maxWindow
  sorted : rs.Pairwise (fun r r' => r.now ≤ r'.now)
  past : ∀ r ∈ rs, r.now ≤ now
  dated : ∀ r ∈ rs, r.time ≤ r.now
  ids : (eventsOf tenantId entityId rs).Pairwise (fun e e' => e.eventId ≠ e'.eventId)
  separate : Separate vs tenantId entityId rs

/-- What is known of `str` and `float`: the text of a number is read back. -/
structure Host.Lawful (host : Host) : Prop where
  text : host.py.Lawful
  parse_number : ∀ n : Number, host.parse (host.py.number n) = n.asF64

theorem toList_number (t : PyText) (n : Number) :
    (t.number n).toList = numberChars t.reprFloat n := by
  cases n <;> rfl

variable {host : Host}

theorem Host.Lawful.no_colon (h : host.Lawful) (n : Number) : ':' ∉ (host.py.number n).toList := by
  intro hmem
  rw [toList_number] at hmem
  exact absurd (isNumberChar_of_mem h.text hmem) (by decide)

variable {e : Stamped} {vs tenantId entityId : String} {rs : List Record} {now window : Int}

section

variable (h : Regular vs rs now window tenantId entityId)

include h

theorem Regular.cutoff_eq : cutoff now window = now - seconds window := by
  rw [cutoff, min_eq_left h.window]

theorem Regular.time_le (he : e ∈ eventsOf tenantId entityId rs) : e.time ≤ now := by
  obtain ⟨r, hr, rfl⟩ := mem_map.mp he
  have hmem := mem_of_mem_filter hr
  exact le_trans (h.dated r hmem) (h.past r hmem)

theorem Regular.inWindow_eq :
    inWindow now window (eventsOf tenantId entityId rs)
      = (eventsOf tenantId entityId rs).filter (fun e => decide (cutoff now window ≤ e.time)) := by
  apply filter_congr
  intro e he
  have hpast := h.time_le he
  rw [h.cutoff_eq, decide_eq_decide]
  exact and_iff_left hpast

/-- **What a query reads** is what was added from the start of the window on. -/
theorem Regular.above_perm (metric : String) :
    (above (live (recordAll host vs rs) (aggKey vs tenantId entityId metric) now)
        (cutoff now window)).Perm
      (above (ofAdds (addsTo (aggKey vs tenantId entityId metric)
        (rs.flatMap (additions host vs)))) (cutoff now window)) := by
  rw [recordAll_eq]
  -- all commands of a call carry its time
  have hnow : ∀ r : Record, ∀ a ∈ additions host vs r, a.now = r.now ∧ a.score = r.time := by
    intro r a ha
    obtain ⟨x, -, rfl⟩ := mem_map.mp ha
    exact ⟨rfl, rfl⟩
  apply above_live_perm
  · rw [pairwise_flatMap]
    refine ⟨?_, h.sorted.imp ?_⟩
    · intro r _
      apply pairwise_of_forall_mem_list
      intro a ha b hb
      rw [(hnow r a ha).1, (hnow r b hb).1]
    · intro r r' hle a ha b hb
      rw [(hnow r a ha).1, (hnow r' b hb).1]
      exact hle
  · intro a ha
    obtain ⟨r, hr, hmem⟩ := mem_flatMap.mp ha
    rw [(hnow r a hmem).1, (hnow r a hmem).2]
    exact h.dated r hr
  · intro a ha
    obtain ⟨r, hr, hmem⟩ := mem_flatMap.mp ha
    rw [(hnow r a hmem).1]
    exact h.past r hr
  · have hwindow := h.window
    rw [h.cutoff_eq, keyLife, seconds, seconds]
    omega

theorem Regular.count_eq :
    count vs (recordAll host vs rs) now tenantId entityId window
      = (inWindow now window (eventsOf tenantId entityId rs)).length := by
  have hproper : Proper ((eventsOf tenantId entityId rs).map (fun e => (e.eventId, e.time))) := by
    rw [Proper, map_map]
    exact pairwise_map.mpr h.ids
  rw [count, zcount, (h.above_perm "events").length_eq, addsTo_events host h.separate,
    ofAdds_eq_self hproper, SortedSet.above, filter_map, length_map, h.inWindow_eq]
  rfl

end

theorem time_of_mem_map {o : Option String} {g : String → String} {time : Int} :
    ∀ x ∈ o.map (fun text => (g text, time)), x.2 = time := by
  intro x hx
  obtain ⟨text, -, rfl⟩ := Option.map_eq_some_iff.mp hx
  rfl

theorem above_filterMap {g : Stamped → Option (String × Int)} (hg : ∀ e, ∀ x ∈ g e, x.2 = e.time)
    (cut : Int) (events : List Stamped) :
    above (events.filterMap g) cut
      = (events.filter (fun e => decide (cut ≤ e.time))).filterMap g := by
  induction events with
  | nil => rfl
  | cons e events ih =>
    rw [filterMap_cons, filter_cons]
    cases hx : g e with
    | none =>
      rw [ih]
      split_ifs <;> simp [hx]
    | some x =>
      have htime : x.2 = e.time := hg e x hx
      rw [SortedSet.above, filter_cons, htime]
      split_ifs
      · rw [filterMap_cons, hx]
        exact congrArg (List.cons x) ih
      · exact ih

/-! ## Sums -/

theorem afterLastColon_append {id text : String} (h : ':' ∉ text.toList) :
    afterLastColon (id ++ ":" ++ text) = text := by
  have hkept : ∀ c ∈ text.toList.reverse, (c != ':') := by
    intro c hc
    rw [bne_iff_ne]
    rintro rfl
    exact h (mem_reverse.mp hc)
  have hchars : (id ++ ":" ++ text).toList.reverse
      = text.toList.reverse ++ ':' :: id.toList.reverse := by
    simp [String.toList_append]
  rw [afterLastColon, hchars, takeWhile_append_of_pos hkept, takeWhile_cons_of_neg (by simp),
    append_nil, reverse_reverse, String.ofList_toList]

def NoBooleans (field : String) (events : List Stamped) : Prop :=
  ∀ e ∈ events, ∀ b, e.fields.lookup field ≠ some (.bool b)

section

variable {host : Host} {f : String} {events : List Stamped} (hbool : NoBooleans f events)

include hbool

theorem numeric_eq_reading (hf : f ∈ numericFields) (he : e ∈ events) :
    numericEntry host f e = (reading host f e).map (fun r => (r.member, r.time)) := by
  rw [numericEntry, reading]
  cases hv : e.fields.lookup f with
  | none => rfl
  | some v =>
    cases v with
    | number n =>
      cases n <;> simp [numericText, hf, amount, Number.asF64]
    | bool b => exact absurd hv (hbool e he b)
    | _ => simp [numericText, amount]

variable {r : Reading}

theorem reading_number (he : e ∈ events) (hr : reading host f e = some r) :
    ∃ n : Number, r.member = e.eventId ++ ":" ++ host.py.number n ∧ n.asF64 = some r.value := by
  cases hv : e.fields.lookup f with
  | none => simp [reading, hv] at hr
  | some v =>
    cases v with
    | number n =>
      obtain ⟨x, hx, rfl⟩ : ∃ x, n.asF64 = some x
          ∧ (⟨e.eventId ++ ":" ++ host.py.number n, e.time, x⟩ : Reading) = r := by
        simpa [reading, hv, amount, pyStr, pyRepr, Option.map_eq_some_iff] using hr
      exact ⟨n, rfl, hx⟩
    | bool b => exact absurd hv (hbool e he b)
    | _ => simp [reading, hv, amount] at hr

variable (hlaw : host.Lawful)

include hlaw

theorem parse_member (hr : r ∈ events.filterMap (reading host f)) :
    host.parse (afterLastColon r.member) = some r.value := by
  obtain ⟨e, he, hre⟩ := mem_filterMap.mp hr
  obtain ⟨n, hmember, hvalue⟩ := reading_number hbool he hre
  rw [hmember, afterLastColon_append (hlaw.no_colon n), hlaw.parse_number, hvalue]

theorem pairwise_member (hids : events.Pairwise (fun e e' => e.eventId ≠ e'.eventId)) :
    (events.filterMap (reading host f)).Pairwise (fun r r' => r.member ≠ r'.member) := by
  rw [pairwise_filterMap]
  refine hids.imp_of_mem ?_
  intro e e' he he' hne r hr r' hr' heq
  obtain ⟨n, hn, -⟩ := reading_number hbool he hr
  obtain ⟨n', hn', -⟩ := reading_number hbool he' hr'
  have htext : host.py.number n = host.py.number n' := by
    calc host.py.number n
        = afterLastColon r.member := by rw [hn, afterLastColon_append (hlaw.no_colon n)]
      _ = afterLastColon r'.member := by rw [heq]
      _ = host.py.number n' := by rw [hn', afterLastColon_append (hlaw.no_colon n')]
  apply hne
  rw [hn, hn', htext] at heq
  simpa [String.toList_append, String.toList_inj] using heq

theorem sumMembers_eq (hf : f ∈ numericFields) :
    sumMembers host (((events.filterMap (numericEntry host f)).insertionSort Before).map Prod.fst)
      = windowSum host f events := by
  have hadds : events.filterMap (numericEntry host f)
      = (events.filterMap (reading host f)).map (fun r => (r.member, r.time)) := by
    rw [map_filterMap]
    exact filterMap_congr (fun e he => numeric_eq_reading hbool hf he)
  have hsort :=
    map_insertionSort (fun a b : Reading => Before (a.member, a.time) (b.member, b.time))
    Before (fun r => (r.member, r.time)) (events.filterMap (reading host f))
    (fun a _ b _ => Iff.rfl)
  rw [hadds, ← hsort, map_map, sumMembers, foldl_map]
  apply foldl_ext
  intro total r hr
  have hmem := (perm_insertionSort _ _).mem_iff.mp hr
  rw [comp_apply, parse_member hbool hlaw hmem, Option.elim_some]

end

section

variable (h : Regular vs rs now window tenantId entityId)

include h

variable {f : String}

theorem Regular.sumField_eq (hlaw : host.Lawful) (hf : f ∈ numericFields)
    (hbool : NoBooleans f (eventsOf tenantId entityId rs)) :
    sumField host vs (recordAll host vs rs) now tenantId entityId f window
      = windowSum host f (inWindow now window (eventsOf tenantId entityId rs)) := by
  have hproper : Proper ((eventsOf tenantId entityId rs).filterMap (numericEntry host f)) := by
    rw [filterMap_congr (fun e he => numeric_eq_reading hbool hf he), ← map_filterMap,
      Proper, map_map]
    exact pairwise_map.mpr (pairwise_member hbool hlaw h.ids)
  have hbool' : NoBooleans f (inWindow now window (eventsOf tenantId entityId rs)) :=
    fun e he => hbool e (mem_of_mem_filter he)
  rw [sumField, zrangeByScore, sort_eq_of_perm (h.above_perm _), addsTo_field host h.separate,
    ofAdds_eq_self hproper, above_filterMap (g := numericEntry host f) (fun _ => time_of_mem_map),
    ← h.inWindow_eq, sumMembers_eq hbool' hlaw hf]

end

/-! ## Different values -/

def TextsApart (host : Host) (field : String) (events : List Stamped) : Prop :=
  Set.InjOn (Value.pyStr host.py) (windowValues field events)

/-- Of every value in the window, the event that arrived last is in the window. -/
def LatestInWindow (host : Host) (field : String) (cut : Int) (events : List Stamped) : Prop :=
  ∀ x ∈ valueTimes host field events, cut ≤ x.2 →
    ∀ time ∈ (valueTimes host field events).reverse.lookup x.1, cut ≤ time

variable {events : List Stamped}

theorem mem_valueTimes (hf : f ∈ distinctFields) : m ∈ (valueTimes host f events).map Prod.fst
      ↔ ∃ v ∈ windowValues f events, v.pyStr host.py = m := by
  constructor
  · intro hm
    obtain ⟨x, hx, rfl⟩ := mem_map.mp hm
    obtain ⟨e, he, hxe⟩ := mem_filterMap.mp hx
    obtain ⟨text, htext, rfl⟩ := Option.map_eq_some_iff.mp hxe
    obtain ⟨v, hv, hvtext⟩ := Option.bind_eq_some_iff.mp htext
    unfold distinctText at hvtext
    split_ifs at hvtext with hcond
    exact ⟨v, ⟨e, he, hv, by simpa using hcond.2⟩, Option.some.inj hvtext⟩
  · rintro ⟨v, ⟨e, he, hv, hnull⟩, rfl⟩
    refine mem_map.mpr ⟨(v.pyStr host.py, e.time), mem_filterMap.mpr ⟨e, he, ?_⟩, rfl⟩
    simp [hv, distinctText, hf, hnull]

theorem ncard_windowValues (hf : f ∈ distinctFields) (h : TextsApart host f events) :
    (windowValues f events).ncard = ((valueTimes host f events).map Prod.fst).toFinset.card := by
  have himage : pyStr host.py '' windowValues f events
      = (((valueTimes host f events).map Prod.fst).toFinset : Set String) := by
    ext m
    rw [Finset.mem_coe, mem_toFinset, mem_valueTimes hf]
    rfl
  rw [← Set.InjOn.ncard_image h, himage, Set.ncard_coe_finset]

section

variable (h : Regular vs rs now window tenantId entityId)

include h

theorem Regular.distinctCount_eq_iff (hf : f ∈ distinctFields)
    (hapart : TextsApart host f (inWindow now window (eventsOf tenantId entityId rs))) :
    distinctCount vs (recordAll host vs rs) now tenantId entityId f window
        = (windowValues f (inWindow now window (eventsOf tenantId entityId rs))).ncard
      ↔ LatestInWindow host f (cutoff now window) (eventsOf tenantId entityId rs) := by
  have habove : above (valueTimes host f (eventsOf tenantId entityId rs)) (cutoff now window)
      = valueTimes host f (inWindow now window (eventsOf tenantId entityId rs)) := by
    rw [valueTimes, above_filterMap (fun _ => time_of_mem_map), ← h.inWindow_eq]
    rfl
  have hcount : distinctCount vs (recordAll host vs rs) now tenantId entityId f window
      = zcount (ofAdds (valueTimes host f (eventsOf tenantId entityId rs)))
        (cutoff now window) := by
    rw [distinctCount, zcount, (h.above_perm _).length_eq, addsTo_distinct host h.separate]
    rfl
  rw [hcount, ncard_windowValues hf hapart, ← habove]
  exact zcount_ofAdds_eq_iff _ _

end

theorem windowSum_perm (hlaw : host.Lawful) (hf : f ∈ numericFields)
    {events' : List Stamped} (hbool : NoBooleans f events) (h : events'.Perm events) :
    windowSum host f events' = windowSum host f events := by
  have hbool' : NoBooleans f events' := fun e he => hbool e (h.mem_iff.mp he)
  rw [← sumMembers_eq hbool hlaw hf, ← sumMembers_eq hbool' hlaw hf,
    sort_eq_of_perm (h.filterMap _)]

/-- **The reports of a regular run are those of its windows**; the number of different values is so
exactly if no late arrival has taken a value back. In which order the events arrived does not matter
to the count and the sum. -/
theorem windows_exact {host : Host} (hlaw : host.Lawful) {vs tenantId entityId : String}
    {rs : List Record} {now window : Int} (h : Regular vs rs now window tenantId entityId) :
    count vs (recordAll host vs rs) now tenantId entityId window
        = (inWindow now window (eventsOf tenantId entityId rs)).length
      ∧ (∀ f ∈ numericFields, NoBooleans f (eventsOf tenantId entityId rs) →
        sumField host vs (recordAll host vs rs) now tenantId entityId f window
          = windowSum host f (inWindow now window (eventsOf tenantId entityId rs)))
      ∧ (∀ f ∈ distinctFields,
        TextsApart host f (inWindow now window (eventsOf tenantId entityId rs)) →
        (distinctCount vs (recordAll host vs rs) now tenantId entityId f window
            = (windowValues f (inWindow now window (eventsOf tenantId entityId rs))).ncard
          ↔ LatestInWindow host f (cutoff now window) (eventsOf tenantId entityId rs)))
      ∧ ∀ rs', Regular vs rs' now window tenantId entityId →
        (eventsOf tenantId entityId rs').Perm (eventsOf tenantId entityId rs) →
        count vs (recordAll host vs rs') now tenantId entityId window
            = count vs (recordAll host vs rs) now tenantId entityId window
          ∧ ∀ f ∈ numericFields, NoBooleans f (eventsOf tenantId entityId rs) →
            sumField host vs (recordAll host vs rs') now tenantId entityId f window
              = sumField host vs (recordAll host vs rs) now tenantId entityId f window := by
  refine ⟨h.count_eq, fun f hf => h.sumField_eq hlaw hf, fun f hf => h.distinctCount_eq_iff hf, ?_⟩
  intro rs' h' hperm
  have hwindow : (inWindow now window (eventsOf tenantId entityId rs')).Perm
      (inWindow now window (eventsOf tenantId entityId rs)) := hperm.filter _
  refine ⟨?_, ?_⟩
  · rw [h.count_eq, h'.count_eq, hwindow.length_eq]
  · intro f hf hbool
    have hbool' : NoBooleans f (eventsOf tenantId entityId rs') :=
      fun e he => hbool e (hperm.mem_iff.mp he)
    have hbool'' : NoBooleans f (inWindow now window (eventsOf tenantId entityId rs)) :=
      fun e he => hbool e (mem_of_mem_filter he)
    rw [h.sumField_eq hlaw hf hbool, h'.sumField_eq hlaw hf hbool',
      windowSum_perm hlaw hf hbool'' hwindow]

/-! ## Examples -/

open Classical in
/-- A host that reads the texts of numbers back and adds whole numbers. -/
noncomputable def referenceHost : Host where
  py := Rules.Reference.engines.py
  parse := fun s =>
    if h : ∃ n, Rules.Reference.engines.py.number n = s then h.choose.asF64 else none
  add := fun x y => F64.ofInt (x.trunc + y.trunc)

theorem referenceHost_lawful : referenceHost.Lawful where
  text := Rules.Reference.py_lawful
  parse_number := by
    intro n
    have hex : ∃ m, Rules.Reference.engines.py.number m = referenceHost.py.number n := ⟨n, rfl⟩
    have hsame : hex.choose = n := by
      apply numberChars_injective Rules.Reference.py_lawful
      rw [← toList_number, ← toList_number]
      exact congrArg String.toList hex.choose_spec
    exact (dif_pos hex).trans (congrArg Number.asF64 hsame)

def payment (eventId : String) (amount : UInt64) (ts : Int) : Event where
  tenantId := "t1"
  entityId := "alice"
  eventId := eventId
  fields := [("amount", .number (.posInt amount)), ("ip_address", .string "10.0.0.1")]
  proper := by simp [Dict.Proper]
  ts := some ts

def inOrder : List Record :=
  [⟨payment "e1" 5 (seconds 1000), seconds 8100⟩, ⟨payment "e2" 7 (seconds 8100), seconds 8200⟩]

def outOfOrder : List Record :=
  [⟨payment "e2" 7 (seconds 8100), seconds 8100⟩, ⟨payment "e1" 5 (seconds 1000), seconds 8200⟩]

theorem inOrder_regular : Regular "" inOrder (seconds 9000) 3600 "t1" "alice" where
  window := by decide
  sorted := by decide
  past := by decide
  dated := by decide
  ids := by decide
  separate := by
    intro r hr _ _ _
    have hown : ∀ r ∈ inOrder, r.event.tenantId = "t1" ∧ r.event.entityId = "alice" := by decide
    exact hown r hr

theorem inOrder_reports :
    count "" (recordAll referenceHost "" inOrder) (seconds 9000) "t1" "alice" 3600 = 1
      ∧ sumField referenceHost "" (recordAll referenceHost "" inOrder) (seconds 9000) "t1" "alice"
          "amount" 3600 = F64.ofNat 7 := by
  obtain ⟨hcount, hsum, -⟩ := windows_exact referenceHost_lawful inOrder_regular
  refine ⟨hcount.trans (by decide), (hsum "amount" (by decide) ?_).trans (by decide +kernel)⟩
  intro e he b hv
  rcases mem_pair.mp he with rfl | rfl
  · exact Value.noConfusion (Option.some.inj hv)
  · exact Value.noConfusion (Option.some.inj hv)

/-- **A late arrival takes a value back**: the address of the payment in the window is counted if
the payments arrive in order, and not otherwise. -/
theorem late_arrival_lost :
    (eventsOf "t1" "alice" outOfOrder).Perm (eventsOf "t1" "alice" inOrder)
      ∧ distinctCount "" (recordAll referenceHost "" inOrder) (seconds 9000) "t1" "alice"
        "ip_address" 3600 = 1
      ∧ distinctCount "" (recordAll referenceHost "" outOfOrder) (seconds 9000) "t1" "alice"
        "ip_address" 3600 = 0
      ∧ windowValues "ip_address" (inWindow (seconds 9000) 3600 (eventsOf "t1" "alice" outOfOrder))
        = {.string "10.0.0.1"} := by
  refine ⟨List.Perm.swap _ _ _, by decide +kernel, by decide +kernel, ?_⟩
  ext v
  constructor
  · rintro ⟨e, he, hv, -⟩
    rw [mem_singleton.mp he] at hv
    exact (Option.some.inj hv).symm
  · rintro rfl
    exact ⟨_, mem_singleton_self _, rfl, rfl⟩

end Tarka.Shared.Aggregates
