import Tarka.Json.Text

/-! # Documents

A parsed JSON text is a value in which no object has a key twice. Reading such an object by its
keys gives the same in both engines, although only one of them keeps the order of the text. -/

namespace Tarka.Json

open Tarka.Lib List KeyMap

namespace Value

mutual

def distinctKeys : Value → Bool
  | array items => distinctKeysItems items
  | object entries => decide (entries.map Prod.fst).Nodup && distinctKeysEntries entries
  | _ => true

def distinctKeysItems : List Value → Bool
  | [] => true
  | v :: vs => distinctKeys v && distinctKeysItems vs

def distinctKeysEntries : List (String × Value) → Bool
  | [] => true
  | (_, v) :: es => distinctKeys v && distinctKeysEntries es

end

variable (le : String → String → Bool)

theorem sortedEntries_eq_map (es : List (String × Value)) :
    sortedEntries le es = es.map (fun e => (e.1, e.2.sortedBy le)) := by
  induction es with
  | nil => rfl
  | cons e es ih => rw [sortedEntries, ih, map_cons]

theorem sortedItems_eq_map (vs : List Value) :
    sortedItems le vs = vs.map (sortedBy le) := by
  induction vs with
  | nil => rfl
  | cons v vs ih => rw [sortedItems, ih, map_cons]

def rustEntries (entries : List (String × Value)) : List (String × Value) :=
  sortEntries byteLe (sortedEntries byteLe entries)

variable (entries : List (String × Value))

theorem ofDocument_object :
    (object entries).ofDocument = object (rustEntries entries) := rfl

theorem keys_rustEntries :
    ((rustEntries entries).map Prod.fst).Perm (entries.map Prod.fst) := by
  have hperm : (rustEntries entries).Perm (sortedEntries byteLe entries) :=
    perm_insertionSort _ _
  have hkeys : (sortedEntries byteLe entries).map Prod.fst = entries.map Prod.fst := by
    rw [sortedEntries_eq_map, map_map]
    rfl
  exact hkeys ▸ hperm.map Prod.fst

variable {entries : List (String × Value)}

/-- **Reading by key**: Rust finds under a key what the document has there. -/
theorem lookup_rustEntries (hnd : (entries.map Prod.fst).Nodup) (k : String) :
    (rustEntries entries).lookup k = (entries.lookup k).map ofDocument := by
  have hperm : (rustEntries entries).Perm (sortedEntries byteLe entries) :=
    perm_insertionSort _ _
  have hnd' : ((rustEntries entries).map Prod.fst).Nodup :=
    (keys_rustEntries entries).nodup_iff.mpr hnd
  rw [lookup_eq_of_perm hperm hnd' k, sortedEntries_eq_map]
  exact lookup_map ofDocument k entries

theorem ofDocument_array (items : List Value) :
    (array items).ofDocument = array (items.map ofDocument) := by
  show array (sortedItems byteLe items) = _
  rw [sortedItems_eq_map]
  rfl

theorem filter_rustEntries (hnd : (entries.map Prod.fst).Nodup) (q : String → Bool) :
    (rustEntries entries).filter (fun e => q e.1)
      = rustEntries (entries.filter (fun e => q e.1)) := by
  have hkeys : ((entries.map (fun e => (e.1, e.2.sortedBy byteLe))).map Prod.fst).Nodup := by
    rw [map_map]
    exact hnd
  unfold rustEntries
  rw [sortedEntries_eq_map, sortedEntries_eq_map]
  refine (filter_sortKeys hkeys (fun e => q e.1)).trans ?_
  rw [filter_map]
  rfl

mutual

/-- What was read once is not changed by being put in order again. -/
theorem ofDocument_ofDocument : ∀ v : Value, v.ofDocument.ofDocument = v.ofDocument
  | null => rfl
  | bool _ => rfl
  | number _ => rfl
  | string _ => rfl
  | array items => by
    rw [ofDocument_array, ofDocument_array, map_map]
    exact congrArg array (map_congr_left (ofDocument_of_mem_items items))
  | object entries => by
    -- the values below are in order, and so are the keys
    have hvalues : sortedEntries byteLe (rustEntries entries) = rustEntries entries := by
      rw [sortedEntries_eq_map]
      refine (map_congr_left ?_).trans (map_id _)
      intro e he
      have hmem : e ∈ sortedEntries byteLe entries := (perm_insertionSort _ _).mem_iff.mp he
      rw [sortedEntries_eq_map] at hmem
      obtain ⟨a, ha, rfl⟩ := mem_map.mp hmem
      exact Prod.ext rfl (ofDocument_of_mem_entries entries a ha)
    have hkeys : (rustEntries entries).Pairwise (fun a b => byteLe a.1 b.1) :=
      sortKeys_sorted _
    rw [ofDocument_object, ofDocument_object, rustEntries, hvalues]
    exact congrArg object hkeys.insertionSort_eq

theorem ofDocument_of_mem_items : ∀ (vs : List Value), ∀ v ∈ vs,
    (ofDocument ∘ ofDocument) v = v.ofDocument
  | v :: _, _, .head _ => ofDocument_ofDocument v
  | _ :: vs, v, .tail _ hv => ofDocument_of_mem_items vs v hv

theorem ofDocument_of_mem_entries : ∀ (es : List (String × Value)), ∀ e ∈ es,
    e.2.ofDocument.ofDocument = e.2.ofDocument
  | (_, v) :: _, _, .head _ => ofDocument_ofDocument v
  | _ :: es, e, .tail _ he => ofDocument_of_mem_entries es e he

end

/-! ## Doubles that are read again

A text that Python writes is read by `serde_json`, whose reader of doubles is not exact: it may
return a neighbour of the double that was written. -/

variable (read : FiniteF64 → FiniteF64)

mutual

/-- The value with every double replaced. -/
def mapFloats : Value → Value
  | number (.float x) => number (.float (read x))
  | array items => array (mapFloatsItems items)
  | object entries => object (mapFloatsEntries entries)
  | v => v

def mapFloatsItems : List Value → List Value
  | [] => []
  | v :: vs => mapFloats v :: mapFloatsItems vs

def mapFloatsEntries : List (String × Value) → List (String × Value)
  | [] => []
  | (k, v) :: es => (k, mapFloats v) :: mapFloatsEntries es

end

/-- What Rust reads from the text of a value: the keys in order, the doubles read again. -/
def received (v : Value) : Value := (v.mapFloats read).ofDocument

theorem mapFloatsItems_eq_map (vs : List Value) :
    mapFloatsItems read vs = vs.map (mapFloats read) := by
  induction vs with
  | nil => rfl
  | cons v vs ih => rw [mapFloatsItems, ih, map_cons]

theorem mapFloatsEntries_eq_map (es : List (String × Value)) :
    mapFloatsEntries read es = es.map (fun e => (e.1, e.2.mapFloats read)) := by
  induction es with
  | nil => rfl
  | cons e es ih => rw [mapFloatsEntries, ih, map_cons]

def receivedEntries (es : List (String × Value)) : List (String × Value) :=
  rustEntries (mapFloatsEntries read es)

theorem received_object (es : List (String × Value)) :
    (object es).received read = object (receivedEntries read es) := rfl

theorem received_array (items : List Value) :
    (array items).received read = array (items.map (received read)) := by
  rw [received, mapFloats, mapFloatsItems_eq_map, ofDocument_array, map_map]
  rfl

theorem keys_mapFloatsEntries (es : List (String × Value)) :
    (mapFloatsEntries read es).map Prod.fst = es.map Prod.fst := by
  rw [mapFloatsEntries_eq_map, map_map]
  rfl

theorem keys_receivedEntries (es : List (String × Value)) :
    ((receivedEntries read es).map Prod.fst).Perm (es.map Prod.fst) :=
  keys_mapFloatsEntries read es ▸ keys_rustEntries _

theorem lookup_receivedEntries {es : List (String × Value)} (hnd : (es.map Prod.fst).Nodup)
    (k : String) : (receivedEntries read es).lookup k = (es.lookup k).map (received read) := by
  rw [receivedEntries, lookup_rustEntries (keys_mapFloatsEntries read es ▸ hnd),
    mapFloatsEntries_eq_map, lookup_map, Option.map_map]
  rfl

/-- The doubles of a value come through unchanged. -/
def Survives (v : Value) : Prop := v.mapFloats read = v

theorem Survives.received_eq {read : FiniteF64 → FiniteF64} {v : Value} (h : v.Survives read) :
    v.received read = v.ofDocument := congrArg ofDocument h

theorem distinctKeys_of_mem_items {items : List Value} (h : distinctKeysItems items) {v : Value}
    (hv : v ∈ items) : v.distinctKeys := by
  induction items with
  | nil => cases hv
  | cons w ws ih =>
    rw [distinctKeysItems, Bool.and_eq_true] at h
    rcases mem_cons.mp hv with rfl | hmem
    · exact h.1
    · exact ih h.2 hmem

theorem distinctKeys_of_mem_entries {es : List (String × Value)} (h : distinctKeysEntries es)
    {e : String × Value} (he : e ∈ es) : e.2.distinctKeys := by
  induction es with
  | nil => cases he
  | cons f fs ih =>
    rw [distinctKeysEntries, Bool.and_eq_true] at h
    rcases mem_cons.mp he with rfl | hmem
    · exact h.1
    · exact ih h.2 hmem

theorem distinctKeys_get? {v w : Value} (h : v.distinctKeys) {k : String}
    (hw : v.get? k = some w) : w.distinctKeys := by
  cases v with
  | object es =>
    rw [distinctKeys, Bool.and_eq_true] at h
    exact distinctKeys_of_mem_entries h.2 (mem_entries_of_lookup hw)
  | _ => cases hw

/-- **Reading what was received**: under a key stands what was received from there. -/
theorem get?_received {v : Value} (h : v.distinctKeys) (k : String) :
    (v.received read).get? k = (v.get? k).map (received read) := by
  cases v with
  | object es =>
    rw [distinctKeys, Bool.and_eq_true, decide_eq_true_eq] at h
    exact lookup_receivedEntries read h.1 k
  | number n => cases n <;> rfl
  | _ => rfl

end Value

/-- A parsed JSON text. -/
structure Document where
  value : Value
  distinct : value.distinctKeys = true

end Tarka.Json
