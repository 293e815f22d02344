import Tarka.Replay.Batch

/-! # The payload of a replay

The payload is rebuilt from the flattened input map of the manifest: a nested value comes back under
its dotted path, a string that reads as a number or as JSON comes back as that value, and `null` as
an empty string. A flat object of values that survive this is rebuilt as it was
(`replayPayload_flat`). -/

namespace Tarka.Replay

open Tarka.Lib Tarka.Json Tarka.Engine List KeyMap

def replayPayload (rt : Runtime) (data : Value) : Value :=
  evaluationPayload rt
    ((inputMapFromJson rt data).sortedEntries.map (fun e => (e.1, signalValueToJson e.2)))

def Lasting (rt : Runtime) : Value → Prop
  | .bool _ => True
  | .number n => n.asU64 = none ∨ n.asI64.isSome = true
  | .string s => decodeSignalString rt s = .string s
  | _ => False

/-- An object of lasting values, whose keys are in order and not those of the tool. -/
structure Flat (rt : Runtime) (entries : List (String × Value)) : Prop where
  nonempty : entries ≠ []
  sorted : (entries.map Prod.fst).Pairwise (fun a b => byteLe a b = true)
  nodup : (entries.map Prod.fst).Nodup
  keys : ∀ e ∈ entries, e.1 ≠ "" ∧ "tarka.".toList.isPrefixOf e.1.toList = false
  lasting : ∀ e ∈ entries, Lasting rt e.2

section

variable {rt : Runtime}

theorem numberOfI64_asI64 {n : Number} {i : Int} (h : n.asI64 = some i) : numberOfI64 i = n := by
  cases n with
  | posInt u =>
    rw [Number.asI64] at h
    split_ifs at h with hu
    cases h
    exact congrArg Number.posInt (UInt64.ofNat_toNat)
  | negInt k =>
    cases h
    exact congrArg Number.negInt (Fin.ofNat_val_eq_self k)
  | float x => cases h

theorem decoded_of_lasting {v : Value} (h : Lasting rt v) :
    normalizeSignalValue rt (signalValueToJson (jsonToSignalValue rt v)) = v := by
  cases v with
  | null => cases h
  | bool b => rfl
  | number n =>
    cases hi : n.asI64 with
    | some i => simp [jsonToSignalValue, hi, signalValueToJson, normalizeSignalValue,
        numberOfI64_asI64 hi]
    | none =>
      rcases h with hu | hsome
      · cases n with
        | posInt u => cases hu
        | negInt k => cases hi
        | float x =>
          show normalizeSignalValue rt (valueOfF64 x.val) = _
          rw [valueOfF64, dif_pos x.property]
          rfl
      · rw [hi] at hsome
        cases hsome
  | string s => exact h
  | array items => cases h
  | object entries => cases h

theorem flattenJson_of_lasting {v : Value} (h : Lasting rt v) {key : String} (hkey : key ≠ "")
    (out : KeyMap SignalValue) :
    flattenJson rt key v out = out.insert key (jsonToSignalValue rt v) := by
  have hempty : key.isEmpty = false := by simpa using hkey
  cases v with
  | null => cases h
  | array items => cases h
  | object entries => cases h
  | _ => simp [flattenJson, hempty]

variable {entries : List (String × Value)}

theorem flattenEntries_flat
    (h : ∀ e ∈ entries, e.1 ≠ "" ∧ Lasting rt e.2) (out : KeyMap SignalValue) :
    flattenEntries rt "" entries out
      = (entries.map (fun e => (e.1, jsonToSignalValue rt e.2))).foldl
          (fun m e => m.insert e.1 e.2) out := by
  induction entries generalizing out with
  | nil => rfl
  | cons e entries ih =>
    obtain ⟨⟨hkey, hlasting⟩, hrest⟩ := forall_mem_cons.mp h
    rw [flattenEntries, if_pos (by rfl : "".isEmpty = true), flattenJson_of_lasting hlasting hkey,
      ih hrest]
    rfl

theorem sortedEntries_foldl_insert {V : Type} {es : List (String × V)}
    (hsorted : (es.map Prod.fst).Pairwise (fun a b => byteLe a b)) (hnd : (es.map Prod.fst).Nodup) :
    (es.foldl (fun m e => m.insert e.1 e.2) empty).sortedEntries = es := by
  have hget : ∀ k, (es.foldl (fun m e => m.insert e.1 e.2) empty).get? k = es.lookup k := by
    intro k
    rw [get?_foldl_insert es hnd]
    exact Option.or_none
  have hkeys : sortByBytes (es.foldl (fun m e => m.insert e.1 e.2) empty).keys
      = es.map Prod.fst := by
    rw [← hsorted.insertionSort_eq]
    apply sortByBytes_eq_of_perm
    refine (perm_ext_iff_of_nodup (nodup _) hnd).mpr fun k => ?_
    rw [← KeyMap.keys, mem_keys_iff, mem_map]
    constructor
    · rintro ⟨v, hv⟩
      rw [hget] at hv
      exact ⟨(k, v), mem_entries_of_lookup hv, rfl⟩
    · rintro ⟨⟨k', v⟩, hmem, rfl⟩
      exact ⟨v, (hget _).trans (lookup_of_mem_entries hnd hmem)⟩
  have hread : List.Forall₂ (fun k (e : String × V) => e.1 = k ∧ es.lookup k = some e.2)
      (es.map Prod.fst) es := by
    rw [forall₂_map_left_iff, forall₂_same]
    exact fun e he => ⟨rfl, lookup_of_mem_entries hnd he⟩
  have hsorted := sortedEntries_eq_map (f := id)
    (fun k e he => ⟨he.1, (hget k).trans he.2⟩) (hkeys ▸ hread)
  rw [hsorted, map_id]

/-- **A flat payload is rebuilt.** -/
theorem replayPayload_flat (h : Flat rt entries) :
    replayPayload rt (.object entries) = .object entries := by
  have hflat := flattenEntries_flat (fun e he => ⟨(h.keys e he).1, h.lasting e he⟩) empty
  have hinput : inputMapFromJson rt (.object entries)
      = flattenEntries rt "" entries empty := by
    rw [inputMapFromJson, flattenJson, if_neg]
    simpa using h.nonempty
  have hfst : (entries.map (fun e => (e.1, jsonToSignalValue rt e.2))).map Prod.fst
      = entries.map Prod.fst := by
    rw [map_map]
    rfl
  rw [replayPayload, hinput, hflat, sortedEntries_foldl_insert (hfst ▸ h.sorted) (hfst ▸ h.nodup),
    map_map, evaluationPayload, filter_eq_self.mpr]
  · rw [map_map]
    congr 1
    refine (map_congr_left fun e he => ?_).trans (map_id entries)
    exact Prod.ext rfl (decoded_of_lasting (h.lasting e he))
  · intro e he
    obtain ⟨e', he', rfl⟩ := mem_map.mp he
    exact congrArg Bool.not (h.keys e' he').2

end

end Tarka.Replay
