import Tarka.Evidence.Manifest

/-! # The signal digest (`evidence/hasher.rs`)

`hash_signals` feeds a SHA-256 hasher with a schema tag and then, for every signal in the byte
order of its name, the length-prefixed name, the length-prefixed source and a tagged payload.
A hasher is the bytes it has absorbed; only `finalize` hashes, and only it is logged.

`hashSignals_ok` is the specification: a successful call has hashed the schema followed by the
encodings of the sorted entries, each of which fits its length prefixes. `signalsPreimage_inj` says
that the hashed bytes determine the map. -/

namespace Tarka.Evidence

open Tarka.Lib List

/-! ## Length-prefixed writes

The repository has one such helper per error type; they differ in nothing else. -/

/-- Append a byte string behind its four-byte length, unless the length exceeds `u32::MAX`. -/
def writeLenPrefixedWith {ε : Type} (tooLarge : ε) (buf bytes : Bytes) : Except ε Bytes :=
  if bytes.length < 256 ^ 4 then .ok (buf ++ beBytes 4 bytes.length ++ bytes) else .error tooLarge

variable {out : Bytes}

theorem writeLenPrefixedWith_eq_ok {ε : Type} {tooLarge : ε} {buf bytes : Bytes} :
    writeLenPrefixedWith tooLarge buf bytes = .ok out ↔
      bytes.length < 256 ^ 4 ∧ out = buf ++ lenPrefixed bytes := by
  unfold writeLenPrefixedWith
  split_ifs with h
  · simp only [Except.ok.injEq, h, true_and, lenPrefixed, append_assoc]
    exact eq_comm
  · constructor
    · intro he; cases he
    · rintro ⟨hlt, -⟩; exact absurd hlt h

/-! ## The source -/

/-- Failures while canonicalizing signals. -/
inductive SignalHashError where
  | unsetPayload (field : String)
  | tooLarge
  | keyInvariant
  deriving DecidableEq

def inputStateSchema : Bytes :=
  utf8 "tarka.evidence.wire.v1/DeterministicSignalHasher/input_state\x01"

def writeLenPrefixedToDigest : Bytes → Bytes → Except SignalHashError Bytes :=
  writeLenPrefixedWith .tooLarge

def updateHasherWithEntry (hasher : Bytes) (fieldName : String) (sv : SignalValue) :
    Except SignalHashError Bytes := do
  let hasher ← writeLenPrefixedToDigest hasher (utf8 fieldName)
  let hasher ← writeLenPrefixedToDigest hasher (utf8 sv.source)
  match sv.value with
  | none => .error (.unsetPayload fieldName)
  | some (.strVal s) => writeLenPrefixedToDigest (hasher ++ [1]) (utf8 s)
  | some (.numVal n) => .ok (hasher ++ [2] ++ beBytes 8 n.bits.toNat)
  | some (.boolVal b) => .ok (hasher ++ [3] ++ [if b then 1 else 0])
  | some (.rawBytes b) => writeLenPrefixedToDigest (hasher ++ [4]) b

def hashSignalsStep (signals : KeyMap SignalValue) (hasher : Bytes) (key : String) :
    Except SignalHashError Bytes :=
  match signals.get? key with
  | none => .error .keyInvariant
  | some sv => updateHasherWithEntry hasher key sv

def hashSignals (sha256 : Bytes → Digest) (signals : KeyMap SignalValue) :
    HashRun Bytes SignalHashError Bytes := do
  let keys := sortByBytes signals.keys
  let hasher ← liftM (keys.foldlM (hashSignalsStep signals) inputStateSchema)
  let digest ← HashRun.query sha256 hasher
  return digest.val

/-! ## What an entry contributes -/

def encValue : Value → Bytes
  | .strVal s => 1 :: lenPrefixed (utf8 s)
  | .numVal n => 2 :: beBytes 8 n.bits.toNat
  | .boolVal b => [3, if b then 1 else 0]
  | .rawBytes b => 4 :: lenPrefixed b

def ValueFits : Value → Prop
  | .strVal s => (utf8 s).length < 256 ^ 4
  | .numVal _ => True
  | .boolVal _ => True
  | .rawBytes b => b.length < 256 ^ 4

theorem selfDelimiting_encValue : SelfDelimiting ValueFits encValue := by
  intro a b ha hb r s h
  cases a with
  | strVal x =>
    cases b with
    | strVal y =>
      simp only [encValue, cons_append, cons.injEq, true_and] at h
      obtain ⟨hxy, hrs⟩ := selfDelimiting_lenPrefixed _ _ ha hb _ _ h
      exact ⟨by rw [utf8_injective hxy], hrs⟩
    | numVal _ | boolVal _ | rawBytes _ => simp [encValue] at h
  | numVal x =>
    cases b with
    | numVal y =>
      simp only [encValue, cons_append, cons.injEq, true_and] at h
      have hx : x.bits.toNat < 256 ^ 8 := x.bits.toNat_lt
      have hy : y.bits.toNat < 256 ^ 8 := y.bits.toNat_lt
      obtain ⟨hxy, hrs⟩ := selfDelimiting_beBytes 8 _ _ hx hy _ _ h
      have hbits : x = y := by
        rcases x with ⟨x⟩
        rcases y with ⟨y⟩
        exact congrArg F64.mk (UInt64.toNat_inj.mp hxy)
      exact ⟨by rw [hbits], hrs⟩
    | strVal _ | boolVal _ | rawBytes _ => simp [encValue] at h
  | boolVal x =>
    cases b with
    | boolVal y => cases x <;> cases y <;> simp_all [encValue]
    | strVal _ | numVal _ | rawBytes _ => simp [encValue] at h
  | rawBytes x =>
    cases b with
    | rawBytes y =>
      simp only [encValue, cons_append, cons.injEq, true_and] at h
      obtain ⟨rfl, hrs⟩ := selfDelimiting_lenPrefixed _ _ ha hb _ _ h
      exact ⟨rfl, hrs⟩
    | strVal _ | numVal _ | boolVal _ => simp [encValue] at h

abbrev SignalEntry := String × String × Value

def encEntry (e : SignalEntry) : Bytes :=
  lenPrefixed (utf8 e.1) ++ (lenPrefixed (utf8 e.2.1) ++ encValue e.2.2)

def EntryFits (e : SignalEntry) : Prop :=
  (utf8 e.1).length < 256 ^ 4 ∧ (utf8 e.2.1).length < 256 ^ 4 ∧ ValueFits e.2.2

theorem selfDelimiting_lenPrefixed_utf8 :
    SelfDelimiting (fun s : String => (utf8 s).length < 256 ^ 4) (fun s => lenPrefixed (utf8 s)) :=
  selfDelimiting_lenPrefixed.comap utf8_injective

theorem selfDelimiting_encEntry : SelfDelimiting EntryFits encEntry :=
  selfDelimiting_lenPrefixed_utf8.append
    (selfDelimiting_lenPrefixed_utf8.append selfDelimiting_encValue)

theorem encEntry_ne_nil (e : SignalEntry) : encEntry e ≠ [] := by
  intro h
  have := congrArg length h
  simp only [encEntry, length_append, length_lenPrefixed, length_nil] at this
  omega

/-! ## Specification -/

variable {hasher : Bytes}

theorem updateHasherWithEntry_ok {name : String} {sv : SignalValue}
    (h : updateHasherWithEntry hasher name sv = .ok out) :
    ∃ v, sv.value = some v ∧ EntryFits (name, sv.source, v)
      ∧ out = hasher ++ encEntry (name, sv.source, v) := by
  obtain ⟨h₁, hw₁, h⟩ := except_bind_eq_ok.mp h
  obtain ⟨h₂, hw₂, h⟩ := except_bind_eq_ok.mp h
  obtain ⟨hname, rfl⟩ := writeLenPrefixedWith_eq_ok.mp hw₁
  obtain ⟨hsource, rfl⟩ := writeLenPrefixedWith_eq_ok.mp hw₂
  cases hv : sv.value with
  | none => rw [hv] at h; cases h
  | some v =>
    rw [hv] at h
    refine ⟨v, rfl, ?_⟩
    cases v with
    | strVal s =>
      obtain ⟨hs, rfl⟩ := writeLenPrefixedWith_eq_ok.mp h
      exact ⟨⟨hname, hsource, hs⟩, by simp [encEntry, encValue]⟩
    | numVal n =>
      cases h
      exact ⟨⟨hname, hsource, trivial⟩, by simp [encEntry, encValue]⟩
    | boolVal b =>
      cases h
      exact ⟨⟨hname, hsource, trivial⟩, by simp [encEntry, encValue]⟩
    | rawBytes b =>
      obtain ⟨hb, rfl⟩ := writeLenPrefixedWith_eq_ok.mp h
      exact ⟨⟨hname, hsource, hb⟩, by simp [encEntry, encValue]⟩

/-- `e` is the entry of `key` in the map, complete and within its length prefixes. -/
def EntryOf (signals : KeyMap SignalValue) (key : String) (e : SignalEntry) : Prop :=
  e.1 = key ∧ signals.get? key = some ⟨some e.2.2, e.2.1⟩ ∧ EntryFits e

variable {signals : KeyMap SignalValue}

theorem hashSignalsStep_ok {key : String}
    (h : hashSignalsStep signals hasher key = .ok out) :
    ∃ e, EntryOf signals key e ∧ out = hasher ++ encEntry e := by
  unfold hashSignalsStep at h
  cases hsv : signals.get? key with
  | none => rw [hsv] at h; cases h
  | some sv =>
    rw [hsv] at h
    obtain ⟨v, hv, hfits, hout⟩ := updateHasherWithEntry_ok h
    refine ⟨(key, sv.source, v), ⟨rfl, ?_, hfits⟩, hout⟩
    rw [hsv, ← hv]

def signalsPreimage (es : List SignalEntry) : Bytes := inputStateSchema ++ es.flatMap encEntry

/-- **Specification of `hash_signals`.** A successful call hashed the entries of the sorted
keys, and nothing else. -/
theorem hashSignals_ok {sha256 : Bytes → Digest} {log : List Bytes}
    (h : hashSignals sha256 signals = ⟨.ok out, log⟩) :
    ∃ es, Forall₂ (EntryOf signals) (sortByBytes signals.keys) es
      ∧ out = (sha256 (signalsPreimage es)).val ∧ log = [signalsPreimage es] := by
  obtain ⟨hasher, l₁, l₂, hrun, hfin, hlog⟩ := HashRun.bind_eq_ok.mp h
  obtain ⟨hfold, hl₁⟩ := HashRun.lift_eq_ok.mp hrun
  have hstep : ∀ acc key mid, hashSignalsStep signals acc key = .ok mid →
      ∃ e, EntryOf signals key e ∧ mid = acc ++ encEntry e := fun _ _ _ => hashSignalsStep_ok
  obtain ⟨es, hes, hhasher⟩ := foldlM_append_ok hstep _ _ _ hfold
  have hpre : hasher = signalsPreimage es := hhasher
  simp only [HashRun.query, HashRun.pure_eq, HashRun.ok_bind, HashRun.mk.injEq,
    Except.ok.injEq, append_nil] at hfin
  refine ⟨es, hes, ?_, ?_⟩
  · rw [← hfin.1, hpre]
  · rw [hlog, hl₁, ← hfin.2, hpre, nil_append]

/-- **The digest is a function of the map.** Two maps that answer every lookup alike hash the
same bytes to the same end, in whatever order their entries are stored. -/
theorem sortedEntries_eq_of_entries {es : List SignalEntry}
    (h : Forall₂ (EntryOf signals) (sortByBytes signals.keys) es) :
    signals.sortedEntries = es.map (fun e => (e.1, ⟨some e.2.2, e.2.1⟩)) :=
  KeyMap.sortedEntries_eq_map (fun _ _ he => ⟨he.1, he.2.1⟩) h

/-- **The hashed bytes determine the signal map.** -/
theorem signalsPreimage_inj {s₁ s₂ : KeyMap SignalValue} {es₁ es₂ : List SignalEntry}
    (h₁ : Forall₂ (EntryOf s₁) (sortByBytes s₁.keys) es₁)
    (h₂ : Forall₂ (EntryOf s₂) (sortByBytes s₂.keys) es₂)
    (h : signalsPreimage es₁ = signalsPreimage es₂) (k : String) : s₁.get? k = s₂.get? k := by
  have fits₁ : ∀ e ∈ es₁, EntryFits e := forall_mem_of_forall₂ (fun _ _ he => he.2.2) h₁
  have fits₂ : ∀ e ∈ es₂, EntryFits e := forall_mem_of_forall₂ (fun _ _ he => he.2.2) h₂
  have hes : es₁ = es₂ :=
    selfDelimiting_encEntry.flatMap_inj (fun e _ => encEntry_ne_nil e) es₁ es₂ fits₁ fits₂
      (append_cancel_left h)
  apply KeyMap.get?_eq_of_sortedEntries_eq
  rw [sortedEntries_eq_of_entries h₁, sortedEntries_eq_of_entries h₂, hes]

end Tarka.Evidence
