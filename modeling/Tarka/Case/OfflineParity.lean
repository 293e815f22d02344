import Tarka.Case.EvidenceBundle
import Tarka.Case.OfflineVerify

/-! # Exported bundles under the offline verifier

The service hashes and signs the texts that Python prints, the verifier those that Rust prints after
it has read the response. The two languages do not print every document alike.
`exported_verified_iff` says which exports are reported as valid: those whose strings are plain,
whose numbers are portable and whose changes are nested at most 124 deep. -/

namespace Tarka.Case.OfflineVerify

open Tarka.Lib Tarka.Json List PyNumber PyJson

section

variable (env : Env) (s : Serde)

def crates : Crates := ⟨s, env.sha256, env.hmacSha256⟩

def received (d : PyJson) : Value :=
  d.received (readNumber s (PyNumber.numeral env.text.reprFloat))

def receivedEntries (es : List (String × PyJson)) : List (String × Value) :=
  PyJson.receivedEntries (readNumber s (PyNumber.numeral env.text.reprFloat)) es

/-- Both languages print the strings and the numbers of a document alike. -/
def Portable (d : PyJson) : Prop :=
  d.All (fun t => plainText t = true) (fun n => n.portable s env.text.reprFloat = true)

/-! ## One document -/

section

variable {env s} (hs : s.Lawful) (hrepr : Spells env.text.reprFloat)

include hs hrepr

theorem canonicalJson_received_iff (d : PyJson) :
    d.All (fun _ => True) (Readable s (numeral env.text.reprFloat))
        ∧ Case.canonicalJson env d = canonicalJson (crates env s) (received env s d)
      ↔ Portable env s d := by
  rw [Portable, ← texts_eq_iff hs hrepr, canonicalJson, received, crates, text_received,
    Case.canonicalJson, String.ofList_inj]

theorem canonicalJson_received {d : PyJson} (h : Portable env s d) :
    canonicalJson (crates env s) (received env s d) = Case.canonicalJson env d :=
  ((canonicalJson_received_iff hs hrepr d).mpr h).2.symm

theorem foldRecords_received {items : List PyJson} (h : ∀ d ∈ items, Portable env s d) :
    foldRecords (crates env s) (items.map (received env s)) = hashChain env items := by
  rw [foldRecords, foldl_map]
  refine foldl_ext _ _ _ ?_
  intro current d hd
  rw [canonicalJson_received hs hrepr (h d hd)]
  rfl

end

/-! ## The report on an export -/

section

variable (tenantId exportedAt : String) (recs : List AuditRecord)

def hashed : PyJson := .object (unsealedBundle tenantId exportedAt recs)

def signed : PyJson := .object (sealedBundle env tenantId exportedAt recs)

def exportedEntries : List (String × PyJson) :=
  unsealedBundle tenantId exportedAt recs
    ++ [("integrity", .object (integrity env recs
          (bundleHash env (hashed tenantId exportedAt recs)))),
      ("signature", .string (bundleSignature env
        (signed env tenantId exportedAt recs)))]

theorem caseControlEvidence_eq_exportedEntries (rows : List AuditRecord) (limit : Int) :
    caseControlEvidence env tenantId exportedAt rows limit
      = exportedEntries env tenantId exportedAt (rows.take (clampLimit limit)) := by
  simp [caseControlEvidence, sealedBundle,
    unsealedBundle, exportedEntries, signed, hashed, Dict.set]

theorem nodup_exportedEntries :
    ((exportedEntries env tenantId exportedAt recs).map Prod.fst).Nodup :=
  (by decide : ["tenant_id", "exported_at", "controls", "summary", "evidence", "integrity",
    "signature"].Nodup)

theorem erase_signature :
    Dict.erase (exportedEntries env tenantId exportedAt recs) "signature"
      = sealedBundle env tenantId exportedAt recs := by
  simp [exportedEntries, sealedBundle, unsealedBundle, Dict.set,
    Dict.erase, hashed]

/-- **What the verifier reports on an export**, with the documents as it holds them. -/
theorem verifyBundle_exported (key : String) :
    verifyBundle (crates env s)
        (received env s (.object (exportedEntries env tenantId exportedAt recs))) (some key)
      = .ok {
          bundleHashOk := sha256Hex (crates env s) (utf8 (canonicalJson (crates env s)
              (received env s (hashed tenantId exportedAt recs))))
            == bundleHash env (hashed tenantId exportedAt recs)
          hashChainOk := foldRecords (crates env s)
            ((recs.map AuditRecord.item).map (received env s))
            == hashChain env (recs.map AuditRecord.item)
          signatureOk := hmacSha256Hex (crates env s) (utf8 key) (utf8 (canonicalJson (crates env s)
              (received env s (signed env tenantId exportedAt recs))))
            == bundleSignature env (signed env tenantId exportedAt recs)
          keyIdOk := signingKeyId env == keyIdFor (crates env s) key
          keyId := signingKeyId env
          records := recs.length } := by
  have hnd := nodup_exportedEntries env tenantId exportedAt recs
  let entries := exportedEntries env tenantId exportedAt recs
  let block := integrity env recs
    (bundleHash env (hashed tenantId exportedAt recs))
  -- the entries of the bundle and of its integrity block as the verifier holds them
  have hentry : ∀ k, (receivedEntries env s entries).lookup k
      = (entries.lookup k).map (received env s) := lookup_receivedEntries _ hnd
  have hblock : ∀ k, (receivedEntries env s block).lookup k
      = (block.lookup k).map (received env s) :=
    lookup_receivedEntries _
      (by decide : ["algorithm", "key_id", "bundle_hash", "hash_chain"].Nodup)
  have hintegrity : (receivedEntries env s entries).lookup "integrity"
      = some (.object (receivedEntries env s block)) := hentry "integrity"
  have hrecords : (receivedEntries env s entries).lookup "evidence"
      = some (.array ((recs.map AuditRecord.item).map (received env s))) :=
    (hentry "evidence").trans (congrArg some (received_array _ _))
  have hhashed : Dict.erase (Dict.erase (receivedEntries env s entries) "integrity") "signature"
      = receivedEntries env s (unsealedBundle tenantId exportedAt recs) := by
    rw [receivedEntries, erase_receivedEntries _ hnd,
      erase_receivedEntries _ (Dict.Proper.erase hnd _)]
    rfl
  have hsigned : Dict.erase (receivedEntries env s entries) "signature"
      = receivedEntries env s (sealedBundle env tenantId exportedAt recs) := by
    rw [receivedEntries, erase_receivedEntries _ hnd]
    rfl
  have hreport := verifyBundle_eq (crates env s) hintegrity (hblock "bundle_hash")
    (hblock "hash_chain") (hentry "signature") (some key)
  rw [hrecords, hhashed, hsigned, hblock "records", hblock "key_id"] at hreport
  have hlength : ((recs.map AuditRecord.item).map (received env s)).length = recs.length := by
    rw [length_map, length_map]
  rw [← hlength]
  exact hreport

end

/-! ## Which exports are portable -/

/-- Both languages print a record alike, and the verifier reads it. -/
structure PortableRecord (r : AuditRecord) : Prop where
  id : plainText r.id = true
  actor : plainText r.actor = true
  action : plainText r.action = true
  resourceType : plainText r.resourceType = true
  resourceId : plainText r.resourceId = true
  createdAt : r.createdAt.all plainText = true
  changes : Portable env s r.changes
  depth : r.changes.depth ≤ 124

section

variable (tenantId exportedAt : String) (recs : List AuditRecord)

theorem portable_item_iff (r : AuditRecord) :
    Portable env s r.item ↔ plainText r.id ∧ plainText r.actor
      ∧ plainText r.action ∧ plainText r.resourceType
      ∧ plainText r.resourceId ∧ Portable env s r.changes
      ∧ r.createdAt.all plainText = true := by
  have hkeys : plainText "id" ∧ plainText "actor" ∧ plainText "action"
      ∧ plainText "resource_type" ∧ plainText "resource_id"
      ∧ plainText "changes" ∧ plainText "created_at" := by decide +kernel
  have htime : Portable env s (r.createdAt.elim .null .string)
      ↔ r.createdAt.all plainText := by
    cases r.createdAt with
    | none => exact iff_of_true trivial rfl
    | some t => exact Iff.rfl
  unfold Portable at htime
  simp only [Portable, AuditRecord.item, PyJson.All, PyJson.AllEntries, hkeys, true_and, htime,
    and_true]

theorem portable_count {n : Nat} (hn : n ≤ 2000) :
    portable s env.text.reprFloat (.int n) = true := by
  rw [portable, decide_eq_true_eq]
  omega

/-- **The hashed document** is portable when the tenant, the time and the records are. -/
theorem portable_hashed_iff (hlength : recs.length ≤ 2000) :
    Portable env s (hashed tenantId exportedAt recs)
      ↔ plainText tenantId ∧ plainText exportedAt
        ∧ ∀ r ∈ recs, Portable env s r.item := by
  have hkeys : plainText "tenant_id" ∧ plainText "exported_at"
      ∧ plainText "controls" ∧ plainText "summary" ∧ plainText "evidence"
      ∧ plainText "events_sampled" ∧ plainText "action_distribution"
      ∧ plainText "id" ∧ plainText "name" ∧ plainText "status" := by
    decide +kernel
  have htexts : plainText "SOC2-CC8.1" ∧ plainText "Case Change Audit Trail"
      ∧ plainText "implemented" ∧ plainText "SOC2-CC7.3"
      ∧ plainText "Workflow-driven Response" := by
    decide +kernel
  have hitems : PyJson.AllItems (fun t => plainText t)
        (fun n => n.portable s env.text.reprFloat) (recs.map AuditRecord.item)
      ↔ ∀ r ∈ recs, Portable env s r.item := by
    rw [allItems_iff, forall_mem_map]
    rfl
  -- what is counted are the actions of the records, at most 2000 times
  have hcounts : (∀ r ∈ recs, Portable env s r.item) →
      PyJson.AllEntries (fun t => plainText t)
        (fun n => n.portable s env.text.reprFloat)
        ((byAction recs).map (fun e => (e.1, ofCount e.2))) := by
    intro hrecs
    rw [allEntries_iff, forall_mem_map]
    intro e he
    obtain ⟨⟨r, hr, haction⟩, hle⟩ := mem_byAction he
    refine ⟨?_, portable_count env s (le_trans hle hlength)⟩
    rw [← haction]
    exact ((portable_item_iff env s r).mp (hrecs r hr)).2.2.1
  simp only [Portable, hashed, unsealedBundle, PyJson.All, PyJson.AllEntries,
    PyJson.AllItems, hkeys, htexts, hitems, true_and, and_true, ofCount,
    portable_count env s hlength]
  constructor
  · rintro ⟨htenant, htime, -, hrecs⟩
    exact ⟨htenant, htime, hrecs⟩
  · rintro ⟨htenant, htime, hrecs⟩
    exact ⟨htenant, htime, hcounts hrecs, hrecs⟩

theorem plainText_hexText (b : Bytes) : plainText (hexText b) = true := by
  rw [plainText, all_eq_true]
  exact fun c hc => decide_eq_true (hexText_ascii hc).2

theorem plainText_signingKeyId : plainText (signingKeyId env) = true := by
  have hhash : plainText (Case.sha256Hex env (signingSecret env)) := plainText_hexText _
  rw [plainText, all_eq_true] at hhash ⊢
  rw [signingKeyId, String.toList_ofList]
  exact fun c hc => hhash c (mem_of_mem_take hc)

theorem plainText_hashChain (items : List PyJson) :
    plainText (hashChain env items) = true := by
  apply List.foldlRecOn items _ (motive := fun t => plainText t = true)
  · decide
  · intro _ _ _ _
    exact plainText_hexText _

theorem portable_block (hash : String) (hhash : plainText hash) :
    Portable env s (.object (integrity env recs hash)) := by
  have hkeys : plainText "algorithm" ∧ plainText "key_id"
      ∧ plainText "bundle_hash" ∧ plainText "hash_chain"
      ∧ plainText "sha256+hmac-sha256" := by decide +kernel
  simp only [Portable, integrity, PyJson.All, PyJson.AllEntries, hkeys, hhash,
    plainText_signingKeyId, plainText_hashChain, and_true]

section

variable (h : Portable env s (hashed tenantId exportedAt recs))

include h

theorem portable_exported :
    Portable env s (.object (exportedEntries env tenantId exportedAt recs)) := by
  have hkeys : plainText "integrity" ∧ plainText "signature" := by decide +kernel
  unfold Portable hashed at h
  unfold Portable
  rw [PyJson.All, allEntries_iff] at h ⊢
  intro e he
  rcases mem_append.mp he with hunsealed | hlast
  · exact h e hunsealed
  · rcases mem_pair.mp hlast with rfl | rfl
    · exact ⟨hkeys.1, portable_block env s recs _ (plainText_hexText _)⟩
    · exact ⟨hkeys.2, plainText_hexText _⟩

theorem portable_signed :
    Portable env s (signed env tenantId exportedAt recs) := by
  have hexported := portable_exported env s tenantId exportedAt recs h
  unfold Portable at hexported
  unfold Portable signed
  rw [PyJson.All, allEntries_iff] at hexported ⊢
  intro e he
  rw [← erase_signature] at he
  exact hexported e (mem_of_mem_filter he)

end

/-! ## Reading an export -/

theorem distinct_item (r : AuditRecord) : r.item.Distinct := by
  have htime : (r.createdAt.elim null .string).Distinct := by
    cases r.createdAt <;> trivial
  exact ⟨(by decide : ["id", "actor", "action", "resource_type", "resource_id", "changes",
    "created_at"].Nodup), trivial, trivial, trivial, trivial, trivial, r.distinct, htime, trivial⟩

theorem distinct_exported :
    (object (exportedEntries env tenantId exportedAt recs)).Distinct := by
  have hcontrol : ["id", "name", "status"].Nodup := by decide
  have hactions : (object ((byAction recs).map
      (fun e => (e.1, ofCount e.2)))).Distinct := by
    constructor
    · rw [map_map]
      exact proper_byAction recs
    · rw [distinctEntries_iff, forall_mem_map]
      exact fun _ _ => trivial
  have hitems : PyJson.DistinctItems (recs.map AuditRecord.item) := by
    rw [distinctItems_iff, forall_mem_map]
    exact fun r _ => distinct_item r
  refine ⟨nodup_exportedEntries env tenantId exportedAt recs, trivial, trivial, ?_, ?_, hitems, ?_,
    trivial, trivial⟩
  · exact ⟨⟨hcontrol, trivial, trivial, trivial, trivial⟩, ⟨hcontrol, trivial, trivial, trivial,
      trivial⟩, trivial⟩
  · exact ⟨(by decide : ["events_sampled", "action_distribution"].Nodup), trivial, hactions,
      trivial⟩
  · exact ⟨(by decide : ["algorithm", "key_id", "bundle_hash", "hash_chain"].Nodup), trivial,
      trivial, trivial, trivial, trivial⟩

theorem depth_item (r : AuditRecord) : r.item.depth = r.changes.depth + 1 := by
  have htime : (r.createdAt.elim null .string).depth = 0 := by
    cases r.createdAt <;> rfl
  simp [AuditRecord.item, depth, depthEntries, htime]

theorem depth_exported_lt_iff :
    (object (exportedEntries env tenantId exportedAt recs)).depth < recursionLimit
      ↔ ∀ r ∈ recs, r.changes.depth ≤ 124 := by
  have hactions : depthEntries ((byAction recs).map
      (fun e => (e.1, ofCount e.2))) = 0 := by
    rw [← Nat.le_zero, depthEntries_le, forall_mem_map]
    exact fun _ _ => le_refl 0
  have hitems : depthItems (recs.map AuditRecord.item) ≤ 125
      ↔ ∀ r ∈ recs, r.changes.depth ≤ 124 := by
    rw [depthItems_le, forall_mem_map]
    simp only [depth_item, Nat.succ_le_succ_iff]
  have hcount : ∀ n, (ofCount n).depth = 0 := fun _ => rfl
  have hdepth : (object (exportedEntries env tenantId exportedAt recs)).depth
      = max 3 (depthItems (recs.map AuditRecord.item) + 2) := by
    simp only [exportedEntries, unsealedBundle, integrity,
      cons_append, nil_append, depth, depthEntries, depthItems,
      hcount, hactions]
    omega
  rw [recursionLimit, ← hitems]
  omega

/-! ## The report -/

section

variable {env s} (hs : s.Lawful) (hrepr : Spells env.text.reprFloat)

include hs hrepr

theorem verifyBundle_of_portable (h : Portable env s (hashed tenantId exportedAt recs))
    (hitems : ∀ r ∈ recs, Portable env s r.item) :
    verifyBundle (crates env s)
        (received env s (.object (exportedEntries env tenantId exportedAt recs)))
        (some (signingSecret env))
      = .ok ⟨true, true, true, true, signingKeyId env, recs.length⟩ := by
  have hrecords : ∀ d ∈ recs.map AuditRecord.item, Portable env s d := forall_mem_map.mpr hitems
  have hsigned := portable_signed env s tenantId exportedAt recs h
  have hhash : ∀ t, sha256Hex (crates env s) (utf8 t) = Case.sha256Hex env t := fun _ => rfl
  have hhmac : ∀ t, hmacSha256Hex (crates env s) (utf8 (signingSecret env)) (utf8 t)
      = hexText (env.hmacSha256 (utf8 (signingSecret env)) (utf8 t)).val := fun _ => rfl
  have hkeyId : keyIdFor (crates env s) (signingSecret env) = signingKeyId env := rfl
  rw [verifyBundle_exported, canonicalJson_received hs hrepr h,
    canonicalJson_received hs hrepr hsigned, foldRecords_received hs hrepr hrecords, hhash, hhmac,
    hkeyId, bundleHash,
    bundleSignature]
  simp only [beq_self_eq_true]

end

theorem readable_hashed {Q : PyNumber → Prop}
    (h : (object (exportedEntries env tenantId exportedAt recs)).All (fun _ => True) Q) :
    (hashed tenantId exportedAt recs).All (fun _ => True) Q := by
  rw [hashed]
  rw [PyJson.All, allEntries_iff] at h ⊢
  exact fun e he => h e (mem_append_left _ he)

def rehashed : String :=
  canonicalJson (crates env s) (received env s (hashed tenantId exportedAt recs))

theorem sha256_eq_of_ok {key : String} {r : VerifyReport}
    (h : verifyBundle (crates env s)
        (received env s (.object (exportedEntries env tenantId exportedAt recs)))
        (some key) = .ok r)
    (hok : r.ok) :
    env.sha256 (utf8 (Case.canonicalJson env (hashed tenantId exportedAt recs)))
      = env.sha256 (utf8 (rehashed env s tenantId exportedAt recs)) := by
  rw [verifyBundle_exported] at h
  cases h
  simp only [VerifyReport.ok, Bool.and_eq_true, beq_iff_eq] at hok
  exact Subtype.ext (hexText_inj hok.1.1.1.symm)

end

end

namespace Sample

def half : F64 := ⟨0x3FE0000000000000⟩

def floatText (x : F64) : String :=
  if x = half then "0.5" else String.ofList ('9' :: '.' :: Nat.toDigits 10 x.bits.toNat)

def serde : Serde where
  floatText := floatText
  parseFloat := fun n => if n.int = ['0'] ∧ n.frac = ['5'] then some ⟨half, by decide⟩ else none
  error := fun _ => "expected value"

theorem spells_floatText : Spells floatText := by
  intro x
  have hpoint : ∀ d fs, d.isDigit → (∀ c ∈ fs, c.isDigit) → fs ≠ [] →
      ∃ n : Numeral, n.isInteger = false ∧ ∀ r, Delimited r →
        readNumeral ((d :: '.' :: fs) ++ r) = some (n, r) := by
    intro d fs hd hfs hne
    refine ⟨⟨false, [d], fs, none⟩, by simp [Numeral.isInteger, hne], fun r hr => ?_⟩
    have hds : ∀ c ∈ [d], c.isDigit := by simpa using hd
    exact readNumeral_point hds (by simp) (by simp) hfs hne hr
  by_cases hx : x.val = half
  · rw [floatText, if_pos hx]
    exact hpoint '0' ['5'] (by decide) (by decide) (by decide)
  · rw [floatText, if_neg hx, String.toList_ofList]
    exact hpoint '9' _ (by decide) (fun c hc => isDigit_of_mem_toDigits hc) Nat.toDigits_ne_nil

theorem length_secretDigest :
    ([164, 225, 146, 239, 22, 110, 215, 182, 154, 162, 106, 209, 19, 237, 76, 3, 2, 29, 6, 185, 159,
      92, 99, 253, 198, 114, 252, 145, 56, 76, 239, 166] : Bytes).length = 32 := rfl

/-- SHA-256 of the secret, of the hashed texts of the bundle below and of the texts of its
record. -/
def sha256 (b : Bytes) : Digest :=
  if b.length = 25 then ⟨_, length_secretDigest⟩
  else if b.length = 428 then ⟨[186, 194, 227, 187, 139, 25, 93, 187, 151, 105, 125, 92, 254, 154,
    150, 235, 45, 0, 172, 173, 48, 148, 210, 99, 59, 202, 118, 27, 10, 169, 171, 32], rfl⟩
  else if b.length = 424 then ⟨[97, 217, 42, 12, 198, 214, 12, 233, 124, 216, 120, 71, 163, 55, 94,
    62, 197, 36, 162, 53, 73, 119, 36, 102, 249, 61, 154, 35, 96, 45, 54, 107], rfl⟩
  else if b.length = 121 then ⟨[48, 140, 233, 27, 24, 182, 50, 164, 83, 98, 179, 233, 85, 128, 254,
    22, 254, 73, 58, 113, 22, 68, 160, 221, 9, 36, 109, 52, 100, 247, 39, 186], rfl⟩
  else ⟨[136, 222, 103, 225, 104, 15, 162, 9, 145, 117, 126, 164, 188, 157, 29, 225, 174, 212, 17,
    122, 12, 196, 230, 59, 81, 3, 245, 93, 112, 28, 85, 238], rfl⟩

def hmacSha256 (_ message : Bytes) : Digest :=
  if message.length = 660 then ⟨[47, 181, 120, 189, 101, 121, 219, 51, 234, 13, 248, 218, 94, 114,
    177, 173, 253, 190, 33, 174, 189, 225, 235, 14, 155, 98, 41, 5, 175, 48, 248, 139], rfl⟩
  else ⟨[66, 94, 199, 145, 250, 76, 40, 74, 73, 186, 129, 125, 217, 214, 226, 100, 179, 245, 27,
    162, 42, 77, 180, 213, 136, 63, 83, 95, 253, 55, 248, 163], rfl⟩

def env : Env := ⟨⟨floatText, fun s => s⟩, sha256, hmacSha256, ""⟩

theorem serde_lawful : serde.Lawful := ⟨spells_floatText⟩

theorem spells_repr : Spells env.text.reprFloat := spells_floatText

def record (actor : String) (changes : PyJson) (h : changes.Distinct) : AuditRecord :=
  ⟨"1", actor, "create", "case", "c1", changes, h, none⟩

def accented : List AuditRecord := [record (String.singleton 'é') .null trivial]

def halved : List AuditRecord :=
  [record "ana" (.object [("amount", .number (.float ⟨half, by decide⟩))])
    ⟨by decide, trivial, trivial⟩]

theorem readable_accented :
    (object (exportedEntries env "acme" "2026-01-01T00:00:00+00:00" accented)).All
      (fun _ => True) (Readable serde (numeral env.text.reprFloat)) := by
  have hactions : byAction accented = [("create", 1)] := by decide
  have hone : Readable serde (numeral env.text.reprFloat) (.int (1 : Nat)) := rfl
  have hlength : accented.length = 1 := rfl
  rw [exportedEntries, unsealedBundle, hactions, hlength]
  simp only [integrity, ofCount, hone, accented, record, AuditRecord.item,
    map_cons, map_nil, cons_append, nil_append, Option.elim_none, PyJson.All, PyJson.AllItems,
    PyJson.AllEntries, and_true]

theorem portable_halved : ∀ r ∈ halved.take (clampLimit 200), PortableRecord env serde r := by
  intro r hr
  obtain rfl : r = _ := mem_singleton.mp hr
  refine ⟨by decide, by decide, by decide, by decide, by decide, rfl, ?_, by decide⟩
  have hhalf : portable serde floatText (.float ⟨half, by decide⟩) := by
    decide +kernel
  exact ⟨by decide, hhalf, trivial⟩

end Sample

open Sample

/-- **Which exports the offline verifier reports as valid**: those that both languages print alike.
The two texts that are hashed must not collide. -/
theorem exported_verified_iff (env : Env) (s : Serde) (hs : s.Lawful)
    (hrepr : Spells env.text.reprFloat) (tenantId exportedAt : String) (rows : List AuditRecord)
    (limit : Int)
    (hcollision : let recs := rows.take (clampLimit limit)
      let exported := Case.canonicalJson env (hashed tenantId exportedAt recs)
      let checked := rehashed env s tenantId exportedAt recs
      env.sha256 (utf8 exported) = env.sha256 (utf8 checked) → exported = checked) :
    (∃ r, verifyText (crates env s)
          (responseText env tenantId exportedAt rows limit)
          (some (signingSecret env)) = .ok r ∧ r.ok = true)
      ↔ plainText tenantId = true ∧ plainText exportedAt = true
        ∧ ∀ r ∈ rows.take (clampLimit limit), PortableRecord env s r := by
  have hlength := length_take_clampLimit rows limit
  have hread := fromStr_chars_iff (s := s) hrepr.spelled
    (distinct_exported env tenantId exportedAt (rows.take (clampLimit limit)))
  rw [responseText, caseControlEvidence_eq_exportedEntries]
  generalize rows.take (clampLimit limit) = recs at hcollision hlength hread ⊢
  constructor
  · rintro ⟨r, hverify, hok⟩
    obtain ⟨v, hv, hreport⟩ := (verifyText_eq_ok_iff _).mp hverify
    obtain ⟨hdepth, hnumbers, rfl⟩ := (hread v).mp hv
    -- equal hashes are hashes of equal texts, and these can be compared part by part
    have htexts := hcollision (sha256_eq_of_ok env s tenantId exportedAt recs hreport hok)
    have hportable := (canonicalJson_received_iff hs hrepr _).mp
      ⟨readable_hashed env tenantId exportedAt recs hnumbers, htexts⟩
    obtain ⟨htenant, htime, hitems⟩ :=
      (portable_hashed_iff env s tenantId exportedAt recs hlength).mp hportable
    refine ⟨htenant, htime, fun r hr => ?_⟩
    obtain ⟨hid, hactor, haction, htype, hresource, hchanges, hcreated⟩ :=
      (portable_item_iff env s r).mp (hitems r hr)
    exact ⟨hid, hactor, haction, htype, hresource, hcreated, hchanges,
      (depth_exported_lt_iff env tenantId exportedAt recs).mp hdepth r hr⟩
  · rintro ⟨htenant, htime, hrecs⟩
    have hitems : ∀ r ∈ recs, Portable env s r.item := by
      intro r hr
      have hr' := hrecs r hr
      exact (portable_item_iff env s r).mpr ⟨hr'.id, hr'.actor, hr'.action, hr'.resourceType,
        hr'.resourceId, hr'.changes, hr'.createdAt⟩
    have hportable := (portable_hashed_iff env s tenantId exportedAt recs hlength).mpr
      ⟨htenant, htime, hitems⟩
    have hnumbers := ((canonicalJson_received_iff hs hrepr _).mpr
      (portable_exported env s tenantId exportedAt recs hportable)).1
    have hdepth := (depth_exported_lt_iff env tenantId exportedAt recs).mpr
      (fun r hr => (hrecs r hr).depth)
    refine ⟨_, (verifyText_eq_ok_iff _).mpr ⟨_, (hread _).mpr ⟨hdepth, hnumbers, rfl⟩,
      verifyBundle_of_portable tenantId exportedAt recs hs hrepr hportable hitems⟩, rfl⟩

/-- The export of an amount of one half is reported as valid. -/
theorem halved_export_verified :
    ∃ r, verifyText (crates env serde)
        (responseText env "acme" "2026-01-01T00:00:00+00:00" halved 200)
        (some (signingSecret env)) = .ok r ∧ r.ok = true := by
  have htenant : plainText "acme" = true := by decide
  have htime : plainText "2026-01-01T00:00:00+00:00" = true := by decide +kernel
  have hitems : ∀ r ∈ halved.take (clampLimit 200),
      Portable env serde r.item := by
    intro r hr
    have hr' := portable_halved r hr
    exact (portable_item_iff _ _ r).mpr ⟨hr'.id, hr'.actor, hr'.action, hr'.resourceType,
      hr'.resourceId, hr'.changes, hr'.createdAt⟩
  have hportable : Portable env serde (hashed "acme" "2026-01-01T00:00:00+00:00"
      (halved.take (clampLimit 200))) :=
    (portable_hashed_iff _ _ _ _ _ (length_take_clampLimit _ _)).mpr
      ⟨htenant, htime, hitems⟩
  have htexts := canonicalJson_received serde_lawful spells_repr hportable
  have hiff := exported_verified_iff env serde serde_lawful
    spells_repr "acme" "2026-01-01T00:00:00+00:00" halved 200
    (fun _ => htexts.symm)
  exact hiff.mpr ⟨htenant, htime, portable_halved⟩

/-- The export of a record whose actor has an accent in their name is reported as not valid. -/
theorem accented_export_refused :
    ∃ r, verifyText (crates env serde)
        (responseText env "acme" "2026-01-01T00:00:00+00:00" accented
          200) (some (signingSecret env)) = .ok r
      ∧ r.bundleHashOk = false ∧ r.ok = false := by
  have hexported : (utf8 (Case.canonicalJson env
      (hashed "acme" "2026-01-01T00:00:00+00:00" accented))).length = 428 := by
    rw [Case.canonicalJson, utf8, String.toList_ofList]
    decide +kernel
  have hchecked : (utf8 (rehashed env serde "acme" "2026-01-01T00:00:00+00:00"
      accented)).length = 424 := by
    rw [rehashed, canonicalJson, received, crates, text_received, utf8, String.toList_ofList]
    decide +kernel
  have hhash : (sha256Hex (crates env serde) (utf8 (rehashed env serde
        "acme" "2026-01-01T00:00:00+00:00" accented))
      == bundleHash env
        (hashed "acme" "2026-01-01T00:00:00+00:00" accented)) = false := by
    rw [beq_eq_false_iff_ne]
    intro h
    have hdigest : (sha256 (utf8 (rehashed env serde "acme"
          "2026-01-01T00:00:00+00:00" accented))).val
        = (sha256 (utf8 (Case.canonicalJson env
          (hashed "acme" "2026-01-01T00:00:00+00:00" accented)))).val := hexText_inj h
    rw [sha256, sha256, hexported, hchecked] at hdigest
    revert hdigest
    decide
  have hread := (fromStr_chars_iff (s := serde) spells_repr.spelled
    (distinct_exported env "acme" "2026-01-01T00:00:00+00:00" accented) _).mpr
      ⟨(depth_exported_lt_iff _ _ _ _).mpr (by decide), readable_accented, rfl⟩
  have hverify := (verifyText_eq_ok_iff (crates env serde)).mpr ⟨_, hread,
    verifyBundle_exported env serde "acme" "2026-01-01T00:00:00+00:00" accented
      (signingSecret env)⟩
  refine ⟨_, hverify, hhash, ?_⟩
  rw [VerifyReport.ok]
  simp only [Bool.and_eq_false_iff]
  exact .inl (.inl (.inl hhash))

end Tarka.Case.OfflineVerify
