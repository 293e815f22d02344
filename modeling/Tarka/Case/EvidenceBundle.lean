import Tarka.Json.CrossReading
import Tarka.Lib.Hex

/-! # Evidence bundles of the case service

The export of audit records as a signed bundle and the endpoint that checks such a bundle
(`case_api/main.py`). The changes of an audit record are any JSON, with integers of any size. A
bundle is hashed and signed by the text of its canonical JSON, in which the keys of every object are
in order.

The export hashes the bundle before its `integrity` block is attached. The check hashes it with that
block, less the hash itself. `exported_valid_iff` says what follows: a bundle that the service has
exported is accepted exactly when the hash of these two different texts is the same. -/

namespace Tarka.Case

open Tarka.Lib Tarka.Json List String PyJson

/-! ## Hashes and signatures -/

/-- The texts of CPython, `hashlib.sha256`, `hmac.new(key, message, sha256)` and the setting
`evidence_signing_secret`. -/
structure Env where
  text : PyText
  sha256 : Bytes → Digest
  hmacSha256 : Bytes → Bytes → Digest
  evidenceSigningSecret : String

def devEvidenceSigningSecret : String := "tarka-evidence-dev-secret"

section

variable (env : Env)

/-- `settings.evidence_signing_secret or _DEV_EVIDENCE_SIGNING_SECRET`. -/
def signingSecret : String :=
  if env.evidenceSigningSecret.isEmpty then devEvidenceSigningSecret
  else env.evidenceSigningSecret

/-- `_canonical_json`: sorted keys and the default escapes. -/
def canonicalJson (d : PyJson) : String :=
  String.ofList ((d.sortedBy codePointLe).chars escapeAscii (PyNumber.chars env.text.reprFloat))

/-- `hashlib.sha256(...).hexdigest()`. -/
def sha256Hex (s : String) : String := hexText (env.sha256 (utf8 s)).val

def bundleHash (payload : PyJson) : String := sha256Hex env (canonicalJson env payload)

def hashChain (records : List PyJson) : String :=
  records.foldl (fun current item => sha256Hex env (current ++ ":" ++ canonicalJson env item)) ""

def bundleSignature (payload : PyJson) : String :=
  hexText (env.hmacSha256 (utf8 (signingSecret env)) (utf8 (canonicalJson env payload))).val

def signingKeyId : String :=
  String.ofList ((sha256Hex env (signingSecret env)).toList.take 12)

end

/-! ## Export -/

/-- A row of the audit trail, with the texts of its id and its time and with what was loaded from
its JSON column. -/
structure AuditRecord where
  id : String
  actor : String
  action : String
  resourceType : String
  resourceId : String
  changes : PyJson
  distinct : changes.Distinct
  createdAt : Option String

/-- One item of `evidence`. -/
def AuditRecord.item (r : AuditRecord) : PyJson :=
  .object [("id", .string r.id), ("actor", .string r.actor), ("action", .string r.action),
    ("resource_type", .string r.resourceType), ("resource_id", .string r.resourceId),
    ("changes", r.changes), ("created_at", r.createdAt.elim .null .string)]

def ofCount (n : Nat) : PyJson := .number (.int n)

/-- `by_action`: how often every action occurs. -/
def byAction (recs : List AuditRecord) : List (String × Nat) :=
  recs.foldl (fun d r => Dict.set d r.action ((d.lookup r.action).getD 0 + 1)) []

/-- The bundle before the `integrity` block. -/
def unsealedBundle (tenantId exportedAt : String) (recs : List AuditRecord) :
    List (String × PyJson) :=
  [("tenant_id", .string tenantId),
    ("exported_at", .string exportedAt),
    ("controls", .array [
      .object [("id", .string "SOC2-CC8.1"), ("name", .string "Case Change Audit Trail"),
        ("status", .string "implemented")],
      .object [("id", .string "SOC2-CC7.3"), ("name", .string "Workflow-driven Response"),
        ("status", .string "implemented")]]),
    ("summary", .object [("events_sampled", ofCount recs.length),
      ("action_distribution", .object ((byAction recs).map (fun e => (e.1, ofCount e.2))))]),
    ("evidence", .array (recs.map AuditRecord.item))]

/-- `limit(max(1, min(limit, 2000)))`. -/
def clampLimit (limit : Int) : Nat := (max 1 (min limit 2000)).toNat

/-- The `integrity` block over the records of an export. -/
def integrity (env : Env) (recs : List AuditRecord) (bundleHash : String) :
    List (String × PyJson) :=
  [("algorithm", .string "sha256+hmac-sha256"),
    ("key_id", .string (signingKeyId env)),
    ("bundle_hash", .string bundleHash),
    ("hash_chain", .string (hashChain env (recs.map AuditRecord.item)))]

section

variable (env : Env) (tenantId exportedAt : String)

/-- The bundle with its `integrity` block. -/
def sealedBundle (recs : List AuditRecord) : List (String × PyJson) :=
  let bundle := unsealedBundle tenantId exportedAt recs
  Dict.set bundle "integrity" (.object (integrity env recs (bundleHash env (.object bundle))))

/-- `case_control_evidence`, for the rows of the tenant in the order the database returns them. -/
def caseControlEvidence (rows : List AuditRecord) (limit : Int) : List (String × PyJson) :=
  let sealed := sealedBundle env tenantId exportedAt (rows.take (clampLimit limit))
  Dict.set sealed "signature" (.string (bundleSignature env (.object sealed)))

/-- The body of the response: `json.dumps` with `ensure_ascii=False` and without blanks. -/
def responseText (rows : List AuditRecord) (limit : Int) : String :=
  String.ofList ((object (caseControlEvidence env tenantId exportedAt rows limit)).chars
    escapeChar (PyNumber.chars env.text.reprFloat))

end

/-! ## Counts -/

theorem byAction_concat (recs : List AuditRecord) (r : AuditRecord) :
    byAction (recs ++ [r])
      = Dict.set (byAction recs) r.action (((byAction recs).lookup r.action).getD 0 + 1) := by
  rw [byAction, foldl_concat]
  rfl

theorem proper_byAction (recs : List AuditRecord) : Dict.Proper (byAction recs) := by
  induction recs using reverseRecOn with
  | nil => exact nodup_nil
  | append_singleton recs r ih =>
    rw [byAction_concat]
    exact ih.set _ _

/-- What is counted is the action of a record, and not more often than there are records. -/
theorem mem_byAction {recs : List AuditRecord} {e : String × Nat} (he : e ∈ byAction recs) :
    (∃ r ∈ recs, r.action = e.1) ∧ e.2 ≤ recs.length := by
  induction recs using reverseRecOn generalizing e with
  | nil => cases he
  | append_singleton recs r ih =>
    rw [byAction_concat] at he
    rw [List.length_append]
    rcases Dict.mem_set he with rfl | he
    · refine ⟨⟨r, by simp, rfl⟩, Nat.succ_le_succ ?_⟩
      cases hlookup : (byAction recs).lookup r.action with
      | none => exact Nat.zero_le _
      | some n => exact (ih (KeyMap.mem_entries_of_lookup hlookup)).2
    · obtain ⟨⟨r', hr', haction⟩, hle⟩ := ih he
      exact ⟨⟨r', by simp [hr'], haction⟩, by omega⟩

theorem length_take_clampLimit {α : Type} (rows : List α) (limit : Int) :
    (rows.take (clampLimit limit)).length ≤ 2000 := by
  have hlimit : clampLimit limit ≤ 2000 := by
    unfold clampLimit
    omega
  exact le_trans (length_take_le _ _) hlimit

/-! ## Verification -/

/-- `hmac.compare_digest` raises a `TypeError` unless both strings are ASCII. -/
inductive VerifyError where
  | typeError
  deriving DecidableEq

def compareDigest (a b : String) : Except VerifyError Bool :=
  if (a ++ b).toList.all (fun c => decide (c.toNat < 128)) then .ok (a == b) else .error .typeError

structure VerifyResponse where
  valid : Bool
  expectedSignature : String
  providedSignature : String
  expectedHash : String
  providedHash : String
  activeKeyId : String
  deriving DecidableEq

/-- The entries of a `dict`, of any other value none. -/
def entriesOf : Option PyJson → List (String × PyJson)
  | some (.object es) => es
  | _ => []

/-- The `integrity` block without its hash; a value that is no `dict` is left alone. -/
def withoutHash (bundle : List (String × PyJson)) : List (String × PyJson) :=
  match bundle.lookup "integrity" with
  | some (.object es) => Dict.set bundle "integrity" (.object (Dict.erase es "bundle_hash"))
  | _ => bundle

/-- `str(d.get(k, ""))`. -/
def strEntry (text : PyText) (d : List (String × PyJson)) (k : String) : String :=
  ((d.lookup k).map (PyJson.pyStr text)).getD ""

def verifyCaseEvidence (env : Env) (body : List (String × PyJson)) :
    Except VerifyError VerifyResponse := do
  let providedSig := strEntry env.text body "signature"
  let bundle := Dict.erase body "signature"
  let providedHash := strEntry env.text (entriesOf (bundle.lookup "integrity")) "bundle_hash"
  let bundle := withoutHash bundle
  let expectedHash := bundleHash env (.object bundle)
  let bundle := Dict.set bundle "integrity"
    (.object (Dict.set (entriesOf (bundle.lookup "integrity")) "bundle_hash"
      (.string expectedHash)))
  let expectedSig := bundleSignature env (.object bundle)
  let signed ← if providedSig.isEmpty then .ok false else compareDigest providedSig expectedSig
  return ⟨signed && providedHash == expectedHash, expectedSig, providedSig, expectedHash,
    providedHash, signingKeyId env⟩

/-! ## An exported bundle under its own check -/

section

variable (env : Env) (tenantId exportedAt : String)

/-- What the export attaches as `integrity`, less the hash. -/
def integrityRest (recs : List AuditRecord) : List (String × PyJson) :=
  [("algorithm", .string "sha256+hmac-sha256"), ("key_id", .string (signingKeyId env)),
    ("hash_chain", .string (hashChain env (recs.map AuditRecord.item)))]

def exportHashed (recs : List AuditRecord) : PyJson :=
  .object (unsealedBundle tenantId exportedAt recs)

def checkHashed (recs : List AuditRecord) : PyJson :=
  .object (unsealedBundle tenantId exportedAt recs
    ++ [("integrity", .object (integrityRest env recs))])

theorem bundle_key_order :
    codePointLe "controls" "evidence" ∧ codePointLe "exported_at" "controls" = false
      ∧ codePointLe "exported_at" "evidence" = false ∧ codePointLe "exported_at" "integrity"
      ∧ codePointLe "exported_at" "summary" ∧ codePointLe "evidence" "integrity"
      ∧ codePointLe "summary" "evidence" = false ∧ codePointLe "summary" "integrity" = false
      ∧ codePointLe "tenant_id" "controls" = false ∧ codePointLe "tenant_id" "evidence" = false
      ∧ codePointLe "tenant_id" "exported_at" = false ∧ codePointLe "tenant_id" "integrity" = false
      ∧ codePointLe "tenant_id" "summary" = false := by
  decide +kernel

theorem integrity_key_order :
    codePointLe "key_id" "hash_chain" = false ∧ codePointLe "key_id" "bundle_hash" = false
      ∧ codePointLe "bundle_hash" "hash_chain" ∧ codePointLe "hash_chain" "bundle_hash" = false
      ∧ codePointLe "algorithm" "bundle_hash" = true := by
  decide +kernel

variable (recs : List AuditRecord)

/-- **The two documents have different texts**: after the time of the export one goes on with the
summary and the other with the `integrity` block. -/
theorem canonicalJson_ne :
    canonicalJson env (exportHashed tenantId exportedAt recs)
      ≠ canonicalJson env (checkHashed env tenantId exportedAt recs) := by
  intro h
  have htexts := congrArg toList h
  obtain ⟨h₁, h₂, h₃, h₄, h₅, h₆, h₇, h₈, h₉, h₁₀, h₁₁, h₁₂, h₁₃⟩ := bundle_key_order
  have hsummary : quoted escapeAscii "summary" = "\"summary\"".toList := by decide +kernel
  have hintegrity : quoted escapeAscii "integrity" = "\"integrity\"".toList := by decide +kernel
  -- with both lists of keys in order, the texts are cut down to where they part
  simp only [canonicalJson, toList_ofList, exportHashed, checkHashed,
    unsealedBundle, cons_append, nil_append, sortedBy, sortedEntries,
    insertionSort_cons, insertionSort_nil, orderedInsert, h₁, h₂,
    h₃, h₄, h₅, h₆, h₇, h₈, h₉, h₁₀, h₁₁, h₁₂, h₁₃, if_true, if_false, Bool.false_eq_true,
    PyJson.chars, PyJson.entriesTail, cons.injEq, true_and, append_cancel_left_eq] at htexts
  rw [hsummary, hintegrity] at htexts
  simp at htexts

/-- The place of the hash in the `integrity` block does not show in the canonical text. -/
theorem canonicalJson_integrity (hash : String) :
    canonicalJson env (.object (unsealedBundle tenantId exportedAt recs
        ++ [("integrity", .object (integrityRest env recs ++ [("bundle_hash", .string hash)]))]))
      = canonicalJson env (.object (unsealedBundle tenantId exportedAt recs
        ++ [("integrity", .object (integrity env recs hash))])) := by
  obtain ⟨h₁, h₂, h₃, h₄, h₅⟩ := integrity_key_order
  have hblock : (object (integrityRest env recs ++ [("bundle_hash", .string hash)])).sortedBy
      codePointLe = (object (integrity env recs hash)).sortedBy codePointLe := by
    simp [integrityRest, integrity, sortedBy, sortedEntries, h₁, h₂, h₃, h₄, h₅]
  simp only [canonicalJson, unsealedBundle, cons_append, nil_append,
    sortedBy, sortedEntries] at hblock ⊢
  rw [hblock]

/-- The bundle with an `integrity` block that holds the hash. -/
def resealed (recs : List AuditRecord) (hash : String) : PyJson :=
  .object (unsealedBundle tenantId exportedAt recs
    ++ [("integrity", .object (integrityRest env recs ++ [("bundle_hash", .string hash)]))])

theorem bundleSignature_ne_empty (v : PyJson) : ¬ (bundleSignature env v).isEmpty := by
  rw [String.isEmpty_iff]
  intro hempty
  have hlen : (bundleSignature env v).toList.length = 64 := by
    rw [bundleSignature, length_hexText]
    exact congrArg (2 * ·) (env.hmacSha256 _ _).property
  rw [hempty] at hlen
  cases hlen

/-- Signatures are ASCII texts, so that comparing them does not raise. -/
theorem compareDigest_bundleSignature (v w : PyJson) :
    compareDigest (bundleSignature env v) (bundleSignature env w)
      = .ok (bundleSignature env v == bundleSignature env w) := by
  have hascii : (bundleSignature env v ++ bundleSignature env w).toList.all
      (fun c => decide (c.toNat < 128)) := by
    rw [all_eq_true]
    intro c hc
    rw [toList_append, mem_append] at hc
    have hvisible := hc.elim hexText_ascii hexText_ascii
    exact decide_eq_true (by omega)
  rw [compareDigest, if_pos hascii]

/-- The bundle that the export returns, for the rows it has read. -/
def signedBundle (recs : List AuditRecord) (hash : String) : List (String × PyJson) :=
  unsealedBundle tenantId exportedAt recs ++ [("integrity", .object (integrity env recs hash)),
    ("signature", .string (bundleSignature env (resealed env tenantId exportedAt recs hash)))]

theorem caseControlEvidence_eq (rows : List AuditRecord) (limit : Int) :
    let recs := rows.take (clampLimit limit)
    caseControlEvidence env tenantId exportedAt rows limit
      = signedBundle env tenantId exportedAt recs
          (bundleHash env (exportHashed tenantId exportedAt recs)) := by
  intro recs
  rw [signedBundle, bundleSignature, resealed, canonicalJson_integrity]
  simp [caseControlEvidence, sealedBundle, unsealedBundle, Dict.set, recs, exportHashed,
    bundleSignature]

/-- **What the check answers on a bundle of this form.** -/
theorem verify_signedBundle (recs : List AuditRecord) (hash : String) :
    let expected := bundleHash env (checkHashed env tenantId exportedAt recs)
    let signature hash := bundleSignature env (resealed env tenantId exportedAt recs hash)
    verifyCaseEvidence env (signedBundle env tenantId exportedAt recs hash)
      = .ok ⟨signature hash == signature expected && hash == expected,
          signature expected, signature hash, expected, hash, signingKeyId env⟩ := by
  intro expected signature
  have hsig : strEntry env.text (signedBundle env tenantId exportedAt recs hash) "signature"
      = signature hash := by
    simp [signedBundle, unsealedBundle, strEntry, lookup_cons, pyStr, signature]
  have herase : Dict.erase (signedBundle env tenantId exportedAt recs hash) "signature"
      = unsealedBundle tenantId exportedAt recs
        ++ [("integrity", .object (integrity env recs hash))] := by
    simp [signedBundle, unsealedBundle, Dict.erase]
  have hlookup : ∀ v : PyJson,
      (unsealedBundle tenantId exportedAt recs ++ [("integrity", v)]).lookup "integrity"
        = some v := by
    simp [unsealedBundle, lookup_cons]
  have hset : ∀ v w : PyJson,
      Dict.set (unsealedBundle tenantId exportedAt recs ++ [("integrity", v)]) "integrity" w
        = unsealedBundle tenantId exportedAt recs ++ [("integrity", w)] := by
    simp [unsealedBundle, Dict.set]
  have hrest : Dict.erase (integrity env recs hash) "bundle_hash" = integrityRest env recs := by
    simp [integrity, integrityRest, Dict.erase]
  have hhash : strEntry env.text (integrity env recs hash) "bundle_hash" = hash := by
    simp [integrity, strEntry, lookup_cons, pyStr]
  unfold verifyCaseEvidence
  simp only [hsig, herase, withoutHash, hlookup, entriesOf, hset, hrest, hhash]
  rw [if_neg (bundleSignature_ne_empty env _), compareDigest_bundleSignature]
  rfl

/-- **An exported bundle is accepted exactly when the hash collides**: the export and the check hash
different texts, and their digests have to be the same. -/
theorem exported_valid_iff (rows : List AuditRecord) (limit : Int) :
    let recs := rows.take (clampLimit limit)
    let exported := canonicalJson env (exportHashed tenantId exportedAt recs)
    let checked := canonicalJson env (checkHashed env tenantId exportedAt recs)
    (∃ r, verifyCaseEvidence env (caseControlEvidence env tenantId exportedAt rows limit) = .ok r
        ∧ r.valid = true)
      ↔ exported ≠ checked ∧ env.sha256 (utf8 exported) = env.sha256 (utf8 checked) := by
  intro recs exported checked
  have hhash : bundleHash env (exportHashed tenantId exportedAt recs)
        = bundleHash env (checkHashed env tenantId exportedAt recs)
      ↔ env.sha256 (utf8 exported) = env.sha256 (utf8 checked) :=
    ⟨fun h => Subtype.ext (hexText_inj h),
      fun h => by rw [bundleHash, bundleHash, sha256Hex, h]; rfl⟩
  rw [caseControlEvidence_eq, verify_signedBundle, ← hhash]
  constructor
  · rintro ⟨r, hr, hvalid⟩
    cases hr
    rw [Bool.and_eq_true, beq_iff_eq, beq_iff_eq] at hvalid
    exact ⟨canonicalJson_ne env tenantId exportedAt recs, hvalid.2⟩
  · rintro ⟨-, h⟩
    refine ⟨_, rfl, ?_⟩
    rw [← h, beq_self_eq_true, beq_self_eq_true, Bool.and_self]

end

namespace Demo

/-- SHA-256 of the secret and of the two hashed texts of the bundle below. -/
def sha256 (b : Bytes) : Digest :=
  if b.length = 25 then ⟨[164, 225, 146, 239, 22, 110, 215, 182, 154, 162, 106, 209, 19, 237, 76, 3,
    2, 29, 6, 185, 159, 92, 99, 253, 198, 114, 252, 145, 56, 76, 239, 166], rfl⟩
  else if b.length = 298 then ⟨[31, 3, 136, 217, 190, 47, 136, 47, 146, 146, 53, 176, 144, 217, 192,
    29, 192, 209, 219, 142, 112, 128, 148, 109, 212, 53, 164, 185, 39, 62, 87, 150], rfl⟩
  else ⟨[133, 12, 221, 80, 254, 93, 86, 182, 218, 8, 96, 245, 66, 202, 240, 219, 170, 251, 52, 186,
    120, 85, 172, 248, 75, 92, 25, 195, 178, 60, 111, 68], rfl⟩

/-- HMAC-SHA-256 of the two signed texts, which first differ in the first digit of the hash. -/
def hmacSha256 (_ message : Bytes) : Digest :=
  if message.getD 284 0 = 49 then ⟨[171, 165, 29, 80, 114, 185, 29, 210, 147, 229, 83, 232, 42, 230,
    40, 151, 82, 193, 91, 93, 240, 141, 91, 119, 147, 153, 52, 17, 150, 105, 25, 131], rfl⟩
  else ⟨[66, 78, 156, 180, 48, 74, 218, 78, 107, 237, 123, 252, 217, 242, 85, 176, 12, 81, 150, 1,
    59, 189, 99, 221, 160, 233, 153, 181, 75, 206, 30, 34], rfl⟩

def env : Env := ⟨⟨fun _ => "0.0", fun s => s⟩, sha256, hmacSha256, ""⟩

end Demo

open Demo

/-- The bundle of a tenant without audit records is refused by the service that exported it. -/
theorem empty_export_refused :
    (verifyCaseEvidence env
        (caseControlEvidence env "acme" "2026-01-01T00:00:00+00:00" [] 200)).toOption.map
      VerifyResponse.valid = some false := by
  have hbytes : ∀ v, utf8 (canonicalJson env v)
      = ((v.sortedBy codePointLe).chars escapeAscii
        (PyNumber.chars env.text.reprFloat)).flatMap utf8EncodeChar := by
    intro v
    rw [utf8, canonicalJson, toList_ofList]
  have hexported : (utf8 (canonicalJson env
      (exportHashed "acme" "2026-01-01T00:00:00+00:00" []))).length = 298 := by
    rw [hbytes]
    decide +kernel
  have hchecked : (utf8 (canonicalJson env
      (checkHashed env "acme" "2026-01-01T00:00:00+00:00" []))).length = 385 := by
    rw [hbytes]
    decide +kernel
  have hhash : (bundleHash env (exportHashed "acme" "2026-01-01T00:00:00+00:00" [])
      == bundleHash env (checkHashed env "acme" "2026-01-01T00:00:00+00:00" [])) = false := by
    rw [beq_eq_false_iff_ne]
    intro h
    have hdigest : (sha256 (utf8 (canonicalJson env
          (exportHashed "acme" "2026-01-01T00:00:00+00:00" [])))).val
        = (sha256 (utf8 (canonicalJson env
          (checkHashed env "acme" "2026-01-01T00:00:00+00:00" [])))).val := hexText_inj h
    rw [sha256, sha256, hexported, hchecked] at hdigest
    revert hdigest
    decide
  rw [caseControlEvidence_eq, take_nil, verify_signedBundle, hhash, Bool.and_false]
  rfl

end Tarka.Case
