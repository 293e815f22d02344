import Tarka.Json.Reader
import Tarka.Lib.Hex
import Tarka.Lib.Loop

/-! # The offline verifier

`verify_bundle` of `evidence_verify.rs` checks an exported bundle without the service: it prints the
parts of the bundle again with sorted keys, and compares hash, hash chain and signature with those
in the bundle. -/

namespace Tarka.Case.OfflineVerify

open Tarka.Lib Tarka.Json Option Dict

/-- `serde_json` and the functions of the `sha2` and `hmac` crates. -/
structure Crates where
  serde : Serde
  sha256 : Bytes → Digest
  hmacSha256 : Bytes → Bytes → Digest

inductive VerifyError where
  | notAnObject
  | missingField (name : String)
  | badIntegrity
  deriving DecidableEq

def VerifyError.message : VerifyError → String
  | notAnObject => "bundle is not a JSON object"
  | missingField name => "missing field: " ++ name
  | badIntegrity => "integrity block missing or malformed"

structure VerifyReport where
  bundleHashOk : Bool
  hashChainOk : Bool
  signatureOk : Bool
  keyIdOk : Bool
  keyId : String
  records : Nat
  deriving DecidableEq

def VerifyReport.ok (r : VerifyReport) : Bool :=
  r.bundleHashOk && r.hashChainOk && r.signatureOk && r.keyIdOk

def asObject : Value → Option (List (String × Value))
  | .object es => some es
  | _ => none

def asStr : Value → Option String
  | .string s => some s
  | _ => none

def asArray : Value → Option (List Value)
  | .array items => some items
  | _ => none

def okOr {α : Type} (o : Option α) (e : VerifyError) : Except VerifyError α :=
  o.elim (.error e) .ok

section

variable (c : Crates)

def canonicalJson (v : Value) : String := c.serde.text (v.sortedBy byteLe)

def sha256Hex (data : Bytes) : String := hexText (c.sha256 data).val

def hmacSha256Hex (key data : Bytes) : String := hexText (c.hmacSha256 key data).val

def keyIdFor (key : String) : String := String.ofList ((sha256Hex c (utf8 key)).toList.take 12)

def foldRecords (items : List Value) : String :=
  items.foldl (fun current item => sha256Hex c (utf8 (current ++ ":" ++ canonicalJson c item))) ""

def verifyBundle (bundle : Value) (key : Option String) : Except VerifyError VerifyReport := do
  let obj ← okOr (asObject bundle) .notAnObject
  let integrity ← okOr ((obj.lookup "integrity").bind asObject) .badIntegrity
  let expectedBundleHash ← okOr ((integrity.lookup "bundle_hash").bind asStr) .badIntegrity
  let expectedChain ← okOr ((integrity.lookup "hash_chain").bind asStr) .badIntegrity
  let signature ← okOr ((obj.lookup "signature").bind asStr) (.missingField "signature")
  -- the hash covers everything except the integrity block and the signature
  let hashPayload := Dict.erase (Dict.erase obj "integrity") "signature"
  let computedBundleHash := sha256Hex c (utf8 (canonicalJson c (.object hashPayload)))
  let records := (integrity.lookup "records").getD ((obj.lookup "evidence").getD (.array []))
  let recordItems := (asArray records).getD []
  let current := foldRecords c recordItems
  -- the signature covers the bundle without the signature
  let sigPayload := Dict.erase obj "signature"
  let computedSig := key.elim "" (fun k =>
    hmacSha256Hex c (utf8 k) (utf8 (canonicalJson c (.object sigPayload))))
  let bundleKeyId := ((integrity.lookup "key_id").bind asStr).getD ""
  return {
    bundleHashOk := computedBundleHash == expectedBundleHash
    hashChainOk := current == expectedChain
    signatureOk := key.isNone || computedSig == signature
    keyIdOk := key.elim true (fun k => bundleKeyId == keyIdFor c k)
    keyId := bundleKeyId
    records := recordItems.length }

theorem verifyBundle_eq {obj integrity : List (String × Value)} {hash chain signature : String}
    (hintegrity : obj.lookup "integrity" = some (.object integrity))
    (hhash : integrity.lookup "bundle_hash" = some (.string hash))
    (hchain : integrity.lookup "hash_chain" = some (.string chain))
    (hsignature : obj.lookup "signature" = some (.string signature)) (key : Option String) :
    let records := (integrity.lookup "records").getD ((obj.lookup "evidence").getD (.array []))
    let keyId := ((integrity.lookup "key_id").bind asStr).getD ""
    verifyBundle c (.object obj) key = .ok {
      bundleHashOk := sha256Hex c (utf8 (canonicalJson c (.object
        (erase (erase obj "integrity") "signature")))) == hash
      hashChainOk := foldRecords c ((asArray records).getD []) == chain
      signatureOk := key.isNone || key.elim "" (fun k => hmacSha256Hex c (utf8 k)
        (utf8 (canonicalJson c (.object (erase obj "signature"))))) == signature
      keyIdOk := key.elim true (fun k => keyId == keyIdFor c k)
      keyId := keyId
      records := ((asArray records).getD []).length } := by
  have hok : ∀ {α : Type} (a : α) (f : α → Except VerifyError VerifyReport),
      (Except.ok a >>= f) = f a := fun _ _ => rfl
  simp only [verifyBundle, asObject, hintegrity, hhash, hchain, hsignature, bind_some, asStr,
    okOr, elim_some, hok]
  rfl

/-- `Commands::Verify`, for the text of the file; an error is that of `CliError::EvidenceVerify`. -/
def verifyText (raw : String) (key : Option String) : Except String VerifyReport := do
  let bundle ← (c.serde.fromStr raw).mapError (fun e => "bundle is not valid JSON: " ++ e)
  (verifyBundle c bundle key).mapError (fun e => "bundle malformed: " ++ e.message)

theorem verifyText_eq_ok_iff {raw : String} {key : Option String} {r : VerifyReport} :
    verifyText c raw key = .ok r
      ↔ ∃ bundle, c.serde.fromStr raw = .ok bundle ∧ verifyBundle c bundle key = .ok r := by
  rw [verifyText, except_bind_eq_ok]
  simp [mapError_eq_ok]

end

end Tarka.Case.OfflineVerify
