import Tarka.Json.Spaced
import Tarka.Lib.Hex

/-! # Events that are ingested

The requests of `POST /v1/events` and `POST /v1/events/batch` once their events are parsed, the
idempotency key of a request, and the name under which Redis keeps the answer to it. -/

namespace Tarka.Ingest

open Tarka.Lib Tarka.Json

/-! ## Events -/

structure EventPayload where
  tenantId : String
  eventType : String
  entityId : String
  role : Option String
  sessionId : Option String
  payload : List (String × Value)
  deviceContext : Option (List (String × Value))
  metadata : List (String × Value)

def EventPayload.modelDump (e : EventPayload) : List (String × Value) :=
  [("tenant_id", .string e.tenantId), ("event_type", .string e.eventType),
    ("entity_id", .string e.entityId), ("role", e.role.elim .null .string),
    ("session_id", e.sessionId.elim .null .string), ("payload", .object e.payload),
    ("device_context", e.deviceContext.elim .null .object), ("metadata", .object e.metadata)]

/-- The settings of the endpoints. -/
structure Settings where
  subjectPrefix : String
  idempotencyKeyPrefix : String
  ingestRequireIdempotencyKey : Bool

/-- `hashlib.sha256`, and the texts of doubles. -/
structure Host where
  sha256 : Bytes → Digest
  text : PyText

def subjectOf (cfg : Settings) (e : EventPayload) : String :=
  cfg.subjectPrefix ++ "." ++ e.tenantId ++ "." ++ e.eventType

/-- What is published of an event: `data["_ingest_id"] = …` after the fields of the model. -/
def messageData (e : EventPayload) (ingestId : String) : List (String × Value) :=
  e.modelDump ++ [("_ingest_id", .string ingestId)]

/-! ## Keys of Redis -/

def idempotencyRedisKey (cfg : Settings) (host : Host) (tenantId idempotencyKey : String) :
    String :=
  cfg.idempotencyKeyPrefix ++ ":" ++ tenantId ++ ":"
    ++ hexText (host.sha256 (utf8 idempotencyKey)).val

def batchIdempotencyRedisKey (cfg : Settings) (host : Host) (idempotencyKey : String)
    (events : List EventPayload) : String :=
  let canon := String.ofList (pyDumpsSpaced host.text
    (.array (events.map (fun e => .object e.modelDump))))
  cfg.idempotencyKeyPrefix ++ ":batch:"
    ++ hexText (host.sha256 (utf8 (idempotencyKey ++ "\n" ++ canon))).val

/-! ## Requests -/

/-- A request of `ingest_event` or `ingest_batch`, with the `Idempotency-Key` of its header. -/
inductive Request where
  | event (idemHeader : Option String) (body : EventPayload)
  | batch (idemHeader : Option String) (idemBody : Option Value) (events : List EventPayload)

namespace Request

def isBatch : Request → Bool
  | event _ _ => false
  | batch _ _ _ => true

def events : Request → List EventPayload
  | event _ body => [body]
  | batch _ _ events => events

/-- `value.strip() or None`; what is not a string has no `strip`. -/
def stripOrNone : Value → Except Unit (Option String)
  | .string s => .ok (if (strip s).isEmpty then none else some (strip s))
  | _ => .error ()

/-- `idem_body_s`: `(idem_body.strip() if isinstance(idem_body, str) else None) or None`. -/
def idemBodyS : Option Value → Option String
  | some (.string s) => if (strip s).isEmpty then none else some (strip s)
  | _ => none

def firstTruthy (header : Option String) (other : Option Value) : Value :=
  if (header.map (fun h => !h.isEmpty)).getD false then .string (header.getD "")
  else if (other.map Value.truthy).getD false then other.getD .null
  else .string ""

/-- `idem`, of the header or of the body. -/
def idem : Request → Except Unit (Option String)
  | event header body => stripOrNone (firstTruthy header (body.metadata.lookup "idempotency_key"))
  | batch header idemBody _ => stripOrNone (firstTruthy header ((idemBodyS idemBody).map .string))

/-- The key of Redis for an idempotency key: `rkey` or `bkey`. -/
def redisKey (cfg : Settings) (host : Host) : Request → String → String
  | event _ body, idem => idempotencyRedisKey cfg host body.tenantId idem
  | batch _ _ events, idem => batchIdempotencyRedisKey cfg host idem events

/-- The key of Redis that a request reads and writes, if it has an idempotency key. -/
def key (cfg : Settings) (host : Host) (r : Request) : Option String :=
  (r.idem.toOption.join).map (r.redisKey cfg host)

end Request

/-! ## Responses -/

/-- What a publish that was acknowledged adds to the response. -/
structure Result where
  ingestId : String
  seq : Nat
  deriving DecidableEq

/-- The response of a request whose events are all published. -/
structure Response where
  isBatch : Bool
  results : List Result
  deriving DecidableEq

namespace Response

def ingestIds (r : Response) : List String := r.results.map Result.ingestId

def entries : Response → List (String × Value)
  | ⟨false, []⟩ => []
  | ⟨false, r :: _⟩ =>
    [("accepted", .bool true), ("stream_seq", .number (.posInt (UInt64.ofNat r.seq))),
      ("ingest_id", .string r.ingestId)]
  | ⟨true, results⟩ =>
    [("accepted", .number (.posInt (UInt64.ofNat results.length))),
      ("results", .array (results.map (fun r => .object
        [("ingest_id", .string r.ingestId), ("seq", .number (.posInt (UInt64.ofNat r.seq)))])))]

end Response

/-- `"ingest_id" in out`, or `"results" in out`: what is cached is an answer to this request. -/
def Request.isHit (r : Request) (cached : Response) : Bool :=
  (cached.entries.lookup (if r.isBatch then "results" else "ingest_id")).isSome

theorem isHit_of_isBatch {r : Request} {response : Response} (hkind : response.isBatch = r.isBatch)
    (hresults : r.isBatch = false → response.results ≠ []) : r.isHit response = true := by
  obtain ⟨isBatch, results⟩ := response
  subst hkind
  cases hb : r.isBatch with
  | false =>
    cases results with
    | nil => exact absurd rfl (hresults hb)
    | cons first rest => simp [Request.isHit, hb, Response.entries, List.lookup_cons]
  | true => simp [Request.isHit, hb, Response.entries, List.lookup_cons]

end Tarka.Ingest
