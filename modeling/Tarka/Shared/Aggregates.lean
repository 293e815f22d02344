import Tarka.Json.Python
import Tarka.Lib.SortedSet
import Tarka.Shared.StoreKeys

/-! # Real-time aggregates

The store of `fraud_aggregates.py` counts and sums the events of an entity over sliding windows. For
each tenant, entity and metric there is a sorted set in Redis, whose scores are the times of the
events: its members are the ids of the events, an id with the value of a number field, or the values
of a field of which different values are counted. Times are exact, in microseconds; the clock of the
store is that of the server. -/

namespace Tarka.Shared.Aggregates

open Tarka.Lib Tarka.Json SortedSet

/-- `str` and `float` of CPython, and its addition of doubles. -/
structure Host where
  py : PyText
  parse : String → Option F64
  add : F64 → F64 → F64

/-- `MAX_WINDOW`, in seconds. -/
def maxWindow : Int := 86400 * 30

def seconds (n : Int) : Int := n * 1000000

def keyLife : Int := seconds (maxWindow + 3600)

def numericFields : List String := ["amount", "score", "price", "quantity", "original_amount"]

def distinctFields : List String :=
  ["ip_address", "device_id", "session_id", "email", "phone", "card_hash", "country",
    "original_currency"]

/-- The arguments of `record_event`; the fields are a `dict`. -/
structure Event where
  tenantId : String
  entityId : String
  eventId : String
  fields : List (String × Value)
  proper : Dict.Proper fields
  ts : Option Int

/-- A call of `record_event` at a time. -/
structure Record where
  event : Event
  now : Int

/-- The time that counts: the one that is given, or that of the call. -/
def Record.time (r : Record) : Int := r.event.ts.getD r.now

section

variable (host : Host)

/-- The text of a value of a number field. A boolean is an `int`. -/
def numericText (field : String) (v : Value) : Option String :=
  if field ∈ numericFields then
    match v with
    | .number _ => some (v.pyStr host.py)
    | .bool _ => some (v.pyStr host.py)
    | _ => none
  else none

def distinctText (field : String) (v : Value) : Option String :=
  if field ∈ distinctFields ∧ !v.isNull then some (v.pyStr host.py) else none

def fieldMetrics (eventId : String) (e : String × Value) : List (String × String) :=
  ((numericText host e.1 e.2).map (fun text => ("field:" ++ e.1, eventId ++ ":" ++ text))).toList
    ++ ((distinctText host e.1 e.2).map (fun text => ("distinct:" ++ e.1, text))).toList

def metrics (e : Event) : List (String × String) :=
  ("events", e.eventId) :: e.fields.flatMap (fieldMetrics host e.eventId)

/-- The commands of the pipeline of `record_event`. -/
def additions (vs : String) (r : Record) : List Add :=
  (metrics host r.event).map (fun x =>
    ⟨aggKey vs r.event.tenantId r.event.entityId x.1, x.2, r.time, r.now⟩)

def recordEvent (vs : String) (s : Keys) (r : Record) : Keys :=
  (additions host vs r).foldl (zaddExpire keyLife) s

def recordAll (vs : String) (rs : List Record) : Keys := rs.foldl (recordEvent host vs) []

def cutoff (now window : Int) : Int := now - seconds (min window maxWindow)

variable (vs : String) (s : Keys) (now : Int) (tenantId entityId : String)

def count (window : Int) : Nat :=
  zcount (live s (aggKey vs tenantId entityId "events") now) (cutoff now window)

/-- `m.rsplit(":", 1)[-1]`. -/
def afterLastColon (m : String) : String :=
  String.ofList (m.toList.reverse.takeWhile (fun c => c != ':')).reverse

/-- The loop of `sum_field`: what is no number is skipped. -/
def sumMembers (members : List String) : F64 :=
  members.foldl (fun total m => (host.parse (afterLastColon m)).elim total (host.add total))
    (F64.ofNat 0)

def sumField (field : String) (window : Int) : F64 :=
  sumMembers host (zrangeByScore
    (live s (aggKey vs tenantId entityId ("field:" ++ field)) now) (cutoff now window))

def distinctCount (field : String) (window : Int) : Nat :=
  zcount (live s (aggKey vs tenantId entityId ("distinct:" ++ field)) now) (cutoff now window)

end

end Tarka.Shared.Aggregates
