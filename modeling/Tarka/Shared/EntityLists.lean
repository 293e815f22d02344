import Tarka.Json.Value
import Tarka.Lib.Dict
import Tarka.Lib.IsoDate
import Tarka.Lib.Machine
import Tarka.Shared.StoreKeys

/-! # Entity lists

The whitelist, the blacklist and the bypass list of every tenant (`entity_lists.py`) in three
backends: a dictionary in memory with one key for list, tenant and entity, a Redis hash for each
list and tenant, and nested dictionaries that are saved to files. Each is a machine that takes an
operation at a time and answers it; the files themselves are not modelled, and an operation reads
the clock once.

A `TenantMap` says what the stores are for: the lists of one tenant, from which an entry is gone
once it has expired. -/

namespace Tarka.Shared.EntityLists

open Tarka.Lib Tarka.Json

/-! ## Entries -/

/-- `datetime.now(UTC)`, in the microseconds that `fromIsoFormat` counts, and its text. -/
structure Instant where
  micros : Int
  text : String

structure ListEntry where
  listType : ListType
  tenantId : String
  entityId : String
  reason : String
  createdBy : String
  expiresAt : Option String
  metadata : List (String × Value)
  createdAt : String

/-- The keyword arguments of `add`, with their defaults. -/
structure AddArgs where
  reason : String := ""
  createdBy : String := "system"
  expiresAt : Option String := none
  metadata : List (String × Value) := []
  createdAt : String := ""

/-- `ListEntry(...)` with `__post_init__`. -/
def ListEntry.new (now : Instant) (listType : ListType) (tenantId entityId : String)
    (args : AddArgs) : ListEntry where
  listType := listType
  tenantId := tenantId
  entityId := entityId
  reason := args.reason
  createdBy := args.createdBy
  expiresAt := args.expiresAt
  metadata := args.metadata
  createdAt := if args.createdAt.isEmpty then now.text else args.createdAt

/-- `is_expired`. A text that is no date raises a `ValueError`, one without an offset a `TypeError`
when it is compared; both count as no expiry. -/
def ListEntry.isExpired (now : Int) (e : ListEntry) : Bool :=
  match e.expiresAt with
  | none => false
  | some s =>
    if s.isEmpty then false
    else
      match IsoDate.fromIsoFormat s.toList with
      | some (t, some offset) => decide (t - offset < now)
      | _ => false

/-- What a check tells the caller to do. -/
inductive ListAction where
  | allow
  | deny
  | evaluate
  deriving DecidableEq

structure ListCheckResult where
  found : Bool
  listType : Option ListType
  action : ListAction
  reason : String
  entry : Option ListEntry

/-- `ListCheckResult(found=False, action="evaluate")`. -/
def ListCheckResult.notFound : ListCheckResult := ⟨false, none, .evaluate, "", none⟩

/-- `action_map`. -/
def actionOf : ListType → ListAction
  | .whitelist => .allow
  | .blacklist => .deny
  | .testBypass => .evaluate

def buildResult (now : Int) (entry : Option ListEntry) : ListCheckResult :=
  match entry with
  | none => .notFound
  | some e =>
    if e.isExpired now then .notFound
    else ⟨true, some e.listType, actionOf e.listType, e.reason, some e⟩

/-- The order in which a check goes through the lists. -/
def checkOrder : List ListType := [.blacklist, .whitelist, .testBypass]

/-- The loop of `check` over the entries of the lists. -/
def checkLists (now : Int) (get : ListType → Option ListEntry) : ListCheckResult :=
  (checkOrder.findSome? (fun lt => (get lt).filter (fun e => !e.isExpired now))).elim .notFound
    (fun e => buildResult now (some e))

/-- `entries[:limit]`. -/
def slice (entries : List ListEntry) (limit : Int) : List ListEntry :=
  if 0 ≤ limit then entries.take limit.toNat else entries.take (entries.length - limit.natAbs)

/-- `entries.sort(key=lambda e: e.created_at, reverse=True)`, which is stable. -/
def newestFirst (entries : List ListEntry) : List ListEntry :=
  entries.insertionSort (fun a b => codePointLe b.createdAt a.createdAt = true)

/-- The entries of a dictionary that have not expired. -/
def live (now : Int) (d : List (String × ListEntry)) : List (String × ListEntry) :=
  d.filter (fun x => !x.2.isExpired now)

/-! ## Operations -/

inductive Op where
  | add (listType : ListType) (tenantId entityId : String) (args : AddArgs)
  | remove (listType : ListType) (tenantId entityId : String)
  | check (tenantId entityId : String)
  | getAll (listType : ListType) (tenantId : String) (limit : Int)
  | getEntry (listType : ListType) (tenantId entityId : String)
  | count (listType : ListType) (tenantId : String)

def Op.tenantId : Op → String
  | add _ t _ _ => t
  | remove _ t _ => t
  | check t _ => t
  | getAll _ t _ => t
  | getEntry _ t _ => t
  | count _ t => t

def Op.entityId? : Op → Option String
  | add _ _ e _ => some e
  | remove _ _ e => some e
  | check _ e => some e
  | getAll .. => none
  | getEntry _ _ e => some e
  | count .. => none

/-- An operation at a time. -/
structure Event where
  now : Instant
  op : Op

inductive Answer where
  | added (e : ListEntry)
  | removed (b : Bool)
  | checked (r : ListCheckResult)
  | all (es : List ListEntry)
  | entry (e : Option ListEntry)
  | size (n : Nat)

/-! ## In memory -/

namespace Memory

abbrev State := List (String × ListEntry)

def scan (s : State) (now : Int) (lt : ListType) (t : String) : List ListEntry :=
  ((live now s).filter (fun x => (listScan lt t).toList.isPrefixOf x.1.toList)).map Prod.snd

/-- The methods of `MemoryListStore`. -/
def step (s : State) (ev : Event) : State × Answer :=
  let now := ev.now.micros
  match ev.op with
  | .add lt t e args =>
    let entry := ListEntry.new ev.now lt t e args
    (Dict.set s (listKey lt t e) entry, .added entry)
  | .remove lt t e => (Dict.erase s (listKey lt t e), .removed (s.lookup (listKey lt t e)).isSome)
  | .check t e => (s, .checked (checkLists now (fun lt => s.lookup (listKey lt t e))))
  | .getAll lt t limit => (s, .all (slice (scan s now lt t) limit))
  | .getEntry lt t e =>
    (s, .entry ((s.lookup (listKey lt t e)).filter (fun x => !x.isExpired now)))
  | .count lt t => (s, .size (scan s now lt t).length)

end Memory

/-! ## Redis -/

namespace Redis

/-- The hashes by their keys. A stored entry is its JSON text, which is read back as the entry. -/
abbrev State := List (String × List (String × ListEntry))

def key (lt : ListType) (t : String) : String := "tarka:lists:" ++ lt.name ++ ":" ++ t

def fields (s : State) (lt : ListType) (t : String) : List (String × ListEntry) :=
  (s.lookup (key lt t)).getD []

def hset (s : State) (lt : ListType) (t e : String) (entry : ListEntry) : State :=
  Dict.set s (key lt t) (Dict.set (fields s lt t) e entry)

/-- `HDEL`; a hash without fields is as good as none. -/
def hdel (s : State) (lt : ListType) (t e : String) : State :=
  Dict.set s (key lt t) (Dict.erase (fields s lt t) e)

/-- The order in which the server returns the fields of a hash. -/
structure FieldOrder where
  hgetall : List (String × ListEntry) → List (String × ListEntry)
  perm : ∀ d, (hgetall d).Perm d

/-- The loop of `check`: an expired entry is deleted on the way. -/
def checkFrom (now : Int) (t e : String) : List ListType → State → State × ListCheckResult
  | [], s => (s, .notFound)
  | lt :: lts, s =>
    match (fields s lt t).lookup e with
    | none => checkFrom now t e lts s
    | some entry =>
      if entry.isExpired now then checkFrom now t e lts (hdel s lt t e)
      else (s, buildResult now (some entry))

/-- The methods of `RedisListStore`. -/
def step (order : FieldOrder) (s : State) (ev : Event) : State × Answer :=
  let now := ev.now.micros
  match ev.op with
  | .add lt t e args =>
    let entry := ListEntry.new ev.now lt t e args
    (hset s lt t e entry, .added entry)
  | .remove lt t e => (hdel s lt t e, .removed ((fields s lt t).lookup e).isSome)
  | .check t e => ((checkFrom now t e checkOrder s).1, .checked (checkFrom now t e checkOrder s).2)
  | .getAll lt t limit =>
    (s, .all (slice (newestFirst ((live now (order.hgetall (fields s lt t))).map Prod.snd)) limit))
  | .getEntry lt t e =>
    (s, .entry (((fields s lt t).lookup e).filter (fun x => !x.isExpired now)))
  | .count lt t => (s, .size (fields s lt t).length)

end Redis

/-! ## Files -/

namespace File

abbrev State := List (ListType × List (String × List (String × ListEntry)))

/-- `self._data.get(list_type, {}).get(tenant_id, {})`. -/
def entities (s : State) (lt : ListType) (t : String) : List (String × ListEntry) :=
  (((s.lookup lt).getD []).lookup t).getD []

def setEntities (s : State) (lt : ListType) (t : String) (d : List (String × ListEntry)) : State :=
  Dict.set s lt (Dict.set ((s.lookup lt).getD []) t d)

/-- The methods of `FileListStore`. -/
def step (s : State) (ev : Event) : State × Answer :=
  let now := ev.now.micros
  match ev.op with
  | .add lt t e args =>
    let entry := ListEntry.new ev.now lt t e args
    (setEntities s lt t (Dict.set (entities s lt t) e entry), .added entry)
  | .remove lt t e =>
    (setEntities s lt t (Dict.erase (entities s lt t) e),
      .removed ((entities s lt t).lookup e).isSome)
  | .check t e => (s, .checked (checkLists now (fun lt => (entities s lt t).lookup e)))
  | .getAll lt t limit =>
    (s, .all (slice (newestFirst ((live now (entities s lt t)).map Prod.snd)) limit))
  | .getEntry lt t e =>
    (s, .entry (((entities s lt t).lookup e).filter (fun x => !x.isExpired now)))
  | .count lt t => (s, .size (live now (entities s lt t)).length)

end File

/-! ## What the stores are for -/

/-- The lists of one tenant, and the time of the last operation. -/
structure TenantMap where
  lists : ListType → List (String × ListEntry)
  time : Int

namespace TenantMap

def empty (time : Int) : TenantMap := ⟨fun _ => [], time⟩

/-- An operation on the lists, in which an expired entry is no longer there. -/
def step (m : TenantMap) (ev : Event) : TenantMap × Answer :=
  let now := ev.now.micros
  let there (lt : ListType) := live now (m.lists lt)
  match ev.op with
  | .add lt t e args =>
    let entry := ListEntry.new ev.now lt t e args
    (⟨Function.update m.lists lt (Dict.set (m.lists lt) e entry), now⟩, .added entry)
  | .remove lt _ e =>
    (⟨Function.update m.lists lt (Dict.erase (m.lists lt) e), now⟩,
      .removed ((there lt).lookup e).isSome)
  | .check _ e =>
    (⟨m.lists, now⟩, .checked ((checkOrder.findSome? (fun lt => (there lt).lookup e)).elim
      .notFound (fun entry => buildResult now (some entry))))
  | .getAll lt _ limit =>
    (⟨m.lists, now⟩, .all (slice (newestFirst ((there lt).map Prod.snd)) limit))
  | .getEntry lt _ e => (⟨m.lists, now⟩, .entry ((there lt).lookup e))
  | .count lt _ => (⟨m.lists, now⟩, .size (there lt).length)

end TenantMap

end Tarka.Shared.EntityLists
