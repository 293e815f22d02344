import Mathlib.Logic.Function.Basic
import Mathlib.Data.List.Range
import Tarka.Ingest.Events
import Tarka.Lib.Steps

/-! # Requests with one idempotency key

`ingest_event` and `ingest_batch` read the key of a request from Redis, publish the events one after
the other if there is no answer under it, and then write their answer. Requests run side by side:
the read, each publish and the write are one step each. A publish may fail, and what it sent may be
stored all the same. Redis is configured and answers, and no key expires.

`positions_nodup_of_calm` says when the key does its work: no request reads it while another one is
between its read and its write, and a request fails only as long as it has published nothing. -/

namespace Tarka.Ingest.Idempotency

open Tarka.Lib Tarka.Lib.Steps Tarka.Json Tarka.Ingest List Option

/-! ## The handler -/

inductive Answer where
  /-- The response; `duplicate` is set when it comes from Redis. -/
  | accepted (response : Response) (duplicate : Bool)
  | httpException (statusCode : Nat) (reasonCodes : List String)
  /-- An exception that nothing catches. -/
  | internalServerError
  deriving DecidableEq

/-- Where a handler is. -/
inductive Phase where
  | received
  /-- An event is published next; others are left, and some results are there. -/
  | publishing (event : EventPayload) (rest : List EventPayload) (results : List Result)
  /-- The response is written to Redis next. -/
  | writing (response : Response)
  | answered (answer : Answer)

namespace Phase

/-- Between a read that found nothing and the write. -/
def active : Phase → Bool
  | publishing _ _ _ | writing _ => true
  | _ => false

/-- How many events a handler has published so far. -/
def progress : Phase → Nat
  | publishing _ _ results => results.length
  | writing response => response.results.length
  | _ => 0

def acceptedIds : Phase → Option (List String)
  | answered (.accepted response _) => some response.ingestIds
  | _ => none

end Phase

/-- A message of the stream: whose it is, which of the request's events, and what was sent. -/
structure Message (ι : Type) where
  request : ι
  position : Nat
  subject : String
  data : List (String × Value)

structure State (ι : Type) where
  /-- The answers in Redis. -/
  cache : String → Option Response
  stream : List (Message ι)
  phase : ι → Phase

/-- How a publish ends: acknowledged, refused, or stored with the acknowledgement lost. -/
inductive Outcome where
  | acknowledged
  | refused
  | lost
  deriving DecidableEq

inductive Action (ι : Type) where
  | read (i : ι)
  | publish (i : ι) (outcome : Outcome)
  | write (i : ι)
  deriving DecidableEq

section

variable {ι : Type} [DecidableEq ι] (cfg : Settings) (host : Host) (req : ι → Request)
  (drawn : ι → Nat → String)

def State.goto (s : State ι) (i : ι) (p : Phase) : State ι :=
  { s with phase := Function.update s.phase i p }

def proceed (r : Request) : List EventPayload → List Result → Phase
  | event :: rest, results => .publishing event rest results
  | [], results =>
    match r.key cfg host with
    | some _ => .writing ⟨r.isBatch, results⟩
    | none => .answered (.accepted ⟨r.isBatch, results⟩ false)

def onRead (r : Request) (cache : String → Option Response) : Phase :=
  match r.idem with
  | .error _ => .answered .internalServerError
  | .ok none =>
    if cfg.ingestRequireIdempotencyKey then
      .answered (.httpException 422 ["ingest_idempotency_key_required"])
    else proceed cfg host r r.events []
  | .ok (some idem) =>
    match (cache (r.redisKey cfg host idem)).filter r.isHit with
    | some response => .answered (.accepted response true)
    | none => proceed cfg host r r.events []

def stored (r : Request) (response : Response) (cache : String → Option Response) :
    String → Option Response :=
  (r.key cfg host).elim cache (fun k => Function.update cache k (some response))

def message (i : ι) (event : EventPayload) (position : Nat) : Message ι :=
  ⟨i, position, subjectOf cfg event, messageData event (drawn i position)⟩

def step (s : State ι) : Action ι → Option (State ι)
  | .read i =>
    match s.phase i with
    | .received => some (s.goto i (onRead cfg host (req i) s.cache))
    | _ => none
  | .publish i outcome =>
    match s.phase i with
    | .publishing event rest results =>
      let sent := { s with stream := s.stream ++ [message cfg drawn i event results.length] }
      match outcome with
      | .acknowledged => some (sent.goto i (proceed cfg host (req i) rest
          (results ++ [⟨drawn i results.length, s.stream.length + 1⟩])))
      | .refused => some (s.goto i (.answered .internalServerError))
      | .lost => some (sent.goto i (.answered .internalServerError))
    | _ => none
  | .write i =>
    match s.phase i with
    | .writing response =>
      some ({ s with cache := stored cfg host (req i) response s.cache }.goto i
        (.answered (.accepted response false)))
    | _ => none

def entries (k : String) (s : State ι) : List (Message ι) :=
  s.stream.filter (fun m => (req m.request).key cfg host == some k)

/-- When a step leaves the key `k` in order: nothing reads it while a request of the key is between
its read and its write, and a publish fails only as the first one of its request, without a
trace. -/
def Calm (k : String) (s : State ι) : Action ι → Prop
  | .read i => (req i).key cfg host = some k →
      ∀ j, (req j).key cfg host = some k → (s.phase j).active = false
  | .publish i .refused => (req i).key cfg host = some k → (s.phase i).progress = 0
  | .publish i .lost => (req i).key cfg host ≠ some k
  | _ => True

/-- One of the two endpoints has all the requests of the key. -/
def OneEndpoint (k : String) : Prop :=
  ∀ i j, (req i).key cfg host = some k → (req j).key cfg host = some k →
    (req i).isBatch = (req j).isBatch

/-- Nothing has happened under a key yet. -/
structure Untouched (k : String) (s : State ι) : Prop where
  cache : s.cache k = none
  stream : entries cfg host req k s = []
  phase : ∀ i, (req i).key cfg host = some k → s.phase i = .received

/-! ## What has happened under a key -/

/-- The three stages of a key: no events out, one request under way, an answer in Redis. -/
inductive Stage (k : String) (s : State ι) : Prop where
  | fresh (hcache : s.cache k = none)
      (hentries : (entries cfg host req k s).map Message.position = [])
      (hidle : ∀ j, (req j).key cfg host = some k →
        (s.phase j).active = false ∧ (s.phase j).acceptedIds = none)
  | busy (i : ι) (hkey : (req i).key cfg host = some k) (hcache : s.cache k = none)
      (hactive : (s.phase i).active = true)
      (hresponse : ∀ response, s.phase i = .writing response →
        (req i).isHit response = true ∧ response.isBatch = (req i).isBatch)
      (hentries : (entries cfg host req k s).map Message.position = List.range (s.phase i).progress)
      (hidle : ∀ j, (req j).key cfg host = some k → j ≠ i →
        (s.phase j).active = false ∧ (s.phase j).acceptedIds = none)
  | done (response : Response) (hcache : s.cache k = some response)
      (hhit : ∀ j, (req j).key cfg host = some k → (req j).isHit response = true)
      (hentries : (entries cfg host req k s).map Message.position
        = List.range response.results.length)
      (hidle : ∀ j, (req j).key cfg host = some k → (s.phase j).active = false
        ∧ ∀ ids, (s.phase j).acceptedIds = some ids → ids = response.ingestIds)

end

section

variable {ι : Type} {cfg : Settings} {host : Host} {req : ι → Request} {k : String}
  {s s' : State ι} {i : ι}

theorem entries_append {s : State ι} {m : Message ι}
    (hkey : (req m.request).key cfg host = some k) :
    entries cfg host req k { s with stream := s.stream ++ [m] }
      = entries cfg host req k s ++ [m] := by
  simp [entries, filter_append, hkey]

theorem entries_append_of_ne (s : State ι) (m : Message ι)
    (hkey : (req m.request).key cfg host ≠ some k) :
    entries cfg host req k { s with stream := s.stream ++ [m] } = entries cfg host req k s := by
  simp [entries, filter_append, hkey]

theorem stored_of_ne {r : Request} {response : Response} {cache : String → Option Response}
    (hkey : r.key cfg host ≠ some k) : stored cfg host r response cache k = cache k := by
  cases hk : r.key cfg host with
  | none => simp [stored, hk]
  | some k' =>
    have hne : k ≠ k' := fun heq => hkey (by rw [heq, hk])
    simp [stored, hk, hne]

theorem Untouched.stage (h : Untouched cfg host req k s) : Stage cfg host req k s := by
  refine .fresh h.cache ?_ ?_
  · rw [h.stream, map_nil]
  · intro j hj
    rw [h.phase j hj]
    exact ⟨rfl, rfl⟩

section

variable (h : Stage cfg host req k s)

include h

theorem Stage.frame (hcache : s'.cache k = s.cache k)
    (hentries : entries cfg host req k s' = entries cfg host req k s)
    (hphase : ∀ j, (req j).key cfg host = some k → s'.phase j = s.phase j) :
    Stage cfg host req k s' := by
  cases h with
  | fresh hc he hi =>
    refine .fresh (hcache.trans hc) (hentries ▸ he) ?_
    intro j hj
    rw [hphase j hj]
    exact hi j hj
  | busy i hkey hc ha hr he hi =>
    refine .busy i hkey (hcache.trans hc) ?_ ?_ ?_ ?_
    · rw [hphase i hkey, ha]
    · rw [hphase i hkey]
      exact hr
    · rw [hentries, hphase i hkey, he]
    · intro j hj hne
      rw [hphase j hj]
      exact hi j hj hne
  | done response hc hh he hi =>
    refine .done response (hcache.trans hc) hh (hentries ▸ he) ?_
    intro j hj
    rw [hphase j hj]
    exact hi j hj

/-- The request that is under way is the only one that can take a step of its own. -/
theorem Stage.busy_of_active (hkey : (req i).key cfg host = some k)
    (hactive : (s.phase i).active) :
    s.cache k = none
      ∧ (∀ response, s.phase i = .writing response →
          (req i).isHit response ∧ response.isBatch = (req i).isBatch)
      ∧ (entries cfg host req k s).map Message.position = List.range (s.phase i).progress
      ∧ ∀ j, (req j).key cfg host = some k → j ≠ i →
          (s.phase j).active = false ∧ (s.phase j).acceptedIds = none := by
  cases h with
  | fresh hc he hi => exact absurd hactive (by simp [(hi i hkey).1])
  | busy i' hkey' hc ha hr he hi =>
    obtain rfl : i = i' := by
      by_contra hne
      exact absurd hactive (by simp [(hi i hkey hne).1])
    exact ⟨hc, hr, he, hi⟩
  | done response hc hh he hi => exact absurd hactive (by simp [(hi i hkey).1])

/-- The stages say that no position was sent twice and that all answers are the same. -/
theorem Stage.published_once :
    ((entries cfg host req k s).map Message.position).Nodup
      ∧ ∀ i j ids ids', (req i).key cfg host = some k → (req j).key cfg host = some k →
          (s.phase i).acceptedIds = some ids → (s.phase j).acceptedIds = some ids' →
            ids = ids' := by
  cases h with
  | fresh hc he hi =>
    refine ⟨by rw [he]; exact nodup_nil, ?_⟩
    intro i j ids ids' hki _ hids _
    rw [(hi i hki).2] at hids
    cases hids
  | busy i hkey hc ha hr he hi =>
    refine ⟨by rw [he]; exact nodup_range, ?_⟩
    have hnone : ∀ j, (req j).key cfg host = some k → (s.phase j).acceptedIds = none := by
      intro j hj
      by_cases hne : j = i
      · subst hne
        cases hp : s.phase j with
        | received | publishing event rest results | writing response => rfl
        | answered answer => simp [hp, Phase.active] at ha
      · exact (hi j hj hne).2
    intro i' j ids ids' hki _ hids _
    rw [hnone i' hki] at hids
    cases hids
  | done response hc hh he hi =>
    refine ⟨by rw [he]; exact nodup_range, ?_⟩
    intro i j ids ids' hki hkj hids hids'
    rw [(hi i hki).2 ids hids, (hi j hkj).2 ids' hids']

end

theorem proceed_of_key (hkey : (req i).key cfg host = some k) (rest : List EventPayload)
    (results : List Result) (hresults : (req i).isBatch = false → rest = [] → results ≠ []) :
    (proceed cfg host (req i) rest results).active
      ∧ (proceed cfg host (req i) rest results).progress = results.length
      ∧ ∀ response, proceed cfg host (req i) rest results = .writing response →
          (req i).isHit response ∧ response.isBatch = (req i).isBatch := by
  cases rest with
  | cons event rest =>
    refine ⟨rfl, rfl, ?_⟩
    intro response hresponse
    simp [proceed] at hresponse
  | nil =>
    simp only [proceed, hkey]
    refine ⟨rfl, rfl, ?_⟩
    intro response hresponse
    injection hresponse with hresponse
    subst hresponse
    exact ⟨isHit_of_isBatch rfl (fun hb => hresults hb rfl), rfl⟩

theorem events_ne_nil {r : Request} (h : r.isBatch = false) : r.events ≠ [] := by
  cases r with
  | event header body => simp [Request.events]
  | batch header body events => simp [Request.isBatch] at h

end

section

variable {ι : Type} [DecidableEq ι] {cfg : Settings} {host : Host} {req : ι → Request}
  {drawn : ι → Nat → String} {k : String} {s s' : State ι} {i : ι}

@[simp] theorem goto_phase_self (s : State ι) (i : ι) (p : Phase) : (s.goto i p).phase i = p := by
  simp [State.goto]

theorem goto_phase_ne (s : State ι) {i j : ι} (p : Phase) (h : j ≠ i) :
    (s.goto i p).phase j = s.phase j := by
  simp [State.goto, h]

@[simp] theorem goto_cache (s : State ι) (i : ι) (p : Phase) : (s.goto i p).cache = s.cache := rfl

@[simp] theorem entries_goto (s : State ι) (p : Phase) :
    entries cfg host req k (s.goto i p) = entries cfg host req k s := rfl

/-! ## Steps under other keys -/

def Action.actor : Action ι → ι
  | .read i | .publish i _ | .write i => i

section

variable (h : Stage cfg host req k s)

include h

variable {a : Action ι}

theorem Stage.step_of_ne (hstep : step cfg host req drawn s a = some s')
    (hkey : (req a.actor).key cfg host ≠ some k) : Stage cfg host req k s' := by
  have hne : ∀ j, (req j).key cfg host = some k → j ≠ a.actor := fun j hj heq => hkey (heq ▸ hj)
  cases a with
  | read i =>
    simp only [step] at hstep
    split at hstep
    · cases hstep
      exact h.frame rfl rfl (fun j hj => goto_phase_ne s _ (hne j hj))
    · cases hstep
  | publish i outcome =>
    simp only [step] at hstep
    split at hstep
    · rename_i event rest results _
      have hsent : entries cfg host req k
          { s with stream := s.stream ++ [message cfg drawn i event results.length] }
            = entries cfg host req k s := entries_append_of_ne s _ hkey
      cases outcome with
      | acknowledged =>
        cases hstep
        exact h.frame rfl hsent (fun j hj => goto_phase_ne _ _ (hne j hj))
      | refused =>
        cases hstep
        exact h.frame rfl rfl (fun j hj => goto_phase_ne _ _ (hne j hj))
      | lost =>
        cases hstep
        exact h.frame rfl hsent (fun j hj => goto_phase_ne _ _ (hne j hj))
    · cases hstep
  | write i =>
    simp only [step] at hstep
    split at hstep
    · cases hstep
      refine h.frame ?_ rfl (fun j hj => goto_phase_ne _ _ (hne j hj))
      -- the write goes to the key of the request, which is another one
      rw [goto_cache]
      exact stored_of_ne hkey
    · cases hstep

/-! ## Steps under the key -/

/-- A read that finds no request under way starts one, or finds the answer. -/
theorem Stage.step_read (hkey : (req i).key cfg host = some k)
    (hcalm : Calm cfg host req k s (.read i))
    (hstep : step cfg host req drawn s (.read i) = some s') : Stage cfg host req k s' := by
  have hquiet := hcalm hkey
  obtain ⟨idem, hidem, hredis⟩ : ∃ idem, (req i).idem = .ok (some idem)
      ∧ (req i).redisKey cfg host idem = k := by
    simp only [Request.key, map_eq_some_iff] at hkey
    obtain ⟨idem, hidem, hredis⟩ := hkey
    refine ⟨idem, ?_, hredis⟩
    cases hi : (req i).idem with
    | error e => simp [hi, Except.toOption] at hidem
    | ok found =>
      have hfound : found = some idem := by simpa [hi, Except.toOption] using hidem
      rw [hfound]
  have hread : s' = s.goto i (onRead cfg host (req i) s.cache) := by
    simp only [step] at hstep
    split at hstep
    · exact (some.inj hstep).symm
    · cases hstep
  subst hread
  cases h with
  | fresh hc he hi =>
    have hphase : onRead cfg host (req i) s.cache = proceed cfg host (req i) (req i).events [] := by
      simp [onRead, hidem, hredis, hc]
    obtain ⟨hactive, hprogress, hresponse⟩ := proceed_of_key hkey (req i).events []
      (fun hb hnil => absurd hnil (events_ne_nil hb))
    rw [hphase]
    refine .busy i hkey hc ?_ ?_ ?_ ?_
    · rw [goto_phase_self, hactive]
    · rw [goto_phase_self]
      exact hresponse
    · rw [goto_phase_self, hprogress, entries_goto, he]
      rfl
    · intro j hj hne
      rw [goto_phase_ne s _ hne]
      exact hi j hj
  | busy i' hkey' hc ha hr he hi =>
    rw [hquiet i' hkey'] at ha
    cases ha
  | done response hc hh he hi =>
    have hphase : onRead cfg host (req i) s.cache = .answered (.accepted response true) := by
      simp [onRead, hidem, hredis, hc, Option.filter, hh i hkey]
    rw [hphase]
    refine .done response hc hh he ?_
    intro j hj
    by_cases hne : j = i
    · subst hne
      rw [goto_phase_self]
      refine ⟨rfl, ?_⟩
      intro ids hids
      exact (some.inj hids).symm
    · rw [goto_phase_ne s _ hne]
      exact hi j hj

theorem Stage.step_publish {outcome : Outcome}
    (hkey : (req i).key cfg host = some k) (hcalm : Calm cfg host req k s (.publish i outcome))
    (hstep : step cfg host req drawn s (.publish i outcome) = some s') :
    Stage cfg host req k s' := by
  simp only [step] at hstep
  split at hstep
  · rename_i event rest results hp
    obtain ⟨hc, hr, he, hi⟩ := h.busy_of_active hkey (by rw [hp]; rfl)
    rw [hp] at he
    cases outcome with
    | acknowledged =>
      obtain ⟨hactive, hprogress, hresponse⟩ := proceed_of_key hkey rest
        (results ++ [⟨drawn i results.length, s.stream.length + 1⟩]) (fun _ _ => by simp)
      cases hstep
      refine .busy i hkey hc ?_ ?_ ?_ ?_
      · rw [goto_phase_self, hactive]
      · rw [goto_phase_self]
        exact hresponse
      · rw [goto_phase_self, hprogress, entries_goto, entries_append hkey, map_append, he,
          length_append, length_singleton, range_succ]
        rfl
      · intro j hj hne
        rw [goto_phase_ne _ _ hne]
        exact hi j hj hne
    | refused =>
      have hnone : results.length = 0 := by
        have := hcalm hkey
        rwa [hp] at this
      cases hstep
      refine .fresh hc ?_ ?_
      · rw [entries_goto, he, Phase.progress, hnone]
        rfl
      · intro j hj
        by_cases hne : j = i
        · subst hne
          rw [goto_phase_self]
          exact ⟨rfl, rfl⟩
        · rw [goto_phase_ne _ _ hne]
          exact hi j hj hne
    | lost => exact absurd hkey hcalm
  · cases hstep

theorem Stage.step_write (hkind : OneEndpoint cfg host req k) (hkey : (req i).key cfg host = some k)
    (hstep : step cfg host req drawn s (.write i) = some s') : Stage cfg host req k s' := by
  simp only [step] at hstep
  split at hstep
  · rename_i response hp
    obtain ⟨_, hr, he, hi⟩ := h.busy_of_active hkey (by rw [hp]; rfl)
    rw [hp] at he
    obtain ⟨hhit, hbatch⟩ := hr response hp
    cases hstep
    refine .done response ?_ ?_ he ?_
    · simp [stored, hkey]
    · intro j hj
      -- a hit is told by the endpoint alone
      have hsame : (req j).isHit response = (req i).isHit response := by
        rw [Request.isHit, Request.isHit, hkind j i hj hkey]
      rw [hsame, hhit]
    · intro j hj
      by_cases hne : j = i
      · subst hne
        rw [goto_phase_self]
        refine ⟨rfl, ?_⟩
        intro ids hids
        exact (some.inj hids).symm
      · rw [goto_phase_ne _ _ hne]
        obtain ⟨hidle, hnone⟩ := hi j hj hne
        refine ⟨hidle, ?_⟩
        intro ids hids
        rw [hnone] at hids
        cases hids
  · cases hstep

theorem Stage.step (hkind : OneEndpoint cfg host req k) (hcalm : Calm cfg host req k s a)
    (hstep : step cfg host req drawn s a = some s') : Stage cfg host req k s' := by
  by_cases hkey : (req a.actor).key cfg host = some k
  · cases a with
    | read i => exact h.step_read hkey hcalm hstep
    | publish i outcome => exact h.step_publish hkey hcalm hstep
    | write i => exact h.step_write hkind hkey hstep
  · exact h.step_of_ne hstep hkey

end

/-- Every run whose steps are calm sends each event under a key at most once, and all accepted
requests of the key answer with the same ids. -/
theorem positions_nodup_of_calm (cfg : Settings) (host : Host) (req : ι → Request)
    (drawn : ι → Nat → String) {k : String} {s₀ s : State ι} {as : List (Action ι)}
    (hkind : OneEndpoint cfg host req k) (hinit : Untouched cfg host req k s₀)
    (hcalm : Meets (step cfg host req drawn) (Calm cfg host req k) s₀ as)
    (hrun : run (step cfg host req drawn) s₀ as = some s) :
    ((entries cfg host req k s).map Message.position).Nodup
      ∧ ∀ i j ids ids', (req i).key cfg host = some k → (req j).key cfg host = some k →
          (s.phase i).acceptedIds = some ids → (s.phase j).acceptedIds = some ids' → ids = ids' :=
  Stage.published_once (invariant_of_run (I := Stage cfg host req k)
    (fun _ _ _ h hcond hstep => h.step hkind hcond hstep) hinit.stage hcalm hrun)

end

/-! ## Two requests of one key -/

namespace Sample

def cfg : Settings := ⟨"fraud.events", "ingest:idemp", false⟩

def host : Host := ⟨fun _ => zeroDigest, fun _ => "0.0", fun s => s⟩

def event (entityId : String) : EventPayload :=
  ⟨"acme", "payment", entityId, none, none, [("amount", .number (.posInt 12))], none, []⟩

def single : Bool → Request := fun _ => .event (some "order-7") (event "e1")

def batch : Bool → Request := fun _ => .batch (some "order-7") none [event "e1", event "e2"]

def drawn : Bool → Nat → String
  | false, n => "a" ++ toString n
  | true, n => "b" ++ toString n

def start : State Bool := ⟨fun _ => none, [], fun _ => .received⟩

def key : String := idempotencyRedisKey cfg host "acme" "order-7"

def inTurn : List (Action Bool) :=
  [.read false, .publish false .refused, .read true, .publish true .acknowledged, .write true]

def afterInTurn : State Bool :=
  (run (step cfg host single drawn) start inTurn).get (by decide +kernel)

instance decidableCalm (req : Bool → Request) (k : String) (s : State Bool) :
    ∀ a, Decidable (Calm cfg host req k s a)
  | .read i => inferInstanceAs (Decidable ((req i).key cfg host = some k →
      ∀ j, (req j).key cfg host = some k → (s.phase j).active = false))
  | .publish i .refused => inferInstanceAs (Decidable ((req i).key cfg host = some k →
      (s.phase i).progress = 0))
  | .publish i .lost => inferInstanceAs (Decidable ((req i).key cfg host ≠ some k))
  | .publish _ .acknowledged => inferInstanceAs (Decidable True)
  | .write _ => inferInstanceAs (Decidable True)

end Sample

open Sample in
theorem retried_event_published_once :
    ((entries cfg host single key afterInTurn).map Message.position).Nodup
      ∧ (entries cfg host single key afterInTurn).map Message.request = [true]
      ∧ (afterInTurn.phase true).acceptedIds = some ["b0"] := by
  have hinit : Untouched cfg host single key start := ⟨rfl, rfl, fun _ _ => rfl⟩
  have hcalm : Meets (step cfg host single drawn) (Calm cfg host single key) start inTurn := by
    decide +kernel
  exact ⟨(positions_nodup_of_calm cfg host single drawn (fun _ _ _ _ => rfl) hinit hcalm
    (eq_some_of_isSome _)).1, by decide +kernel, by decide +kernel⟩

open Sample in
/-- Two requests that both read before either writes publish the event twice and answer with
different ids. A batch whose second event is refused is published from its start again. -/
theorem overlapping_requests_publish_twice :
    (run (step cfg host single drawn) start [.read false, .read true, .publish false .acknowledged,
        .publish true .acknowledged, .write false, .write true]).map (fun s =>
          (s.stream.map (fun m => (m.request, m.position)), (s.phase false).acceptedIds,
            (s.phase true).acceptedIds))
      = some ([(false, 0), (true, 0)], some ["a0"], some ["b0"])
    ∧ (run (step cfg host batch drawn) start [.read false, .publish false .acknowledged,
        .publish false .refused, .read true, .publish true .acknowledged,
        .publish true .acknowledged, .write true]).map (fun s =>
          s.stream.map (fun m => (m.request, m.position)))
      = some [(false, 0), (true, 0), (true, 1)] := by
  constructor <;> decide +kernel

end Tarka.Ingest.Idempotency
