import Mathlib.Logic.Function.Basic
import Tarka.Json.Python
import Tarka.Orchestrator.Lifecycle
import Tarka.Lib.Affix
import Tarka.Lib.Steps

/-! # The workers of the outbox

`models/outbox.py` and `workers/outbox_processor.py`. A worker claims a batch of tasks in one
transaction and then takes them one by one: it takes the lock of the task in Redis, starts the
handler, and records how it ended. A task that another worker is at is given back. A claim that is
older than ten minutes is taken for the claim of a worker that has died.

Any number of workers run side by side with any delays, so each of these steps is one of its own
(`step`). Times are microseconds. Redis answers, and its locks expire on time; a transaction that
records an end may fail (`fault`). `step_effect` says once what a step can do. -/

namespace Tarka.Orchestrator.Outbox

open Tarka.Lib Tarka.Lib.Steps Tarka.Json Tarka.Orchestrator List

/-! ## Tasks -/

inductive OutboxStatus where
  | pending
  | processing
  | completed
  | failed
  deriving DecidableEq

/-- `OUTBOX_RECLAIM_SECONDS`, in microseconds. -/
def outboxReclaim : Nat := 600 * 1000000

/-- `OUTBOX_LOCK_TTL_SEC`, in microseconds. -/
def outboxLockTtl : Nat := 600 * 1000000

/-- `claimed_at < now - age`. -/
def isOlder (age now claimedAt : Nat) : Bool := decide (claimedAt + age < now)

variable {now : Nat}

theorem isOlder_of_le {age later claimedAt : Nat} (hle : now ≤ later)
    (h : isOlder age later claimedAt = false) : isOlder age now claimedAt = false := by
  rw [isOlder, decide_eq_false_iff_not] at h ⊢
  omega

/-- A row of `tarka_outbox`. -/
structure Task extends OutboxRow where
  id : UuidText
  status : OutboxStatus
  retryCount : Nat
  maxRetries : Nat
  lastError : Option String
  claimedAt : Option Nat
  createdAt : Nat
  processedAt : Option Nat

/-- The row that `create_task` inserts. -/
def Task.created (row : OutboxRow) (id : UuidText) (now : Nat) : Task where
  toOutboxRow := row
  id := id
  status := .pending
  retryCount := 0
  maxRetries := 5
  lastError := none
  claimedAt := none
  createdAt := now
  processedAt := none

namespace Task

/-- The condition of `fetch_pending_tasks`. -/
def isClaimable (now : Nat) (t : Task) : Bool :=
  t.status == .pending || (t.status == .failed && decide (t.retryCount < t.maxRetries))
    || (t.status == .processing && t.claimedAt.elim true (isOlder outboxReclaim now))

def markProcessing (now : Nat) (t : Task) : Task :=
  { t with status := .processing, claimedAt := some now }

/-- The values of `mark_completed`. -/
def markCompleted (now : Nat) (note : Option String) (t : Task) : Task :=
  { t with
    status := .completed
    processedAt := some now
    claimedAt := none
    lastError :=
      note.elim t.lastError (fun n => if n.isEmpty then t.lastError else some (cut 8192 n)) }

/-- The values of `mark_failed`. -/
def markFailed (msg : String) (t : Task) : Task :=
  { t with status := .failed, retryCount := t.retryCount + 1, lastError := some (cut 8192 msg) }

/-- The update of `release_task_claim`, which looks at the status. -/
def releaseClaim (t : Task) : Task :=
  if t.status = .processing then { t with status := .pending } else t

end Task

/-- PostgreSQL stores no text with a NUL character. -/
def isStorable (text : String) : Bool := !text.toList.contains (Char.ofNat 0)

/-- `mark_completed`; `none` is an exception. -/
def recordSuccess (now : Nat) (note : Option String) : Option (Task → Task) :=
  if note.elim true (fun n => isStorable (cut 8192 n)) then some (Task.markCompleted now note)
  else none

/-- `mark_failed`; `none` is an exception: the `ValueError` of an empty message, or a text that the
database refuses. -/
def recordFailure (errorMsg : String) : Option (Task → Task) :=
  let msg := strip errorMsg
  if msg.isEmpty then none
  else if isStorable (cut 8192 msg) then some (Task.markFailed msg) else none

/-- `UPDATE … WHERE id = task_id`. -/
def updateTask (rows : List Task) (id : UuidText) (f : Task → Task) : List Task :=
  rows.map (fun t => if t.id = id then f t else t)

/-- `fetch_pending_tasks`, past the rows that other transactions hold. -/
def fetchPendingTasks (rows : List Task) (now batchSize : Nat) (locked : List UuidText) :
    List Task :=
  ((rows.filter (fun t => t.isClaimable now && decide (t.id ∉ locked))).insertionSort
    (fun a b => a.createdAt ≤ b.createdAt)).take batchSize

/-- The rows when a batch is claimed: `mark_processing` of each of its tasks. -/
def claimRows (rows : List Task) (now : Nat) (pending : List Task) : List Task :=
  pending.foldl (fun rows t => updateTask rows t.id (Task.markProcessing now)) rows

/-! ## Handlers -/

/-- How a handler ends: with a note, or with an exception whose text is known. -/
inductive Ending where
  | returns (note : Option String)
  | raises (text : String)
  deriving DecidableEq

/-- The keys of `TASK_HANDLERS`. -/
def taskHandlers : List String :=
  ["GRAPH_INGEST", "VELOCITY_UPDATE", "LABEL_PROPAGATE", "SHADOW_RETRO_TAG"]

/-- `resolve_outbox_handler` finds a handler. -/
def isHandled (eventType : String) : Bool := strip eventType ∈ taskHandlers

/-- What the workers are set up with. -/
structure Env where
  batchSize : Nat
  redisConfigured : Bool
  text : PyText

/-- The text of the `OutboxRoutingError`. -/
def routingError (env : Env) (eventType : String) : String :=
  "no handler registered for event_type=" ++ env.text.reprStr (strip eventType)

def outboxLockKey (idempotencyKey : String) : String := "outbox_lock:" ++ strip idempotencyKey

/-! ## Workers side by side -/

/-- Where a worker is with the task in front of it. -/
inductive Stage where
  | queued
  /-- Past the lock, which may not be needed. -/
  | locked (lockAcquired : Bool)
  | running (lockAcquired : Bool)
  /-- An exception has been raised, and the lock is released next. -/
  | raised (error : String) (lockAcquired : Bool)
  /-- The lock was held: the claim is given back next. -/
  | skipped
  | failed (error : String)
  | succeeded (note : Option String)
  deriving DecidableEq

inductive Worker where
  | idle
  | busy (task : Task) (rest : List Task) (stage : Stage)

namespace Worker

/-- The tasks a worker has claimed and not dealt with. -/
def held : Worker → List Task
  | idle => []
  | busy task rest _ => task :: rest

def next : List Task → Worker
  | [] => idle
  | task :: rest => busy task rest .queued

@[simp] theorem held_next (tasks : List Task) : (next tasks).held = tasks := by
  cases tasks <;> rfl

end Worker

/-- A pass over a task behind its lock: whether the handler was started, or there was none. -/
structure Attempt where
  id : UuidText
  handlerStarted : Bool
  deriving DecidableEq

structure State (ι : Type) where
  clock : Nat
  rows : List Task
  /-- When the locks of Redis expire. -/
  locks : String → Option Nat
  worker : ι → Worker
  attempts : List Attempt

inductive Action (ι : Type) where
  /-- Another part of the orchestrator inserts a task. -/
  | create (row : OutboxRow) (id : UuidText)
  | tick (micros : Nat)
  | claim (w : ι) (locked : List UuidText)
  | lock (w : ι)
  | route (w : ι)
  | finish (w : ι) (ending : Ending)
  | unlock (w : ι)
  | release (w : ι) (fault : Bool)
  | finalize (w : ι) (fault : Bool)

def State.starts {ι : Type} (s : State ι) (id : UuidText) : Nat := s.attempts.count ⟨id, true⟩

def State.isLocked {ι : Type} (s : State ι) (key : String) : Bool :=
  (s.locks key).elim false (fun expiry => decide (s.clock < expiry))

def State.setLock {ι : Type} (s : State ι) (key : String) (expiry : Option Nat) : State ι :=
  { s with locks := Function.update s.locks key expiry }

def Ending.stage (lockAcquired : Bool) : Ending → Stage
  | returns note => .succeeded note
  | raises text => .raised text lockAcquired

def Stage.record (now : Nat) : Stage → Option (Task → Task)
  | failed error => recordFailure error
  | succeeded note => recordSuccess now note
  | _ => none

section

variable {ι : Type} [DecidableEq ι] (env : Env)

def State.goto (s : State ι) (w : ι) (worker : Worker) : State ι :=
  { s with worker := Function.update s.worker w worker }

def State.leave (s : State ι) (w : ι) (task : Task) (rest : List Task) (f : Task → Task) :
    State ι :=
  { s with rows := updateTask s.rows task.id f }.goto w (Worker.next rest)

def step (s : State ι) : Action ι → Option (State ι)
  | .create row id =>
    if s.rows.any (fun t => t.id == id || t.idempotencyKey == row.idempotencyKey) then none
    else some { s with rows := s.rows ++ [Task.created row id s.clock] }
  | .tick micros => some { s with clock := s.clock + micros }
  | .claim w locked =>
    match s.worker w with
    | .idle =>
      -- `claim_pending_batch` is one transaction
      let pending := fetchPendingTasks s.rows s.clock env.batchSize locked
      some ({ s with rows := claimRows s.rows s.clock pending }.goto w
        (Worker.next (pending.map (Task.markProcessing s.clock))))
    | _ => none
  | .lock w =>
    match s.worker w with
    | .busy task rest .queued =>
      let key := outboxLockKey task.idempotencyKey
      if env.redisConfigured && !(strip task.idempotencyKey).isEmpty then
        if s.isLocked key then some (s.goto w (.busy task rest .skipped))
        else some ((s.setLock key (some (s.clock + outboxLockTtl))).goto w
          (.busy task rest (.locked true)))
      else some (s.goto w (.busy task rest (.locked false)))
    | _ => none
  | .route w =>
    match s.worker w with
    | .busy task rest (.locked lockAcquired) =>
      if isHandled task.eventType then
        some ({ s with attempts := s.attempts ++ [Attempt.mk task.id true] }.goto w
          (.busy task rest (.running lockAcquired)))
      else
        some ({ s with attempts := s.attempts ++ [Attempt.mk task.id false] }.goto w
          (.busy task rest (.raised (routingError env task.eventType) lockAcquired)))
    | _ => none
  | .finish w ending =>
    match s.worker w with
    | .busy task rest (.running lockAcquired) =>
      some (s.goto w (.busy task rest (ending.stage lockAcquired)))
    | _ => none
  | .unlock w =>
    match s.worker w with
    | .busy task rest (.raised error lockAcquired) =>
      let unlocked :=
        if lockAcquired then s.setLock (outboxLockKey task.idempotencyKey) none else s
      some (unlocked.goto w (.busy task rest (.failed error)))
    | _ => none
  | .release w fault =>
    match s.worker w with
    | .busy task rest .skipped =>
      some (s.leave w task rest (if fault then id else Task.releaseClaim))
    | _ => none
  | .finalize w fault =>
    match s.worker w with
    | .busy task rest (.failed error) =>
      some (s.leave w task rest (if fault then id else (recordFailure error).getD id))
    | .busy task rest (.succeeded note) =>
      some (s.leave w task rest (if fault then id else (recordSuccess s.clock note).getD id))
    | _ => none

end

/-! ## What a step can do -/

/-- A step of a worker that keeps its task: the stages, and the attempt that is logged. -/
inductive Moves {ι : Type} (env : Env) (w : ι) (task : Task) :
    Action ι → Stage → Stage → Option Bool → Prop
  | locked (lockAcquired : Bool) : Moves env w task (.lock w) .queued (.locked lockAcquired) none
  | skipped : Moves env w task (.lock w) .queued .skipped none
  | started (lockAcquired : Bool) (hhandled : isHandled task.eventType = true) :
      Moves env w task (.route w) (.locked lockAcquired) (.running lockAcquired) (some true)
  | misrouted (lockAcquired : Bool) (hhandled : isHandled task.eventType = false) :
      Moves env w task (.route w) (.locked lockAcquired)
        (.raised (routingError env task.eventType) lockAcquired) (some false)
  | finished (lockAcquired : Bool) (ending : Ending) :
      Moves env w task (.finish w ending) (.running lockAcquired) (ending.stage lockAcquired) none
  | unlocked (error : String) (lockAcquired : Bool) :
      Moves env w task (.unlock w) (.raised error lockAcquired) (.failed error) none

/-- A step of a worker that leaves its task: the stage, and the update of the row. -/
inductive Drops {ι : Type} (now : Nat) (w : ι) : Action ι → Stage → (Task → Task) → Prop
  | released (fault : Bool) :
      Drops now w (.release w fault) .skipped (if fault then id else Task.releaseClaim)
  | recorded (fault : Bool) (stage : Stage)
      (hstage : (∃ error, stage = .failed error) ∨ ∃ note, stage = .succeeded note) :
      Drops now w (.finalize w fault) stage (if fault then id else (stage.record now).getD id)

def State.log {ι : Type} (s : State ι) (id : UuidText) (logged : Option Bool)
    (locks : String → Option Nat) : State ι :=
  { s with
    locks := locks
    attempts := s.attempts ++ logged.elim [] (fun started => [⟨id, started⟩]) }

/-- The effect of one step. -/
inductive Effect {ι : Type} [DecidableEq ι] (env : Env) (s : State ι) :
    Action ι → State ι → Prop
  | created (row : OutboxRow) (id : UuidText) (hfresh : ∀ t ∈ s.rows, t.id ≠ id) :
      Effect env s (.create row id) { s with rows := s.rows ++ [Task.created row id s.clock] }
  | ticked (micros : Nat) : Effect env s (.tick micros) { s with clock := s.clock + micros }
  | claimed (w : ι) (locked : List UuidText) (pending : List Task) (hidle : s.worker w = .idle)
      (hpending : pending = fetchPendingTasks s.rows s.clock env.batchSize locked) :
      Effect env s (.claim w locked)
        ({ s with rows := claimRows s.rows s.clock pending }.goto w
          (Worker.next (pending.map (Task.markProcessing s.clock))))
  | moved (a : Action ι) (w : ι) (task : Task) (rest : List Task) (stage stage' : Stage)
      (logged : Option Bool) (locks : String → Option Nat)
      (hbusy : s.worker w = .busy task rest stage)
      (hmoves : Moves env w task a stage stage' logged) :
      Effect env s a ((s.log task.id logged locks).goto w (.busy task rest stage'))
  | dropped (a : Action ι) (w : ι) (task : Task) (rest : List Task) (stage : Stage)
      (f : Task → Task) (hbusy : s.worker w = .busy task rest stage)
      (hdrops : Drops s.clock w a stage f) : Effect env s a (s.leave w task rest f)

section

variable {ι : Type} [DecidableEq ι] {env : Env} {s s' : State ι} {a : Action ι} {stage : Stage}

theorem Effect.of_quiet {w : ι} {task : Task} {rest : List Task} {stage' : Stage}
    {locks : String → Option Nat} (hbusy : s.worker w = .busy task rest stage)
    (hmoves : Moves env w task a stage stage' none) :
    Effect env s a ({ s with locks := locks }.goto w (.busy task rest stage')) := by
  have h : Effect env s a _ := Effect.moved a w task rest stage stage' none locks hbusy hmoves
  rwa [State.log, Option.elim_none, append_nil] at h

theorem step_effect (hstep : step env s a = some s') : Effect env s a s' := by
  cases a with
  | create row id =>
    simp only [step, Option.ite_none_left_eq_some, Option.some.injEq] at hstep
    obtain ⟨hnone, rfl⟩ := hstep
    refine .created row id ?_
    intro t ht heq
    exact hnone (any_eq_true.mpr ⟨t, ht, by simp [heq]⟩)
  | tick micros =>
    cases hstep
    exact .ticked micros
  | claim w locked =>
    simp only [step] at hstep
    split at hstep
    · rename_i hidle
      cases hstep
      exact .claimed w locked _ hidle rfl
    · cases hstep
  | lock w =>
    simp only [step] at hstep
    split at hstep
    · rename_i task rest hbusy
      split at hstep
      · split at hstep
        · cases hstep
          exact .of_quiet hbusy .skipped
        · cases hstep
          exact .of_quiet hbusy (.locked true)
      · cases hstep
        exact .of_quiet hbusy (.locked false)
    · cases hstep
  | route w =>
    simp only [step] at hstep
    split at hstep
    · rename_i task rest lockAcquired hbusy
      split at hstep
      · rename_i hhandled
        cases hstep
        exact .moved _ w task rest _ _ (some true) s.locks hbusy (.started lockAcquired hhandled)
      · rename_i hhandled
        cases hstep
        exact .moved _ w task rest _ _ (some false) s.locks hbusy
          (.misrouted lockAcquired (Bool.not_eq_true _ ▸ hhandled))
    · cases hstep
  | finish w ending =>
    simp only [step] at hstep
    split at hstep
    · rename_i task rest lockAcquired hbusy
      cases hstep
      exact .of_quiet hbusy (.finished lockAcquired ending)
    · cases hstep
  | unlock w =>
    simp only [step] at hstep
    split at hstep
    · rename_i task rest error lockAcquired hbusy
      cases hstep
      cases lockAcquired with
      | false => exact .of_quiet hbusy (.unlocked error false)
      | true => exact .of_quiet hbusy (.unlocked error true)
    · cases hstep
  | release w fault =>
    simp only [step] at hstep
    split at hstep
    · rename_i task rest hbusy
      cases hstep
      exact .dropped _ w task rest _ _ hbusy (.released fault)
    · cases hstep
  | finalize w fault =>
    simp only [step] at hstep
    split at hstep
    · rename_i task rest error hbusy
      cases hstep
      exact .dropped _ w task rest _ _ hbusy (.recorded fault _ (.inl ⟨error, rfl⟩))
    · rename_i task rest note hbusy
      cases hstep
      exact .dropped _ w task rest _ _ hbusy (.recorded fault _ (.inr ⟨note, rfl⟩))
    · cases hstep

/-! ## Workers and rows after a step -/

variable (s : State ι)

@[simp] theorem goto_worker_self (w : ι) (x : Worker) : (s.goto w x).worker w = x := by
  simp [State.goto]

theorem goto_worker_ne {v w : ι} (x : Worker) (h : v ≠ w) :
    (s.goto w x).worker v = s.worker v := by
  simp [State.goto, h]

theorem held_goto (v w : ι) (x : Worker) :
    ((s.goto w x).worker v).held = if v = w then x.held else (s.worker v).held := by
  split_ifs with h
  · rw [h, goto_worker_self]
  · rw [goto_worker_ne s x h]

end

variable {rows : List Task} {f : Task → Task} {t : Task} {id : UuidText}

theorem mem_updateTask :
    t ∈ updateTask rows id f ↔ ∃ r ∈ rows, t = if r.id = id then f r else r := by
  simp only [updateTask, mem_map, eq_comm]

theorem map_id_updateTask (hf : ∀ t, (f t).id = t.id) :
    (updateTask rows id f).map Task.id = rows.map Task.id := by
  rw [updateTask, map_map]
  refine map_congr_left ?_
  intro t _
  by_cases h : t.id = id
  · simp [h, hf]
  · simp [h]

theorem claimRows_eq_map (now : Nat) (pending rows : List Task) :
    claimRows rows now pending
      = rows.map (fun r => if r.id ∈ pending.map Task.id then r.markProcessing now else r) := by
  rw [claimRows]
  induction pending generalizing rows with
  | nil => simp
  | cons t pending ih =>
    rw [foldl_cons, ih, updateTask, map_map]
    refine map_congr_left ?_
    intro r _
    -- stamping twice at one time is stamping once
    by_cases ht : r.id = t.id
    · by_cases hp : t.id ∈ pending.map Task.id <;> simp [ht, hp, Task.markProcessing]
    · simp [ht]

variable {batchSize : Nat} {locked : List UuidText}

/-- What is fetched is claimable and in the table, and no id occurs twice. -/
theorem mem_fetchPendingTasks (h : t ∈ fetchPendingTasks rows now batchSize locked) :
    t ∈ rows ∧ t.isClaimable now = true := by
  have hsorted := mem_of_mem_take h
  rw [mem_insertionSort, mem_filter] at hsorted
  simp only [Bool.and_eq_true] at hsorted
  exact ⟨hsorted.1, hsorted.2.1⟩

theorem nodup_fetchPendingTasks (h : (rows.map Task.id).Nodup) (now batchSize : Nat)
    (locked : List UuidText) :
    ((fetchPendingTasks rows now batchSize locked).map Task.id).Nodup := by
  have hfilter : ((rows.filter (fun t => t.isClaimable now && decide (t.id ∉ locked))).map
      Task.id).Nodup := h.sublist (filter_sublist.map _)
  have hsorted := ((perm_insertionSort (fun a b : Task => a.createdAt ≤ b.createdAt)
    (rows.filter (fun t => t.isClaimable now && decide (t.id ∉ locked)))).map Task.id).nodup_iff.mpr
      hfilter
  exact hsorted.sublist ((take_sublist _ _).map _)

theorem Drops.spec {ι : Type} {w : ι} {a : Action ι} (h : Drops now w a stage f) (t : Task) :
    (f t).id = t.id ∧ (f t).maxRetries = t.maxRetries ∧ (f t).eventType = t.eventType
      ∧ ((f t).retryCount = t.retryCount ∨ ((f t).retryCount = t.retryCount + 1
        ∧ (f t).status = .failed)) := by
  cases h with
  | released fault =>
    cases fault with
    | true => exact ⟨rfl, rfl, rfl, .inl rfl⟩
    | false =>
      by_cases hp : t.status = .processing <;> simp [Task.releaseClaim, hp]
  | recorded fault stage hstage =>
    cases fault with
    | true => exact ⟨rfl, rfl, rfl, .inl rfl⟩
    | false =>
      obtain ⟨error, rfl⟩ | ⟨note, rfl⟩ := hstage
      · simp only [Stage.record, recordFailure, Bool.false_eq_true, if_false]
        split
        · exact ⟨rfl, rfl, rfl, .inl rfl⟩
        · split
          · exact ⟨rfl, rfl, rfl, .inr ⟨rfl, rfl⟩⟩
          · exact ⟨rfl, rfl, rfl, .inl rfl⟩
      · simp only [Stage.record, recordSuccess, Bool.false_eq_true, if_false]
        split <;> exact ⟨rfl, rfl, rfl, .inl rfl⟩

variable {r : Task}

theorem mem_updateTask_of_ne (hr : r ∈ rows) (hne : r.id ≠ id) : r ∈ updateTask rows id f :=
  mem_updateTask.mpr ⟨r, hr, by rw [if_neg hne]⟩

/-- A row that is not claimable stays as it is when a batch is claimed. -/
theorem mem_claimRows_of_not_claimable (hids : (rows.map Task.id).Nodup)
    (hr : r ∈ rows) (hnot : r.isClaimable now = false) :
    r ∈ claimRows rows now (fetchPendingTasks rows now batchSize locked) := by
  rw [claimRows_eq_map]
  refine mem_map.mpr ⟨r, hr, if_neg ?_⟩
  intro hmem
  obtain ⟨p, hp, hid⟩ := mem_map.mp hmem
  obtain ⟨hrows, hclaimable⟩ := mem_fetchPendingTasks hp
  obtain rfl : p = r := inj_on_of_nodup_map hids hrows hr hid
  rw [hnot] at hclaimable
  exact Bool.false_ne_true hclaimable

/-- No worker starts, gives back or records the task in this step. -/
def Apart {ι : Type} (id : UuidText) (s : State ι) : Action ι → Prop
  | .route w | .release w _ | .finalize w _ => ∀ t ∈ (s.worker w).held.head?, id ≠ t.id
  | _ => True

/-- A row that is not claimable is left alone by a step apart from it. -/
theorem step_apart {ι : Type} [DecidableEq ι] {env : Env} {s s' : State ι} {a : Action ι}
    (hstep : step env s a = some s') (hids : (s.rows.map Task.id).Nodup) (hr : r ∈ s.rows)
    (hnot : r.isClaimable s.clock = false) (hapart : Apart r.id s a) :
    r ∈ s'.rows ∧ s'.starts r.id = s.starts r.id := by
  cases step_effect hstep with
  | created row id hfresh => exact ⟨mem_append_left _ hr, rfl⟩
  | ticked micros => exact ⟨hr, rfl⟩
  | claimed w locked pending hidle hpending =>
    refine ⟨?_, rfl⟩
    rw [hpending]
    exact mem_claimRows_of_not_claimable hids hr hnot
  | moved _ w task rest stage stage' logged locks hbusy hmoves =>
    refine ⟨hr, ?_⟩
    rw [State.starts, State.starts, State.goto, State.log, count_append]
    cases logged with
    | none => rfl
    | some started =>
      have hid : r.id ≠ task.id := by
        cases hmoves with
        | started lockAcquired hhandled => exact hapart task (by rw [hbusy]; rfl)
        | misrouted lockAcquired hhandled => exact hapart task (by rw [hbusy]; rfl)
      simp [hid.symm]
  | dropped _ w task rest stage f hbusy hdrops =>
    have hid : r.id ≠ task.id := by
      cases hdrops with
      | released fault => exact hapart task (by rw [hbusy]; rfl)
      | recorded fault stage hstage => exact hapart task (by rw [hbusy]; rfl)
    exact ⟨mem_updateTask_of_ne hr hid, rfl⟩

theorem mem_claimRows_of_mem {pending : List Task} {p : Task} (hp : p ∈ pending)
    (hrow : p ∈ rows) : p.markProcessing now ∈ claimRows rows now pending := by
  rw [claimRows_eq_map]
  exact mem_map.mpr ⟨p, hrow, if_pos (mem_map_of_mem hp)⟩

theorem map_id_claimRows (rows : List Task) (now : Nat) (pending : List Task) :
    (claimRows rows now pending).map Task.id = rows.map Task.id := by
  rw [claimRows_eq_map, map_map]
  refine map_congr_left ?_
  intro r _
  by_cases h : r.id ∈ pending.map Task.id <;> simp only [Function.comp_apply, h, if_true, if_false]
  rfl

theorem mem_claimRows (hids : (rows.map Task.id).Nodup)
    (h : r ∈ claimRows rows now (fetchPendingTasks rows now batchSize locked)) :
    r ∈ rows ∨ ∃ p ∈ rows, p.isClaimable now ∧ r = p.markProcessing now := by
  rw [claimRows_eq_map] at h
  obtain ⟨q, hq, rfl⟩ := mem_map.mp h
  by_cases hmem : q.id ∈ (fetchPendingTasks rows now batchSize locked).map Task.id
  · obtain ⟨p, hp, hid⟩ := mem_map.mp hmem
    obtain ⟨hrows, hclaimable⟩ := mem_fetchPendingTasks hp
    obtain rfl : p = q := inj_on_of_nodup_map hids hrows hq hid
    rw [if_pos hmem]
    exact .inr ⟨p, hq, hclaimable, rfl⟩
  · rw [if_neg hmem]
    exact .inl hq

theorem nodup_map_id_append (h : (rows.map Task.id).Nodup) (hfresh : ∀ r ∈ rows, r.id ≠ t.id) :
    ((rows ++ [t]).map Task.id).Nodup := by
  rw [map_append, nodup_append]
  refine ⟨h, nodup_singleton _, ?_⟩
  intro x hx y hy
  obtain ⟨r, hr, rfl⟩ := mem_map.mp hx
  rw [map_singleton, mem_singleton] at hy
  rw [hy]
  exact hfresh r hr

end Tarka.Orchestrator.Outbox
