import Mathlib.Logic.Function.Basic
import Mathlib.Data.List.Basic
import Tarka.Orchestrator.Lifecycle
import Tarka.Lib.Steps

/-! # Submissions of operational signals

`create_operational_signal` and `submit_operational_signal` have the same text: a submission takes a
lock in Redis under its idempotency key, stores a signal and a task of the outbox in one
transaction, and answers with the id of the signal. If the key is taken it answers with the signal
that is stored under the key.

Submissions run side by side. Their steps are the lock, the transaction, the search for a stored
signal and the release of the lock. A key of Redis goes away at any time, and the database may fail
around any transaction. Redis and the session factory are configured. -/

namespace Tarka.Orchestrator.OperationalSignals

open Tarka.Lib Tarka.Lib.Steps Tarka.Json Tarka.Orchestrator Option List

/-! ## Tables -/

/-- A row of `operational_signals`. -/
structure SignalRow where
  id : UuidText
  idempotencyKey : String
  targetEntityId : String
  signalType : String
  metadata : List (String × Value)

/-- The two tables that a submission writes. -/
structure Tables where
  signals : List SignalRow
  outbox : List OutboxRow

inductive SignalType where
  | chargebackReceived
  | chargebackReversed
  | refundIssued
  | manualOverride
  | hilContextOverride
  deriving DecidableEq

def SignalType.value : SignalType → String
  | chargebackReceived => "CHARGEBACK_RECEIVED"
  | chargebackReversed => "CHARGEBACK_REVERSED"
  | refundIssued => "REFUND_ISSUED"
  | manualOverride => "MANUAL_OVERRIDE"
  | hilContextOverride => "HIL_CONTEXT_OVERRIDE"

/-- `OperationalSignalCreate`, once it is validated: the characters of `_IDEMPOTENCY_KEY_RE` are
visible. -/
structure SignalCreate where
  idempotencyKey : String
  targetEntityId : UuidText
  signalType : SignalType
  metadata : List (String × Value)
  nonempty : idempotencyKey.isEmpty = false
  short : idempotencyKey.toList.length ≤ 255
  visible : ∀ c ∈ idempotencyKey.toList, 0x20 < c.toNat ∧ c.toNat < 0x7f

/-- A submission: its body, and the id that is drawn for the row. -/
structure Submission where
  body : SignalCreate
  drawnId : UuidText

/-- The settings that the handlers read. -/
structure Settings where
  operationalSignalIdempotencyRedisPrefix : String

/-! ## Exceptions -/

/-- What the steps of a handler raise. -/
inductive Raised where
  /-- The `SQLAlchemyError` of a unique index. -/
  | integrityError
  /-- Any other `SQLAlchemyError`. -/
  | sqlAlchemyError
  | tarkaDatabaseException
  | valueError (message : String)
  deriving DecidableEq

def Raised.isSqlAlchemyError : Raised → Bool
  | integrityError | sqlAlchemyError => true
  | _ => false

/-- Where the database fails around a transaction: not at all, before its commit is carried out, or
after it when the answer to the commit is lost. -/
inductive Fault where
  | none
  | beforeCommit
  | afterCommit
  deriving DecidableEq

/-- `except SQLAlchemyError as exc: raise TarkaDatabaseException(…) from exc`. -/
def Raised.wrapped (e : Raised) : Raised :=
  if e.isSqlAlchemyError then .tarkaDatabaseException else e

/-- `atomic_transaction` around a block: what the block returns or what is raised, and the
tables. -/
def atomicTransaction {α : Type} (tables : Tables) (fault : Fault)
    (block : Tables → Except Raised (α × Tables)) : Except Raised α × Tables :=
  match fault, block tables with
  | .beforeCommit, _ => (.error Raised.sqlAlchemyError.wrapped, tables)
  | _, .error e => (.error e.wrapped, tables)
  | .afterCommit, .ok written => (.error Raised.sqlAlchemyError.wrapped, written.2)
  | .none, .ok written => (.ok written.1, written.2)

/-! ## The lock -/

def idempotencyRedisKey (cfg : Settings) (idempotencyKey : String) : String :=
  cfg.operationalSignalIdempotencyRedisPrefix ++ idempotencyKey

/-- `_normalize_key` of the locks. -/
def normalizeKey (key : String) : Except Raised String :=
  let token := strip key
  if token.isEmpty then .error (.valueError "idempotency key must be a non-empty string")
  else if 512 < token.toList.length then
    .error (.valueError ("idempotency key exceeds 512 characters (got "
      ++ toString token.toList.length ++ ")"))
  else if token.toList.contains (Char.ofNat 0) then
    .error (.valueError "idempotency key must not contain NUL bytes")
  else .ok token

/-- `verify_and_lock_event` on the keys that are there: whether the lock is taken. -/
def verifyAndLockEvent (locks : List String) (key : String) : Except Raised (Bool × List String) :=
  (normalizeKey key).map (fun token =>
    if token ∈ locks then (false, locks) else (true, token :: locks))

def releaseLock (locks : List String) (key : String) : Except Raised (List String) :=
  (normalizeKey key).map (fun token => locks.filter (fun k => k ≠ token))

/-! ## The rows -/

/-- `_normalize_idempotency_key` of the rows. -/
def normalizeIdempotencyKey (idempotencyKey : String) : Except Raised String :=
  let token := strip idempotencyKey
  if token.isEmpty || decide (255 < token.toList.length) then
    .error (.valueError "idempotency_key must be a non-empty string up to 255 characters")
  else .ok token

/-- `OperationalSignalDAO.create`: ids and idempotency keys are unique. -/
def createSignal (tables : Tables) (drawnId : UuidText) (body : SignalCreate) :
    Except Raised (SignalRow × Tables) :=
  (normalizeIdempotencyKey body.idempotencyKey).bind (fun token =>
    if tables.signals.any (fun row => row.idempotencyKey == token || row.id == drawnId) then
      .error .integrityError
    else
      let row : SignalRow :=
        ⟨drawnId, token, body.targetEntityId.text, body.signalType.value, body.metadata⟩
      .ok (row, { tables with signals := tables.signals ++ [row] }))

def shadowRetroOutboxPayload (body : SignalCreate) (signalId : UuidText) : List (String × Value) :=
  [("entity_id", .string body.targetEntityId.text), ("signal_id", .string signalId.text),
    ("metadata", .object body.metadata)]

/-- What `create_task` raises. -/
def taskRaised : RequestError → Raised
  | .invalidValue message => .valueError message
  | _ => .integrityError

def persistOperationalSignalWithShadowRetroTag (submission : Submission) (tables : Tables) :
    Except Raised (SignalRow × Tables) :=
  (createSignal tables submission.drawnId submission.body).bind (fun written =>
    match createTask written.2.outbox "SHADOW_RETRO_TAG"
        ("shadow_tag_ops:" ++ submission.body.idempotencyKey)
        (shadowRetroOutboxPayload submission.body written.1.id) with
    | .error e => .error (taskRaised e)
    | .ok outbox => .ok (written.1, { written.2 with outbox := outbox }))

def fetchExistingEventId (tables : Tables) (idempotencyKey : String) :
    Except Raised (Option UuidText) :=
  (normalizeIdempotencyKey idempotencyKey).map (fun token =>
    (tables.signals.find? (fun row => row.idempotencyKey == token)).map SignalRow.id)

/-! ## The handler -/

inductive Answer where
  /-- `OperationalSignalAcceptedResponse`. -/
  | accepted (eventId : UuidText)
  | httpException (statusCode : Nat) (detail : String)
  /-- An exception that nothing catches. -/
  | internalServerError
  deriving DecidableEq

/-- Where a handler is. -/
inductive Phase where
  | submitted
  /-- The key of the lock was there. -/
  | duplicate
  /-- The lock is taken and the transaction is next. -/
  | locked
  /-- In the branch of `except IntegrityError`. -/
  | conflicted
  /-- The lock is released next, and then the answer is given. -/
  | releasing (answer : Answer)
  | answered (answer : Answer)
  deriving DecidableEq

open Phase

/-- After `verify_and_lock_event`. -/
def onLock : Except Raised Bool → Phase
  | .error _ => .answered .internalServerError
  | .ok true => .locked
  | .ok false => .duplicate

/-- The branch of a lock that is not acquired. -/
def onDuplicate : Except Raised (Option UuidText) → Phase
  | .error _ => .answered .internalServerError
  | .ok (some existingId) => .answered (.accepted existingId)
  | .ok none => .answered (.httpException 409
      "operational signal with this idempotency_key is already in progress")

/-- After the block of `atomic_transaction`: the clauses of the `try`. -/
def onPersist : Except Raised SignalRow → Phase
  | .ok row => .answered (.accepted row.id)
  | .error .integrityError => .conflicted
  | .error .tarkaDatabaseException =>
    .releasing (.httpException 503 "operational signal persistence failed")
  | .error _ => .answered .internalServerError

/-- The branch of `except IntegrityError`. -/
def onConflict : Except Raised (Option UuidText) → Phase
  | .error _ => .answered .internalServerError
  | .ok (some existingId) => .answered (.accepted existingId)
  | .ok none => .releasing (.httpException 409 "operational signal idempotency conflict")

/-! ## Submissions side by side -/

structure State (ι : Type) where
  tables : Tables
  /-- The keys of Redis that hold a lock. -/
  locks : List String
  phase : ι → Phase

inductive Action (ι : Type) where
  | lock (i : ι)
  | persist (i : ι) (fault : Fault)
  | fetch (i : ι)
  | release (i : ι)
  /-- A key of Redis goes away. -/
  | expire (key : String)
  deriving DecidableEq

section

variable {ι : Type} [DecidableEq ι] (cfg : Settings) (req : ι → Submission)

def State.goto (s : State ι) (i : ι) (p : Phase) : State ι :=
  { s with phase := Function.update s.phase i p }

def lockKey (i : ι) : String := idempotencyRedisKey cfg (req i).body.idempotencyKey

def step (s : State ι) : Action ι → Option (State ι)
  | .lock i =>
    if s.phase i = .submitted then
      let taken := verifyAndLockEvent s.locks (lockKey cfg req i)
      some ({ s with locks := taken.toOption.elim s.locks Prod.snd }.goto i
        (onLock (taken.map Prod.fst)))
    else none
  | .persist i fault =>
    if s.phase i = .locked then
      let written := atomicTransaction s.tables fault
        (persistOperationalSignalWithShadowRetroTag (req i))
      some ({ s with tables := written.2 }.goto i (onPersist written.1))
    else none
  | .fetch i =>
    let existing := fetchExistingEventId s.tables (req i).body.idempotencyKey
    if s.phase i = .duplicate then some (s.goto i (onDuplicate existing))
    else if s.phase i = .conflicted then some (s.goto i (onConflict existing))
    else none
  | .release i =>
    match s.phase i with
    | .releasing answer =>
      let released := releaseLock s.locks (lockKey cfg req i)
      some ({ s with locks := released.toOption.getD s.locks }.goto i
        (released.toOption.elim (.answered .internalServerError) (fun _ => .answered answer)))
    | _ => none
  | .expire key => some { s with locks := s.locks.filter (fun k => k ≠ key) }

end

def Phase.stepsLeft : Phase → Nat
  | .submitted => 4
  | .locked => 3
  | .conflicted => 2
  | .duplicate => 1
  | .releasing _ => 1
  | .answered _ => 0

/-! ## What a transaction does to the rows -/

def UniqueKeys (signals : List SignalRow) : Prop :=
  signals.Pairwise (fun a b => a.idempotencyKey ≠ b.idempotencyKey)

theorem UniqueKeys.eq_of_key {signals : List SignalRow} (h : UniqueKeys signals) {a b : SignalRow}
    (ha : a ∈ signals) (hb : b ∈ signals) (hkey : a.idempotencyKey = b.idempotencyKey) : a = b := by
  by_contra hne
  have : Std.Symm (fun a b : SignalRow => a.idempotencyKey ≠ b.idempotencyKey) :=
    ⟨fun _ _ hab => hab.symm⟩
  exact Pairwise.forall h ha hb hne hkey

theorem SignalCreate.strip_key (body : SignalCreate) :
    strip body.idempotencyKey = body.idempotencyKey :=
  strip_eq_self (fun c hc => isStripSpace_ascii (body.visible c hc).1 (body.visible c hc).2)

@[simp] theorem normalizeIdempotencyKey_body (body : SignalCreate) :
    normalizeIdempotencyKey body.idempotencyKey = .ok body.idempotencyKey := by
  have hshort : ¬ 255 < body.idempotencyKey.toList.length := by
    have := body.short
    omega
  simp only [normalizeIdempotencyKey, body.strip_key, body.nonempty, hshort, decide_false,
    Bool.or_self, Bool.false_eq_true, ↓reduceIte]

variable {row : SignalRow} {tables : Tables}

theorem createSignal_of_mem {drawnId : UuidText} {body : SignalCreate}
    (hrow : row ∈ tables.signals) (hkey : row.idempotencyKey = body.idempotencyKey) :
    createSignal tables drawnId body = .error .integrityError := by
  have hany : tables.signals.any
      (fun row => row.idempotencyKey == body.idempotencyKey || row.id == drawnId) := by
    rw [List.any_eq_true]
    exact ⟨row, hrow, by simp [hkey]⟩
  simp [createSignal, normalizeIdempotencyKey_body, Except.bind, hany]

variable {submission : Submission}

theorem persist_eq_ok {tables' : Tables}
    (h : persistOperationalSignalWithShadowRetroTag submission tables = .ok (row, tables')) :
    tables'.signals = tables.signals ++ [row]
      ∧ ∀ r ∈ tables.signals, r.idempotencyKey ≠ row.idempotencyKey := by
  unfold persistOperationalSignalWithShadowRetroTag createSignal at h
  simp only [normalizeIdempotencyKey_body, Except.bind] at h
  by_cases hany : tables.signals.any (fun row =>
      row.idempotencyKey == submission.body.idempotencyKey || row.id == submission.drawnId) = true
  · simp [hany] at h
  · rw [if_neg hany] at h
    have hfresh : ∀ r ∈ tables.signals, r.idempotencyKey ≠ submission.body.idempotencyKey := by
      intro r hr heq
      exact hany (any_eq_true.mpr ⟨r, hr, by simp [heq]⟩)
    dsimp only at h
    split at h
    · cases h
    · injection h with h
      injection h with hrow htables
      subst hrow
      subst htables
      exact ⟨rfl, hfresh⟩

theorem atomicTransaction_signals (fault : Fault) (submission : Submission)
    (h : UniqueKeys tables.signals) :
    UniqueKeys (atomicTransaction tables fault
        (persistOperationalSignalWithShadowRetroTag submission)).2.signals
      ∧ tables.signals ⊆ (atomicTransaction tables fault
        (persistOperationalSignalWithShadowRetroTag submission)).2.signals := by
  -- the tables are the old ones, or those of a block that returned
  have hwritten : ∀ {row : SignalRow} {tables' : Tables},
      persistOperationalSignalWithShadowRetroTag submission tables = .ok (row, tables') →
      UniqueKeys tables'.signals ∧ tables.signals ⊆ tables'.signals := by
    intro row tables' hok
    obtain ⟨hsignals, hfresh⟩ := persist_eq_ok hok
    rw [hsignals]
    refine ⟨pairwise_append.mpr ⟨h, pairwise_singleton _ _, ?_⟩, subset_append_left _ _⟩
    intro a ha b hb
    rw [mem_singleton.mp hb]
    exact hfresh a ha
  unfold atomicTransaction
  split
  · exact ⟨h, Subset.refl _⟩
  · exact ⟨h, Subset.refl _⟩
  · exact hwritten (by assumption)
  · exact hwritten (by assumption)

theorem atomicTransaction_of_mem (fault : Fault)
    (hrow : row ∈ tables.signals) (hkey : row.idempotencyKey = submission.body.idempotencyKey) :
    (atomicTransaction tables fault (persistOperationalSignalWithShadowRetroTag submission)).1
        = .error .tarkaDatabaseException := by
  have hblock : persistOperationalSignalWithShadowRetroTag submission tables
      = .error .integrityError := by
    simp only [persistOperationalSignalWithShadowRetroTag, createSignal_of_mem hrow hkey,
      Except.bind]
  cases fault <;> simp [atomicTransaction, hblock, Raised.wrapped, Raised.isSqlAlchemyError]

theorem fetchExistingEventId_of_mem {body : SignalCreate} (h : UniqueKeys tables.signals)
    (hrow : row ∈ tables.signals) (hkey : row.idempotencyKey = body.idempotencyKey) :
    fetchExistingEventId tables body.idempotencyKey = .ok (some row.id) := by
  have hfind : tables.signals.find? (fun r => r.idempotencyKey == body.idempotencyKey)
      = some row := by
    cases hf : tables.signals.find? (fun r => r.idempotencyKey == body.idempotencyKey) with
    | none =>
      have := find?_eq_none.mp hf row hrow
      simp [hkey] at this
    | some found =>
      have hfound : found.idempotencyKey = body.idempotencyKey := by
        simpa using find?_some hf
      rw [h.eq_of_key (mem_of_find?_eq_some hf) hrow (hfound.trans hkey.symm)]
  simp [fetchExistingEventId, Except.map, hfind]

/-! ## What a step does -/

section

variable {ι : Type} [DecidableEq ι] {cfg : Settings} {req : ι → Submission} {s s' : State ι}
  {a : Action ι} {i : ι}

def Action.by? : Action ι → Option ι
  | .lock i | .persist i _ | .fetch i | .release i => some i
  | .expire _ => none

@[simp] theorem goto_phase_self (s : State ι) (i : ι) (p : Phase) : (s.goto i p).phase i = p := by
  simp [State.goto]

theorem goto_phase_ne (s : State ι) {i j : ι} (p : Phase) (h : i ≠ j) :
    (s.goto j p).phase i = s.phase i := by
  simp [State.goto, h]

@[simp] theorem goto_tables (s : State ι) (i : ι) (p : Phase) :
    (s.goto i p).tables = s.tables := rfl

theorem step_phase_ne (hstep : step cfg req s a = some s') (hne : a.by? ≠ some i) :
    s'.phase i = s.phase i := by
  cases a with
  | lock j =>
    simp only [step, ite_none_right_eq_some, some.injEq] at hstep
    rw [← hstep.2, goto_phase_ne _ _ (fun h => hne (by rw [h]; rfl))]
  | persist j fault =>
    simp only [step, ite_none_right_eq_some, some.injEq] at hstep
    rw [← hstep.2, goto_phase_ne _ _ (fun h => hne (by rw [h]; rfl))]
  | fetch j =>
    have hij : i ≠ j := fun h => hne (by rw [h]; rfl)
    simp only [step] at hstep
    split at hstep
    · rw [← some.inj hstep, goto_phase_ne _ _ hij]
    · simp only [ite_none_right_eq_some, some.injEq] at hstep
      rw [← hstep.2, goto_phase_ne _ _ hij]
  | release j =>
    simp only [step] at hstep
    split at hstep
    · rw [← some.inj hstep, goto_phase_ne _ _ (fun h => hne (by rw [h]; rfl))]
    · cases hstep
  | expire key =>
    rw [← some.inj hstep]

theorem step_tables (hstep : step cfg req s a = some s') :
    s'.tables = s.tables ∨ ∃ j fault, s'.tables = (atomicTransaction s.tables fault
      (persistOperationalSignalWithShadowRetroTag (req j))).2 := by
  cases a with
  | lock j =>
    simp only [step, ite_none_right_eq_some, some.injEq] at hstep
    exact .inl (by rw [← hstep.2, goto_tables])
  | persist j fault =>
    simp only [step, ite_none_right_eq_some, some.injEq] at hstep
    exact .inr ⟨j, fault, by rw [← hstep.2, goto_tables]⟩
  | fetch j =>
    simp only [step] at hstep
    split at hstep
    · exact .inl (by rw [← some.inj hstep, goto_tables])
    · simp only [ite_none_right_eq_some, some.injEq] at hstep
      exact .inl (by rw [← hstep.2, goto_tables])
  | release j =>
    simp only [step] at hstep
    split at hstep
    · exact .inl (by rw [← some.inj hstep, goto_tables])
    · exact absurd hstep (by simp)
  | expire key => exact .inl (by rw [← some.inj hstep])

theorem step_signals (h : UniqueKeys s.tables.signals) (hstep : step cfg req s a = some s') :
    UniqueKeys s'.tables.signals ∧ s.tables.signals ⊆ s'.tables.signals := by
  obtain hsame | ⟨j, fault, hwritten⟩ := step_tables hstep
  · rw [hsame]
    exact ⟨h, Subset.refl _⟩
  · rw [hwritten]
    exact atomicTransaction_signals fault (req j) h

variable {as : List (Action ι)}

theorem uniqueKeys_of_run {s₀ : State ι} (h : UniqueKeys s₀.tables.signals)
    (hrun : run (step cfg req) s₀ as = some s) : UniqueKeys s.tables.signals :=
  invariant_of_run (fun _ _ _ hinv _ hstep => (step_signals hinv hstep).1) h (meets_true _ _) hrun

/-! ## A submission after the row is stored -/

/-- What holds of a submission that was made after a row was stored under its key. -/
structure Behind (row : SignalRow) (allowed : Phase → Prop) (i : ι) (s : State ι) : Prop where
  unique : UniqueKeys s.tables.signals
  stored : row ∈ s.tables.signals
  phase : allowed (s.phase i)

def Answering (row : SignalRow) (p : Phase) : Prop :=
  p = .duplicate ∨ p = .answered (.accepted row.id)

def Refusing (p : Phase) : Prop :=
  p = .locked ∨ (∃ detail, p = .releasing (.httpException 503 detail))
    ∨ (∃ detail, p = .answered (.httpException 503 detail)) ∨ p = .answered .internalServerError

/-- The step of others keeps what holds of a submission, so only its own steps are left to check. -/
theorem behind_of_run {allowed : Phase → Prop} {s₁ s₂ : State ι}
    (hown : ∀ (s : State ι) (a : Action ι) (s' : State ι), Behind row allowed i s → a.by? = some i →
      step cfg req s a = some s' → allowed (s'.phase i))
    (h : Behind row allowed i s₁) (hrun : run (step cfg req) s₁ as = some s₂) :
    Behind row allowed i s₂ := by
  refine invariant_of_run ?_ h (meets_true _ _) hrun
  intro s a s' hinv _ hstep
  obtain ⟨hunique, hsubset⟩ := step_signals hinv.unique hstep
  refine ⟨hunique, hsubset hinv.stored, ?_⟩
  by_cases hby : a.by? = some i
  · exact hown s a s' hinv hby hstep
  · rw [step_phase_ne hstep hby]
    exact hinv.phase

section

variable (hkey : row.idempotencyKey = (req i).body.idempotencyKey)

include hkey

theorem answering_step
    (h : Behind row (Answering row) i s) (hby : a.by? = some i)
    (hstep : step cfg req s a = some s') : Answering row (s'.phase i) := by
  have hphase := h.phase
  cases a with
  | lock j | persist j fault | release j =>
    obtain rfl : j = i := by simpa [Action.by?] using hby
    obtain hp | hp := hphase <;> simp [step, hp] at hstep
  | fetch j =>
    obtain rfl : j = i := by simpa [Action.by?] using hby
    obtain hp | hp := hphase
    · simp only [step, hp, ↓reduceIte, some.injEq] at hstep
      rw [← hstep, goto_phase_self, fetchExistingEventId_of_mem h.unique h.stored hkey]
      exact .inr rfl
    · simp [step, hp] at hstep
  | expire key => simp [Action.by?] at hby

theorem refusing_step
    (h : Behind row Refusing i s) (hby : a.by? = some i) (hstep : step cfg req s a = some s') :
    Refusing (s'.phase i) := by
  have hphase := h.phase
  cases a with
  | lock j | fetch j =>
    obtain rfl : j = i := by simpa [Action.by?] using hby
    obtain hp | ⟨_, hp⟩ | ⟨_, hp⟩ | hp := hphase <;> simp [step, hp] at hstep
  | persist j fault =>
    obtain rfl : j = i := by simpa [Action.by?] using hby
    obtain hp | ⟨_, hp⟩ | ⟨_, hp⟩ | hp := hphase
    · simp only [step, hp, ↓reduceIte, some.injEq] at hstep
      rw [← hstep, goto_phase_self, atomicTransaction_of_mem fault h.stored hkey]
      exact .inr (.inl ⟨_, rfl⟩)
    all_goals simp [step, hp] at hstep
  | release j =>
    obtain rfl : j = i := by simpa [Action.by?] using hby
    obtain hp | ⟨_, hp⟩ | ⟨_, hp⟩ | hp := hphase
    · simp [step, hp] at hstep
    · simp only [step, hp, some.injEq] at hstep
      rw [← hstep, goto_phase_self]
      cases releaseLock s.locks (lockKey cfg req j) with
      | error e => exact .inr (.inr (.inr rfl))
      | ok locks => exact .inr (.inr (.inl ⟨_, rfl⟩))
    all_goals simp [step, hp] at hstep
  | expire key => simp [Action.by?] at hby

end

/-- The lock of the submission is there: its key is one of Redis. -/
def LockPresent (cfg : Settings) (req : ι → Submission) (s : State ι) (i : ι) : Prop :=
  ∃ token, normalizeKey (lockKey cfg req i) = .ok token ∧ token ∈ s.locks

theorem lock_phase (hstep : step cfg req s (.lock i) = some s') :
    s'.tables = s.tables ∧ (LockPresent cfg req s i → s'.phase i = .duplicate)
      ∧ (¬ LockPresent cfg req s i → Refusing (s'.phase i)) := by
  simp only [step, ite_none_right_eq_some, some.injEq] at hstep
  rw [← hstep.2, goto_phase_self, goto_tables]
  refine ⟨rfl, ?_, ?_⟩
  · rintro ⟨token, hnorm, hmem⟩
    simp [verifyAndLockEvent, hnorm, Except.map, hmem, onLock]
  · intro habsent
    cases hnorm : normalizeKey (lockKey cfg req i) with
    | error e =>
      simp only [verifyAndLockEvent, hnorm, Except.map, onLock]
      exact .inr (.inr (.inr rfl))
    | ok token =>
      have hmem : token ∉ s.locks := fun h => habsent ⟨token, hnorm, h⟩
      simp only [verifyAndLockEvent, hnorm, Except.map, if_neg hmem, onLock]
      exact .inl rfl

/-- A handler that has not answered has a next step, and comes closer to its answer with it. -/
theorem exists_next_step (cfg : Settings) (req : ι → Submission) (s : State ι) (i : ι)
    (h : ∀ answer, s.phase i ≠ .answered answer) :
    ∃ a s', a.by? = some i ∧ step cfg req s a = some s'
      ∧ (s'.phase i).stepsLeft < (s.phase i).stepsLeft := by
  cases hp : s.phase i with
  | submitted =>
    refine ⟨.lock i, _, rfl, by simp only [step, hp, ↓reduceIte]; rfl, ?_⟩
    cases verifyAndLockEvent s.locks (lockKey cfg req i) with
    | error e => simp [Except.map, onLock, stepsLeft]
    | ok taken => cases hb : taken.1 <;> simp [Except.map, hb, onLock, stepsLeft]
  | duplicate =>
    refine ⟨.fetch i, _, rfl, by simp only [step, hp, ↓reduceIte]; rfl, ?_⟩
    cases fetchExistingEventId s.tables (req i).body.idempotencyKey with
    | error e => simp [onDuplicate, stepsLeft]
    | ok existing => cases existing <;> simp [onDuplicate, stepsLeft]
  | locked =>
    refine ⟨.persist i .none, _, rfl, by simp only [step, hp, ↓reduceIte]; rfl, ?_⟩
    cases (atomicTransaction s.tables .none
        (persistOperationalSignalWithShadowRetroTag (req i))).1 with
    | error e => cases e <;> simp [onPersist, stepsLeft]
    | ok row => simp [onPersist, stepsLeft]
  | conflicted =>
    refine ⟨.fetch i, _, rfl, by simp only [step, hp, reduceCtorEq, ↓reduceIte]; rfl, ?_⟩
    cases fetchExistingEventId s.tables (req i).body.idempotencyKey with
    | error e => simp [onConflict, stepsLeft]
    | ok existing => cases existing <;> simp [onConflict, stepsLeft]
  | releasing answer =>
    refine ⟨.release i, _, rfl, by simp only [step, hp]; rfl, ?_⟩
    cases releaseLock s.locks (lockKey cfg req i) with
    | error e => simp [Except.toOption, stepsLeft]
    | ok locks => simp [Except.toOption, stepsLeft]
  | answered answer => exact absurd hp (h answer)

/-- There is at most one row under each key at any time. A submission that is made once a row is
stored under its key comes to an answer, and the answer is the id of that row exactly if its lock is
in Redis when it is made: a unique index that refuses the row is not seen by the clause for it. -/
theorem accepted_iff_lockPresent {s₀ s₁ s₂ : State ι} {before afterwards : List (Action ι)}
    {row : SignalRow} (cfg : Settings) (req : ι → Submission) (i : ι)
    (hinit : UniqueKeys s₀.tables.signals) (hbefore : run (step cfg req) s₀ before = some s)
    (hrow : row ∈ s.tables.signals) (hkey : row.idempotencyKey = (req i).body.idempotencyKey)
    (hlock : step cfg req s (.lock i) = some s₁)
    (hafterwards : run (step cfg req) s₁ afterwards = some s₂) :
    UniqueKeys s₂.tables.signals
      ∧ (∀ answer, s₂.phase i = .answered answer →
          (answer = .accepted row.id ↔ LockPresent cfg req s i))
      ∧ ((∀ answer, s₂.phase i ≠ .answered answer) → ∃ a s₃, a.by? = some i
          ∧ step cfg req s₂ a = some s₃ ∧ (s₃.phase i).stepsLeft < (s₂.phase i).stepsLeft) := by
  obtain ⟨htables, hpresent, habsent⟩ := lock_phase hlock
  have hunique : UniqueKeys s₁.tables.signals := by
    rw [htables]
    exact uniqueKeys_of_run hinit hbefore
  have hstored : row ∈ s₁.tables.signals := by rwa [htables]
  refine ⟨uniqueKeys_of_run hunique hafterwards, ?_, exists_next_step cfg req s₂ i⟩
  intro answer hanswer
  by_cases hlocked : LockPresent cfg req s i
  · have hend := behind_of_run (fun _ _ _ h => answering_step hkey h)
      ⟨hunique, hstored, .inl (hpresent hlocked)⟩ hafterwards
    have hphase : Answering row (.answered answer) := hanswer ▸ hend.phase
    simp only [Answering, reduceCtorEq, false_or, Phase.answered.injEq] at hphase
    exact iff_of_true hphase hlocked
  · have hend := behind_of_run (fun _ _ _ h => refusing_step hkey h)
      ⟨hunique, hstored, habsent hlocked⟩ hafterwards
    have hphase : Refusing (.answered answer) := hanswer ▸ hend.phase
    refine iff_of_false ?_ hlocked
    rintro rfl
    simp [Refusing] at hphase

end

/-! ## Signals and their tasks -/

/-- The task that is stored with a signal. -/
def retroTask (row : SignalRow) : OutboxRow :=
  ⟨"SHADOW_RETRO_TAG", strip ("shadow_tag_ops:" ++ row.idempotencyKey),
    [("entity_id", .string row.targetEntityId), ("signal_id", .string row.id.text),
      ("metadata", .object row.metadata)]⟩

/-- The keys of the other producers of tasks begin differently. -/
def isRetroTask (task : OutboxRow) : Bool :=
  "shadow_tag_ops:".toList.isPrefixOf task.idempotencyKey.toList

/-- Of the submissions, the outbox holds the tasks of the signals, one for each and in the same
order; beside them it holds the tasks of others. -/
structure InStep (others : List OutboxRow) (tables : Tables) : Prop where
  own : tables.outbox.filter isRetroTask = tables.signals.map retroTask
  rest : tables.outbox.filter (fun task => !isRetroTask task) = others

theorem isRetroTask_retroTask (hkey : row.idempotencyKey = submission.body.idempotencyKey) :
    isRetroTask (retroTask row) = true := by
  have hstart : ∀ c ∈ "shadow_tag_ops:".toList, isStripSpace c = false := by decide
  have hspace : ∀ c ∈ ("shadow_tag_ops:" ++ row.idempotencyKey).toList, isStripSpace c = false := by
    intro c hc
    rw [String.toList_append, mem_append, hkey] at hc
    rcases hc with hc | hc
    · exact hstart c hc
    · have hvisible := submission.body.visible c hc
      exact isStripSpace_ascii hvisible.1 hvisible.2
  rw [isRetroTask, retroTask, strip_eq_self hspace, String.toList_append, isPrefixOf_iff_prefix]
  exact prefix_append _ _

variable {others : List OutboxRow}

theorem InStep.append (h : InStep others tables)
    (hkey : row.idempotencyKey = submission.body.idempotencyKey) :
    InStep others ⟨tables.signals ++ [row], tables.outbox ++ [retroTask row]⟩ where
  own := by
    rw [filter_append, h.own, map_append, map_singleton,
      filter_cons_of_pos (isRetroTask_retroTask hkey), filter_nil]
  rest := by
    rw [filter_append, h.rest, filter_cons_of_neg (by simp [isRetroTask_retroTask hkey]),
      filter_nil, append_nil]

theorem persist_inStep {tables' : Tables} (h : InStep others tables)
    (hok : persistOperationalSignalWithShadowRetroTag submission tables = .ok (row, tables')) :
    InStep others tables' := by
  simp only [persistOperationalSignalWithShadowRetroTag, createSignal, normalizeIdempotencyKey_body,
    Except.bind, createTask] at hok
  split at hok
  · cases hok
  rename_i written hsignal
  split_ifs at hsignal
  cases hsignal
  split at hok
  · cases hok
  rename_i outbox htask
  split_ifs at htask
  cases htask
  cases hok
  exact h.append rfl

/-- **No signal without its task, and no task without its signal**: whatever submissions run side by
side, wherever the database fails around a transaction and whenever a lock goes away. -/
theorem outbox_inStep {ι : Type} [DecidableEq ι] (cfg : Settings) (req : ι → Submission)
    {s₀ s : State ι} {as : List (Action ι)} (hinit : InStep others s₀.tables)
    (hrun : run (step cfg req) s₀ as = some s) : InStep others s.tables := by
  refine invariant_of_run (I := fun s => InStep others s.tables) ?_ hinit (meets_true _ _) hrun
  intro s a s' h _ hstep
  obtain heq | ⟨j, fault, heq⟩ := step_tables hstep
  · rw [heq]
    exact h
  · -- the tables are the old ones, or those of a block that returned
    rw [heq]
    unfold atomicTransaction
    split
    · exact h
    · exact h
    · rename_i hok
      exact persist_inStep h hok
    · rename_i hok
      exact persist_inStep h hok

/-! ## Two submissions of one key -/

namespace Sample

def cfg : Settings := ⟨"tarka:operational_signal:idempotency:"⟩

def entity : UuidText :=
  ⟨"6f1c2f70-0000-4000-8000-000000000000", by decide +kernel, by decide +kernel⟩

def body : SignalCreate where
  idempotencyKey := "psp-991"
  targetEntityId := entity
  signalType := .refundIssued
  metadata := [("amount_cents", .number (.posInt 1200)), ("currency", .string "EUR"),
    ("refund_reason_code", .string "CUSTOMER_REQUEST"),
    ("refund_channel", .string "CUSTOMER_SERVICE")]
  nonempty := by decide +kernel
  short := by decide +kernel
  visible := by decide +kernel

def req : Bool → Submission
  | false => ⟨body, ⟨"00000000-0000-4000-8000-000000000001", by decide +kernel, by decide +kernel⟩⟩
  | true => ⟨body, ⟨"00000000-0000-4000-8000-000000000002", by decide +kernel, by decide +kernel⟩⟩

def start : State Bool := ⟨⟨[], []⟩, [], fun _ => .submitted⟩

def stored : List (Action Bool) := [.lock false, .persist false .none]

def afterStored : State Bool := (run (step cfg req) start stored).get (by decide +kernel)

def afterLock : State Bool := (step cfg req afterStored (.lock true)).get (by decide +kernel)

def afterFetch : State Bool := (run (step cfg req) afterLock [.fetch true]).get (by decide +kernel)

/-- A task of another producer. -/
def velocityTask : OutboxRow := ⟨"VELOCITY_UPDATE", "velocity_update:user-1:7", []⟩

def afterVelocity : State Bool :=
  (run (step cfg req) ⟨⟨[], [velocityTask]⟩, [], fun _ => .submitted⟩ stored).get
    (by decide +kernel)

def lockName : String := "tarka:operational_signal:idempotency:psp-991"

end Sample

open Sample in
theorem repeated_while_locked_accepted :
    ∃ row ∈ afterStored.tables.signals, (∀ answer, afterFetch.phase true = .answered answer →
          (answer = .accepted row.id ↔ LockPresent cfg req afterStored true))
      ∧ afterFetch.phase true = .answered (.accepted (req false).drawnId) := by
  have hrow : ∃ row ∈ afterStored.tables.signals,
      row.idempotencyKey = (req true).body.idempotencyKey := by decide +kernel
  obtain ⟨row, hmem, hkey⟩ := hrow
  have hinit : UniqueKeys start.tables.signals := Pairwise.nil
  refine ⟨row, hmem, ?_, by decide +kernel⟩
  exact (accepted_iff_lockPresent cfg req true hinit (eq_some_of_isSome _) hmem hkey
    (eq_some_of_isSome _) (eq_some_of_isSome _)).2.1

open Sample in
theorem stored_inStep : afterVelocity.tables.signals.length = 1
    ∧ InStep [velocityTask] afterVelocity.tables :=
  ⟨by decide +kernel, outbox_inStep cfg req ⟨rfl, rfl⟩ (eq_some_of_isSome _)⟩

open Sample in
/-- The lock is gone when the signal is submitted again, and the second submission is refused
although its signal is stored. -/
theorem repeated_after_expiry_refused :
    (run (step cfg req) start (stored ++ [.expire lockName])).map
        (fun s => s.tables.signals.map SignalRow.id) = some [(req false).drawnId]
      ∧ (run (step cfg req) start (stored ++ [.expire lockName, .lock true, .persist true .none,
          .release true])).map (fun s => s.phase true)
        = some (.answered (.httpException 503 "operational signal persistence failed")) := by
  constructor <;> decide +kernel

end Tarka.Orchestrator.OperationalSignals
