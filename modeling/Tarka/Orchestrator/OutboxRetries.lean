import Tarka.Orchestrator.Outbox

/-! # A task of the outbox with one worker

One worker, which may be as slow as it likes, and one of its tasks among others. The handler of the
task ends in some way at each try. A try whose end can be recorded counts: the task is completed, or
it has one retry less. A try whose end cannot be recorded, because the text of the exception is
empty or cannot be stored, does not count, and the task is tried again once its claim is old.

`Tally` is what the row says after some tries, and `Tracked` adds where the worker is with the task.
The bound on the number of tries is `lt_of_endsInTime`. -/

namespace Tarka.Orchestrator.Outbox

open Tarka.Lib Tarka.Lib.Steps Tarka.Json Tarka.Orchestrator List Nat Outbox.Task Worker

/-! ## Ends of tries -/

namespace Ending

def succeeds : Ending → Bool
  | returns note => note.elim true (fun n => isStorable (cut 8192 n))
  | raises _ => false

def fails : Ending → Bool
  | returns _ => false
  | raises text => (recordFailure text).isSome

end Ending

/-- How the tries of a task end, by the behaviour of its handler if it has one. -/
def outcome (env : Env) (eventType : String) (ends : Nat → Ending) (n : Nat) : Ending :=
  if isHandled eventType then ends n else .raises (routingError env eventType)

def failures (out : Nat → Ending) (k : Nat) : Nat :=
  (List.range k).countP (fun n => (out n).fails)

/-- One of the tries that are allowed succeeds, or they all fail, and this is recorded. -/
def EndsInTime (maxRetries : Nat) (out : Nat → Ending) : Prop :=
  (∃ n < maxRetries, (out n).succeeds = true) ∨ ∀ n < maxRetries, (out n).fails = true

theorem failures_succ (out : Nat → Ending) (k : Nat) :
    failures out (k + 1) = failures out k + if (out k).fails then 1 else 0 := by
  rw [failures, failures, range_succ, countP_append, countP_singleton]

variable {out : Nat → Ending} {k : Nat}

theorem failures_of_all (h : ∀ n < k, (out n).fails) : failures out k = k := by
  rw [failures, countP_eq_length.mpr, length_range]
  intro n hn
  exact h n (mem_range.mp hn)

theorem failures_mono {j : Nat} (h : j ≤ k) : failures out j ≤ failures out k := by
  induction k, h using le_induction with
  | base => exact le_rfl
  | succ k _ ih =>
    rw [failures_succ]
    omega

/-- A task that has not succeeded and has retries left has tries left. -/
theorem lt_of_endsInTime {maxRetries : Nat} (h : EndsInTime maxRetries out)
    (hnone : ∀ n < k, (out n).succeeds = false) (hleft : failures out k < maxRetries) :
    k < maxRetries := by
  rcases h with ⟨n, hn, hsucceeds⟩ | hall
  · -- the first success is not among the first tries
    have hkn : ¬ n < k := by
      intro hlt
      rw [hnone n hlt] at hsucceeds
      exact Bool.false_ne_true hsucceeds
    omega
  · by_contra hge
    have hmono : failures out maxRetries ≤ failures out k := failures_mono (by omega)
    rw [failures_of_all hall] at hmono
    omega

/-! ## The row of a task -/

/-- What the row of a task says after `k` tries. -/
structure Tally (out : Nat → Ending) (maxRetries : Nat) (k : Nat) (r : Task) : Prop where
  max : r.maxRetries = maxRetries
  retry : r.retryCount = failures out k
  bound : k ≤ maxRetries
  succeeded : ∀ n < k, (out n).succeeds = true → r.status = .completed
  le : r.retryCount ≤ maxRetries
  unfinished : r.status = .pending ∨ r.status = .processing → r.retryCount < maxRetries

namespace Tally

variable {out : Nat → Ending} {maxRetries k : Nat} {r : Task} (h : Tally out maxRetries k r)

include h

theorem none_succeeds (hnot : r.status ≠ .completed) : ∀ n < k, (out n).succeeds = false := by
  intro n hn
  cases hs : (out n).succeeds with
  | false => rfl
  | true => exact absurd (h.succeeded n hn hs) hnot

theorem lt (hin : EndsInTime maxRetries out)
    (hprocessing : r.status = .processing) : k < maxRetries := by
  refine lt_of_endsInTime hin (h.none_succeeds (by rw [hprocessing]; simp)) ?_
  rw [← h.retry]
  exact h.unfinished (.inr hprocessing)

variable {now : Nat}

theorem left_of_claimable (hclaimable : r.isClaimable now) :
    r.status ≠ .completed ∧ r.retryCount < maxRetries := by
  cases hstatus : r.status with
  | pending => exact ⟨by simp, h.unfinished (.inl hstatus)⟩
  | processing => exact ⟨by simp, h.unfinished (.inr hstatus)⟩
  | completed => simp [isClaimable, hstatus] at hclaimable
  | failed =>
    refine ⟨by simp, ?_⟩
    rw [← h.max]
    simpa [isClaimable, hstatus] using hclaimable

theorem markProcessing
    (hclaimable : r.isClaimable now) : Tally out maxRetries k (r.markProcessing now) := by
  obtain ⟨hnot, hleft⟩ := h.left_of_claimable hclaimable
  refine ⟨h.max, h.retry, h.bound, ?_, h.le, fun _ => hleft⟩
  intro n hn hs
  exact absurd (h.succeeded n hn hs) hnot

theorem releaseClaim (hprocessing : r.status = .processing) :
    Tally out maxRetries k r.releaseClaim := by
  have hleft := h.unfinished (.inr hprocessing)
  rw [Task.releaseClaim, if_pos hprocessing]
  refine ⟨h.max, h.retry, h.bound, ?_, h.le, fun _ => hleft⟩
  intro n hn hs
  rw [h.succeeded n hn hs] at hprocessing
  cases hprocessing

/-- The end of a try is recorded, or nothing is and the try does not count. -/
theorem failed (hin : EndsInTime maxRetries out)
    (hprocessing : r.status = .processing) {error : String} (hend : out k = .raises error) :
    Tally out maxRetries (k + 1) ((recordFailure error).getD id r) := by
  have hlt := h.lt hin hprocessing
  have hleft := h.unfinished (.inr hprocessing)
  have hnone : ∀ n < k + 1, (out n).succeeds = false := by
    intro n hn
    rcases Nat.lt_succ_iff_lt_or_eq.mp hn with hn | rfl
    · exact h.none_succeeds (by rw [hprocessing]; simp) n hn
    · rw [hend]
      rfl
  have hsucceeded : ∀ {status : OutboxStatus}, ∀ n < k + 1, (out n).succeeds →
      status = .completed := by
    intro status n hn hs
    rw [hnone n hn] at hs
    cases hs
  cases hrecord : recordFailure error with
  | none =>
    have hcount : failures out (k + 1) = failures out k := by
      rw [failures_succ, hend, Ending.fails, hrecord]
      rfl
    exact ⟨h.max, h.retry.trans hcount.symm, hlt, hsucceeded, h.le, h.unfinished⟩
  | some f =>
    have hcount : failures out (k + 1) = failures out k + 1 := by
      rw [failures_succ, hend, Ending.fails, hrecord]
      rfl
    have hf : f = markFailed (strip error) := by
      simp only [recordFailure] at hrecord
      split at hrecord
      · cases hrecord
      · split at hrecord
        · exact (Option.some.inj hrecord).symm
        · cases hrecord
    rw [hf]
    refine ⟨h.max, ?_, hlt, hsucceeded, hleft, ?_⟩
    · rw [hcount, ← h.retry]
      rfl
    · rintro (hpending | hprocessing) <;> simp [markFailed] at *

theorem returned (hin : EndsInTime maxRetries out)
    (hprocessing : r.status = .processing) {note : Option String} (hend : out k = .returns note)
    (now : Nat) : Tally out maxRetries (k + 1) ((recordSuccess now note).getD id r) := by
  have hlt := h.lt hin hprocessing
  have hbefore := h.none_succeeds (by rw [hprocessing]; simp)
  have hcount : failures out (k + 1) = failures out k := by
    rw [failures_succ, hend]
    rfl
  rw [recordSuccess]
  split_ifs with hstored
  · refine ⟨h.max, h.retry.trans hcount.symm, hlt, fun _ _ _ => rfl, h.le, ?_⟩
    rintro (hpending | hprocessing) <;> simp [markCompleted] at *
  · refine ⟨h.max, h.retry.trans hcount.symm, hlt, ?_, h.le, h.unfinished⟩
    intro n hn hs
    rcases Nat.lt_succ_iff_lt_or_eq.mp hn with hn | rfl
    · rw [hbefore n hn] at hs
      cases hs
    · rw [hend] at hs
      exact absurd hs hstored

end Tally

/-! ## Tasks at rest -/

def Task.Resting (r : Task) : Prop :=
  r.status = .completed ∨ (r.status = .failed ∧ r.retryCount = r.maxRetries)

instance decidableResting (r : Task) : Decidable r.Resting :=
  inferInstanceAs (Decidable (_ ∨ _))

theorem Task.Resting.not_claimable {r : Task} (h : r.Resting) (now : Nat) :
    r.isClaimable now = false := by
  rcases h with hstatus | ⟨hstatus, hcount⟩
  · simp [isClaimable, hstatus]
  · simp [isClaimable, hstatus, hcount]

/-! ## The worker and the task -/

/-- The handler was started and its end is not recorded yet. -/
def Stage.isInFlight : Stage → Bool
  | .running _ | .raised _ _ | .failed _ | .succeeded _ => true
  | .queued | .locked _ | .skipped => false

def Stage.ending? : Stage → Option Ending
  | .raised error _ | .failed error => some (.raises error)
  | .succeeded note => some (.returns note)
  | .queued | .locked _ | .running _ | .skipped => none

def Worker.inFlight (id : UuidText) : Worker → Nat
  | .idle => 0
  | .busy task _ stage => if task.id = id ∧ stage.isInFlight = true then 1 else 0

theorem Worker.inFlight_next (id : UuidText) (tasks : List Task) :
    (next tasks).inFlight id = 0 := by
  cases tasks with
  | nil => rfl
  | cons task rest => exact if_neg (fun h => Bool.false_ne_true h.2)

def State.tries {ι : Type} (s : State ι) (id : UuidText) : Nat :=
  s.attempts.countP (fun a => decide (a.id = id))

variable {ι : Type} (s : State ι)

theorem State.starts_le_tries (id : UuidText) : s.starts id ≤ s.tries id := by
  refine countP_mono_left ?_
  intro a _ ha
  rw [beq_iff_eq] at ha
  rw [ha]
  exact decide_eq_true rfl

theorem State.tries_log (id id' : UuidText) (logged : Option Bool)
    (locks : String → Option Nat) :
    (s.log id' logged locks).tries id
      = s.tries id + if id' = id ∧ logged.isSome = true then 1 else 0 := by
  rw [State.tries, State.log, State.tries]
  cases logged with
  | none => simp
  | some started => simp [countP_singleton]

theorem State.tries_goto [DecidableEq ι] (id : UuidText) (w : ι)
    (x : Worker) : (s.goto w x).tries id = s.tries id := rfl

namespace Moves

variable {ι : Type} {env : Env} {w : ι} {task : Task} {a : Action ι} {stage stage' : Stage}
  {logged : Option Bool} (h : Moves env w task a stage stage' logged)

include h

theorem inFlight :
    (if stage.isInFlight = true then 1 else 0) + (if logged.isSome = true then 1 else 0)
      = if stage'.isInFlight = true then 1 else 0 := by
  cases h with
  | locked | skipped | started | misrouted | unlocked => rfl
  | finished lockAcquired ending => cases ending <;> rfl

theorem isHandled_of_running {lockAcquired : Bool}
    (hstage : stage' = .running lockAcquired) : isHandled task.eventType = true := by
  cases h with
  | started _ hhandled => exact hhandled
  | locked | skipped | misrouted | unlocked => exact absurd hstage (by simp)
  | finished _ ending => cases ending <;> exact absurd hstage (by simp [Ending.stage])

theorem ending {e : Ending} (he : e ∈ stage'.ending?) :
    (∃ lockAcquired, stage = .running lockAcquired ∧ a = .finish w e)
      ∨ (isHandled task.eventType = false ∧ e = .raises (routingError env task.eventType))
      ∨ e ∈ stage.ending? := by
  cases h with
  | locked | skipped | started => exact absurd he (by simp [Stage.ending?])
  | misrouted lockAcquired hhandled => exact .inr (.inl ⟨hhandled, (Option.some.inj he).symm⟩)
  | finished lockAcquired ending =>
    refine .inl ⟨lockAcquired, rfl, ?_⟩
    cases ending <;> rw [Option.some.inj he]
  | unlocked error lockAcquired => exact .inr (.inr he)

end Moves

/-- The handler of the task behaves as given, and the ends of its tries go through to the
database. -/
def Follows (ends : Nat → Ending) (id : UuidText) (s : State Unit) : Action Unit → Prop
  | .finish w ending => ∀ t ∈ (s.worker w).held.head?, t.id = id → ending = ends (s.tries id - 1)
  | .finalize w fault => ∀ t ∈ (s.worker w).held.head?, t.id = id → fault = false
  | _ => True

/-- The row of the task after `k` tries, and where the worker is with it. -/
structure Tracked (env : Env) (ends : Nat → Ending) (id : UuidText) (eventType : String)
    (maxRetries : Nat) (s : State Unit) (k : Nat) (r : Task) : Prop where
  ids : (s.rows.map Task.id).Nodup
  heldIds : ((s.worker ()).held.map Task.id).Nodup
  row : r ∈ s.rows
  rowId : r.id = id
  rowType : r.eventType = eventType
  tally : Tally (outcome env eventType ends) maxRetries k r
  held : ∀ t ∈ (s.worker ()).held, t.id = id → r.status = .processing ∧ t.eventType = eventType
  tries : s.tries id = k + (s.worker ()).inFlight id
  handled : ∀ task rest lockAcquired, s.worker () = .busy task rest (.running lockAcquired) →
    task.id = id → isHandled eventType = true
  ending : ∀ task rest stage, s.worker () = .busy task rest stage → task.id = id →
    ∀ e ∈ stage.ending?, outcome env eventType ends k = e

namespace Tracked

variable {env : Env} {ends : Nat → Ending} {id : UuidText} {eventType : String} {maxRetries k : Nat}
  {s s' : State Unit} {a : Action Unit} {r : Task}

theorem of_next {tasks : List Task} (hids : (s.rows.map Task.id).Nodup)
    (hworker : s.worker () = Worker.next tasks) (hheldIds : (tasks.map Task.id).Nodup)
    (hrow : r ∈ s.rows) (hrowId : r.id = id) (hrowType : r.eventType = eventType)
    (htally : Tally (outcome env eventType ends) maxRetries k r)
    (hheld : ∀ t ∈ tasks, t.id = id → r.status = .processing ∧ t.eventType = eventType)
    (htries : s.tries id = k) : Tracked env ends id eventType maxRetries s k r := by
  -- the next task is only queued
  have hqueued : ∀ task rest stage, s.worker () = .busy task rest stage → stage = .queued := by
    intro task rest stage hbusy
    rw [hworker] at hbusy
    cases tasks with
    | nil => simp [Worker.next] at hbusy
    | cons first others =>
      injection hbusy with _ _ hstage
      exact hstage.symm
  refine ⟨hids, ?_, hrow, hrowId, hrowType, htally, ?_, ?_, ?_, ?_⟩
  · rwa [hworker, held_next]
  · rwa [hworker, held_next]
  · rw [hworker, inFlight_next, htries, add_zero]
  · intro task rest lockAcquired hbusy _
    exact absurd (hqueued _ _ _ hbusy) (by simp)
  · intro task rest stage hbusy _ e he
    rw [hqueued _ _ _ hbusy] at he
    cases he

variable (h : Tracked env ends id eventType maxRetries s k r)

include h

theorem eq_row {t : Task} (ht : t ∈ s.rows) (hid : t.id = id) : t = r :=
  inj_on_of_nodup_map h.ids ht h.row (hid.trans h.rowId.symm)

theorem frame
    (hids : (s'.rows.map Task.id).Nodup) (hrow : r ∈ s'.rows) (hworker : s'.worker = s.worker)
    (hattempts : s'.attempts = s.attempts) : Tracked env ends id eventType maxRetries s' k r := by
  refine ⟨hids, ?_, hrow, h.rowId, h.rowType, h.tally, ?_, ?_, ?_, ?_⟩
  · rw [hworker]
    exact h.heldIds
  · rw [hworker]
    exact h.held
  · rw [State.tries, hattempts, hworker]
    exact h.tries
  · rw [hworker]
    exact h.handled
  · rw [hworker]
    exact h.ending

theorem claimed {locked : List UuidText} {pending : List Task} (hidle : s.worker () = .idle)
    (hpending : pending = fetchPendingTasks s.rows s.clock env.batchSize locked) :
    ∃ r', Tracked env ends id eventType maxRetries
      ({ s with rows := claimRows s.rows s.clock pending }.goto ()
        (Worker.next (pending.map (markProcessing s.clock)))) k r' := by
  have hids : ((claimRows s.rows s.clock pending).map Task.id).Nodup := by
    rw [map_id_claimRows]
    exact h.ids
  have hnodup : ((pending.map (markProcessing s.clock)).map Task.id).Nodup := by
    rw [map_map, hpending]
    exact nodup_fetchPendingTasks h.ids _ _ _
  have htries : s.tries id = k := by
    have := h.tries
    rwa [hidle, inFlight, add_zero] at this
  have hmem : ∀ {p}, p ∈ pending → p ∈ s.rows ∧ p.isClaimable s.clock := by
    intro p hp
    exact mem_fetchPendingTasks (hpending ▸ hp)
  by_cases hr : r ∈ pending
  · refine ⟨r.markProcessing s.clock, of_next hids (goto_worker_self _ _ _) hnodup
      (mem_claimRows_of_mem hr h.row) h.rowId h.rowType
      (h.tally.markProcessing (hmem hr).2) ?_ htries⟩
    intro t ht hid
    obtain ⟨p, hp, rfl⟩ := mem_map.mp ht
    rw [h.eq_row (hmem hp).1 hid]
    exact ⟨rfl, h.rowType⟩
  · have hkept : r ∈ claimRows s.rows s.clock pending := by
      rw [claimRows_eq_map]
      refine mem_map.mpr ⟨r, h.row, if_neg ?_⟩
      intro hid
      obtain ⟨p, hp, hpid⟩ := mem_map.mp hid
      rw [h.eq_row (hmem hp).1 (hpid.trans h.rowId)] at hp
      exact hr hp
    refine ⟨r, of_next hids (goto_worker_self _ _ _) hnodup hkept h.rowId h.rowType
      h.tally ?_ htries⟩
    intro t ht hid
    obtain ⟨p, hp, rfl⟩ := mem_map.mp ht
    rw [h.eq_row (hmem hp).1 hid] at hp
    exact absurd hp hr

variable {task : Task} {rest : List Task} {stage : Stage}

theorem moved {stage' : Stage} {logged : Option Bool}
    {locks : String → Option Nat} (hfollows : Follows ends id s a)
    (hbusy : s.worker () = .busy task rest stage)
    (hmoves : Moves env () task a stage stage' logged) :
    Tracked env ends id eventType maxRetries
      ((s.log task.id logged locks).goto () (.busy task rest stage')) k r := by
  have hheld : (s.worker ()).held = task :: rest := by rw [hbusy]; rfl
  have htype : task.id = id → task.eventType = eventType :=
    fun hid => (h.held task (by rw [hheld]; exact mem_cons_self) hid).2
  have htries := h.tries
  rw [hbusy, inFlight] at htries
  refine ⟨h.ids, ?_, h.row, h.rowId, h.rowType, h.tally, ?_, ?_, ?_, ?_⟩
  · rw [goto_worker_self, Worker.held, ← hheld]
    exact h.heldIds
  · rw [goto_worker_self, Worker.held, ← hheld]
    exact h.held
  · -- the tries and the stage of the task change together
    rw [goto_worker_self, inFlight, State.tries_goto, State.tries_log, htries, add_assoc]
    by_cases hid : task.id = id
    · simp only [hid, true_and, add_left_cancel_iff]
      exact hmoves.inFlight
    · simp [hid]
  · intro t ts lockAcquired hworker hid
    simp only [goto_worker_self, busy.injEq] at hworker
    obtain ⟨rfl, -, hstage⟩ := hworker
    rw [← htype hid]
    exact hmoves.isHandled_of_running hstage
  · intro t ts st hworker hid e he
    obtain ⟨rfl, -, rfl⟩ := hworker
    rcases hmoves.ending he with ⟨lockAcquired, rfl, rfl⟩ | ⟨hhandled, rfl⟩ | he
    · -- the handler ends as it does at this try
      have hend := hfollows task (by rw [hheld]; rfl) hid
      rw [htries, if_pos ⟨hid, rfl⟩, Nat.add_sub_cancel] at hend
      rw [outcome, if_pos (h.handled task rest lockAcquired hbusy hid), hend]
    · rw [htype hid] at hhandled
      rw [outcome, hhandled, if_neg Bool.false_ne_true, htype hid]
    · exact h.ending task rest stage hbusy hid e he

section

variable (hin : EndsInTime maxRetries (outcome env eventType ends))

include hin

theorem dropped
    {f : Task → Task} (hfollows : Follows ends id s a)
    (hbusy : s.worker () = .busy task rest stage) (hdrops : Drops s.clock () a stage f) :
    ∃ k' r', Tracked env ends id eventType maxRetries (s.leave () task rest f) k' r' := by
  have hheld : (s.worker ()).held = task :: rest := by rw [hbusy]; rfl
  have hids : ((s.leave () task rest f).rows.map Task.id).Nodup := by
    rw [State.leave, State.goto, map_id_updateTask (fun t => (hdrops.spec t).1)]
    exact h.ids
  have hnodup : task.id ∉ rest.map Task.id ∧ (rest.map Task.id).Nodup := by
    have := h.heldIds
    rwa [hheld, map_cons, nodup_cons] at this
  have htries : s.tries id = k + if task.id = id ∧ stage.isInFlight = true then 1 else 0 := by
    have := h.tries
    rwa [hbusy, inFlight] at this
  by_cases hid : task.id = id
  · -- the other tasks of the batch have other ids
    have hrest : ∀ r' : Task, ∀ t ∈ rest, t.id = id →
        r'.status = .processing ∧ t.eventType = eventType := by
      intro r' t ht htid
      exact absurd (mem_map.mpr ⟨t, ht, htid.trans hid.symm⟩) hnodup.1
    have hprocessing := (h.held task (by rw [hheld]; exact mem_cons_self) hid).1
    have hrow : f r ∈ (s.leave () task rest f).rows :=
      mem_updateTask.mpr ⟨r, h.row, by rw [if_pos (h.rowId.trans hid.symm)]⟩
    obtain ⟨hfid, -, hftype, -⟩ := hdrops.spec r
    have hof : ∀ {k'}, Tally (outcome env eventType ends) maxRetries k' (f r) →
        s.tries id = k' → ∃ k' r', Tracked env ends id eventType maxRetries
          (s.leave () task rest f) k' r' := by
      intro k' htally hk
      exact ⟨k', f r, of_next hids (goto_worker_self _ _ _) hnodup.2 hrow (hfid.trans h.rowId)
        (hftype.trans h.rowType) htally (hrest (f r)) hk⟩
    cases hdrops with
    | released fault =>
      have hk : s.tries id = k := by
        rw [htries, if_neg (fun hboth => Bool.false_ne_true hboth.2), add_zero]
      cases fault with
      | true => exact hof h.tally hk
      | false => exact hof (h.tally.releaseClaim hprocessing) hk
    | recorded fault stage hstage =>
      have hfault : fault = false := hfollows task (by rw [hheld]; rfl) hid
      subst hfault
      have hend := h.ending task rest stage hbusy hid
      obtain ⟨error, rfl⟩ | ⟨note, rfl⟩ := hstage
      · have hk : s.tries id = k + 1 := by rw [htries, if_pos ⟨hid, rfl⟩]
        refine hof ?_ hk
        rw [if_neg Bool.false_ne_true, Stage.record]
        exact h.tally.failed hin hprocessing (hend _ rfl)
      · have hk : s.tries id = k + 1 := by rw [htries, if_pos ⟨hid, rfl⟩]
        refine hof ?_ hk
        exact h.tally.returned hin hprocessing (hend _ rfl) s.clock
  · have hrow : r ∈ (s.leave () task rest f).rows :=
      mem_updateTask_of_ne h.row (fun heq => hid (heq.symm.trans h.rowId))
    have hk : s.tries id = k := by
      rw [htries, if_neg (fun hboth => hid hboth.1), add_zero]
    refine ⟨k, r,
      of_next hids (goto_worker_self _ _ _) hnodup.2 hrow h.rowId h.rowType h.tally ?_ hk⟩
    intro t ht htid
    exact h.held t (by rw [hheld]; exact mem_cons_of_mem _ ht) htid

theorem step
    (hfollows : Follows ends id s a) (hstep : Outbox.step env s a = some s') :
    ∃ k' r', Tracked env ends id eventType maxRetries s' k' r' := by
  cases step_effect hstep with
  | created row id' hfresh =>
    exact ⟨k, r, h.frame (nodup_map_id_append h.ids hfresh) (mem_append_left _ h.row) rfl rfl⟩
  | ticked micros => exact ⟨k, r, h.frame h.ids h.row rfl rfl⟩
  | claimed w locked pending hidle hpending => exact ⟨k, h.claimed hidle hpending⟩
  | moved _ w task rest stage stage' logged locks hbusy hmoves =>
    exact ⟨k, r, h.moved hfollows hbusy hmoves⟩
  | dropped _ w task rest stage f hbusy hdrops => exact h.dropped hin hfollows hbusy hdrops

end

/-- A task that is not at rest can be claimed, at the latest when its claim is ten minutes old. -/
theorem claimable (hnot : ¬ r.Resting)
    (hold : ∀ c ∈ r.claimedAt, isOlder outboxReclaim now c) : r.isClaimable now = true := by
  cases hstatus : r.status with
  | pending => simp [isClaimable, hstatus]
  | processing =>
    have holder : r.claimedAt.elim true (isOlder outboxReclaim now) = true := by
      cases hclaimed : r.claimedAt with
      | none => rfl
      | some c => rw [Option.elim_some, hold c hclaimed]
    rw [isClaimable, hstatus, holder]
    simp
  | completed => exact absurd (.inl hstatus) hnot
  | failed =>
    have hle := h.tally.le
    rw [← h.tally.max] at hle
    have hne : r.retryCount ≠ r.maxRetries := fun heq => hnot (.inr ⟨hstatus, heq⟩)
    have hlt : r.retryCount < r.maxRetries := by omega
    simp [isClaimable, hstatus, hlt]

variable (hin : EndsInTime maxRetries (outcome env eventType ends))

include hin

theorem tries_le : s.tries id ≤ maxRetries := by
  have hbound := h.tally.bound
  rw [h.tries]
  cases hworker : s.worker () with
  | idle => exact hbound
  | busy task rest stage =>
    rw [inFlight]
    split
    · -- a task in flight is being processed
      rename_i hflight
      have hheld := h.held task (by rw [hworker]; exact mem_cons_self) hflight.1
      exact h.tally.lt hin hheld.1
    · exact hbound

theorem step_resting (hrest : r.Resting)
    (hfollows : Follows ends id s a) (hstep : Outbox.step env s a = some s') :
    (∃ k', Tracked env ends id eventType maxRetries s' k' r) ∧ s'.starts id = s.starts id := by
  have hne : ∀ t ∈ (s.worker ()).held.head?, r.id ≠ t.id := by
    intro t ht hid
    have hprocessing := (h.held t (mem_of_mem_head? ht) (hid.symm.trans h.rowId)).1
    rcases hrest with hstatus | ⟨hstatus, -⟩
    · exact absurd (hprocessing.symm.trans hstatus) (by simp)
    · exact absurd (hprocessing.symm.trans hstatus) (by simp)
  have hapart : Apart r.id s a := by
    cases a with
    | route | release | finalize => exact hne
    | create | tick | claim | lock | finish | unlock => trivial
  obtain ⟨hrow, hstarts⟩ := step_apart hstep h.ids h.row (hrest.not_claimable _) hapart
  obtain ⟨k', r', h'⟩ := h.step hin hfollows hstep
  rw [← h'.eq_row hrow h.rowId] at h'
  rw [h.rowId] at hstarts
  exact ⟨⟨k', h'⟩, hstarts⟩

end Tracked

theorem tries_le_of_step [DecidableEq ι] {env : Env} {s s' : State ι} {a : Action ι}
    (id : UuidText) (hstep : step env s a = some s') : s.tries id ≤ s'.tries id := by
  cases step_effect hstep with
  | created | ticked | claimed | dropped => exact le_rfl
  | moved _ w task rest stage stage' logged locks hbusy hmoves =>
    rw [State.tries_goto, State.tries_log]
    exact le_add_right _ _

theorem tries_lt_of_route [DecidableEq ι] {env : Env} {s s' : State ι} {w : ι}
    {id : UuidText} (hstep : step env s (.route w) = some s') {t : Task}
    (ht : t ∈ (s.worker w).held.head?) (hid : t.id = id) : s.tries id < s'.tries id := by
  cases step_effect hstep with
  | moved _ w task rest stage stage' logged locks hbusy hmoves =>
    rw [State.tries_goto, State.tries_log]
    cases hmoves with
    | started | misrouted =>
      rw [hbusy] at ht
      rw [Option.some.inj ht, if_pos ⟨hid, rfl⟩]
      exact lt_succ_self _
  | dropped _ w task rest stage f hbusy hdrops => cases hdrops

/-! ## Whole runs -/

/-- A task that was just created, and a worker that has nothing to do with it yet. -/
structure Waiting (s : State Unit) (task : Task) : Prop where
  ids : (s.rows.map Task.id).Nodup
  row : task ∈ s.rows
  pending : task.status = .pending
  retryCount : task.retryCount = 0
  maxRetries : 0 < task.maxRetries
  idle : s.worker () = .idle
  untried : s.tries task.id = 0

theorem Waiting.tracked {s : State Unit} (h : Waiting s task) (env : Env)
    (ends : Nat → Ending) : Tracked env ends task.id task.eventType task.maxRetries s 0 task := by
  have hleft : task.retryCount < task.maxRetries := by
    rw [h.retryCount]
    exact h.maxRetries
  have hnext : s.worker () = Worker.next [] := h.idle
  refine Tracked.of_next h.ids hnext nodup_nil h.row rfl rfl ?_ ?_ h.untried
  · exact ⟨rfl, h.retryCount, zero_le _, fun n hn => absurd hn (not_lt_zero n), hleft.le,
      fun _ => hleft⟩
  · intro t ht
    exact absurd ht not_mem_nil

def State.AtRest (s : State Unit) (id : UuidText) : Prop := ∃ r ∈ s.rows, r.id = id ∧ r.Resting

def Attended (s : Nat → State Unit) (a : Nat → Action Unit) (id : UuidText) : Prop :=
  ∀ n, ∃ m ≥ n, (s m).AtRest id
    ∨ (a m = .route () ∧ ∃ t ∈ ((s m).worker ()).held.head?, t.id = id)

/-- One worker that does not crash, and a task among others whose ends are recorded in time. The
handler of the task is never started more often than it may be. As long as the task is not at rest
it can be claimed, at the latest when its claim is ten minutes old. If the worker gets to it again
as long as it is not at rest, it comes to rest: the row stays as it is, and its handler is not
started again. -/
theorem tried_in_bounds_and_rests {s : Nat → State Unit} {a : Nat → Action Unit} {task : Task}
    {ends : Nat → Ending} (env : Env) (hwaiting : Waiting (s 0) task)
    (hrun : Endless (step env) (Follows ends task.id) s a)
    (hends : EndsInTime task.maxRetries (outcome env task.eventType ends)) :
    (∀ n, (s n).starts task.id ≤ task.maxRetries)
      ∧ (∀ n, ∃ r ∈ (s n).rows, r.id = task.id ∧ (r.Resting ∨ ∀ now,
          (∀ c ∈ r.claimedAt, isOlder outboxReclaim now c = true) → r.isClaimable now = true))
      ∧ (Attended s a task.id → ∃ n r, r.id = task.id ∧ r.Resting ∧
          ∀ m ≥ n, r ∈ (s m).rows ∧ (s m).starts task.id = (s n).starts task.id) := by
  have htracked : ∀ n, ∃ k r,
      Tracked env ends task.id task.eventType task.maxRetries (s n) k r := by
    intro n
    refine hrun.invariant (n := 0)
      (I := fun s' => ∃ k r, Tracked env ends task.id task.eventType task.maxRetries s' k r)
      ?_ ⟨0, task, hwaiting.tracked env ends⟩ n (zero_le n)
    rintro s₁ a₁ s₂ ⟨k, r, h⟩ hfollows hstep
    exact h.step hends hfollows hstep
  have hbound : ∀ n, (s n).tries task.id ≤ task.maxRetries := by
    intro n
    obtain ⟨k, r, h⟩ := htracked n
    exact h.tries_le hends
  refine ⟨fun n => ((s n).starts_le_tries task.id).trans (hbound n), ?_, ?_⟩
  · intro n
    obtain ⟨k, r, h⟩ := htracked n
    refine ⟨r, h.row, h.rowId, ?_⟩
    by_cases hrest : r.Resting
    · exact .inl hrest
    · exact .inr (fun now hold => h.claimable hrest hold)
  · intro hattended
    -- every further pass over the task is a try, and the tries are bounded
    obtain ⟨n, r, hrow, hid, hrest⟩ : ∃ n, (s n).AtRest task.id := by
      refine hrun.eventually (P := fun s' => s'.AtRest task.id)
        (fun _ _ _ hstep => tries_le_of_step task.id hstep) hbound ?_
      intro n
      obtain ⟨m, hm, hrest | ⟨haction, t, ht, hid⟩⟩ := hattended n
      · exact ⟨m, hm, .inl hrest⟩
      · have hstep := hrun.next m
        rw [haction] at hstep
        exact ⟨m, hm, .inr (tries_lt_of_route hstep ht hid)⟩
    obtain ⟨k, r', h⟩ := htracked n
    rw [← h.eq_row hrow hid] at h
    refine ⟨n, r, hid, hrest, ?_⟩
    have hstays := hrun.invariant (n := n)
      (I := fun s' => (∃ k, Tracked env ends task.id task.eventType task.maxRetries s' k r)
        ∧ s'.starts task.id = (s n).starts task.id)
      (fun s₁ a₁ s₂ hI hfollows hstep => by
        obtain ⟨⟨k, h⟩, hstarts⟩ := hI
        obtain ⟨hnext, hsame⟩ := h.step_resting hends hrest hfollows hstep
        exact ⟨hnext, hsame.trans hstarts⟩)
      ⟨⟨k, h⟩, rfl⟩
    intro m hm
    obtain ⟨⟨k, h⟩, hstarts⟩ := hstays m hm
    exact ⟨h.row, hstarts⟩

/-! ## A handler that fails once, and one whose exceptions have no text -/

instance decidableFollows (ends : Nat → Ending) (id : UuidText) (s : State Unit) :
    ∀ a, Decidable (Follows ends id s a)
  | .finish w ending => inferInstanceAs
      (Decidable (∀ t ∈ (s.worker w).held.head?, t.id = id → ending = ends (s.tries id - 1)))
  | .finalize w fault => inferInstanceAs
      (Decidable (∀ t ∈ (s.worker w).held.head?, t.id = id → fault = false))
  | .create _ _ | .tick _ | .claim _ _ | .lock _ | .route _ | .unlock _ | .release _ _ =>
    inferInstanceAs (Decidable True)

namespace OneWorker

def env : Env := ⟨100, true, ⟨fun _ => "0.0", fun s => s⟩⟩

def taskId : UuidText :=
  ⟨"00000000-0000-4000-8000-000000000012", by decide +kernel, by decide +kernel⟩

def task : Task := Task.created ⟨"VELOCITY_UPDATE", "velocity:e2", []⟩ taskId 0

def start : State Unit := ⟨0, [task], fun _ => none, fun _ => .idle, []⟩

def begin : List (Action Unit) := [.claim () [], .lock (), .route ()]

def fail (text : String) : List (Action Unit) :=
  [.finish () (.raises text), .unlock (), .finalize () false]

def ends (n : Nat) : Ending := if n = 0 then .raises "timeout" else .returns none

def plan : List (Action Unit) :=
  begin ++ fail "timeout" ++ begin ++ [.finish () (.returns none), .finalize () false]

def action (n : Nat) : Action Unit := plan.getD n (.tick 1)

def state : Nat → State Unit
  | 0 => start
  | n + 1 => (step env (state n) (action n)).getD (state n)

theorem action_of_le {n : Nat} (h : 11 ≤ n) : action n = .tick 1 := by
  rw [action, getD_eq_getElem?_getD, List.getElem?_eq_none h, Option.getD_none]

theorem endless : Endless (step env) (Follows ends taskId) state action := by
  have hplan : ∀ n < 11, (step env (state n) (action n)).isSome
      ∧ Follows ends taskId (state n) (action n) := by decide +kernel
  constructor
  · intro n
    have hsome : (step env (state n) (action n)).isSome := by
      by_cases hn : n < 11
      · exact (hplan n hn).1
      · rw [action_of_le (not_lt.mp hn)]
        rfl
    rw [state]
    exact Option.eq_some_of_isSome hsome ▸ rfl
  · intro n
    by_cases hn : n < 11
    · exact (hplan n hn).2
    · rw [action_of_le (not_lt.mp hn)]
      trivial

theorem attended : Attended state action taskId := by
  have hrows : ∀ n, 11 ≤ n → (state n).rows = (state 11).rows := by
    intro n hn
    induction n, hn using le_induction with
    | base => rfl
    | succ n hn ih =>
      rw [← ih, state, action_of_le hn]
      rfl
  intro n
  refine ⟨max n 11, le_max_left n 11, .inl ?_⟩
  rw [State.AtRest, hrows _ (le_max_right n 11)]
  decide +kernel

/-- The task is tried six times, ten minutes apart, and every try ends with a `TimeoutError()`. -/
def poisoned : List (Action Unit) :=
  (List.replicate 6 (begin ++ fail "" ++ [.tick (outboxReclaim + 1)])).flatten

end OneWorker

open OneWorker in
theorem failed_once_then_rests :
    (∀ n, (state n).starts taskId ≤ 5)
      ∧ ∃ n r, r.id = taskId ∧ r.Resting ∧
          ∀ m ≥ n, r ∈ (state m).rows ∧ (state m).starts taskId = (state n).starts taskId := by
  have hwaiting : Waiting (state 0) task :=
    ⟨by decide +kernel, mem_singleton_self _, rfl, rfl, by decide, rfl, rfl⟩
  have hends : EndsInTime task.maxRetries (outcome env task.eventType ends) :=
    .inl ⟨1, by decide, by decide +kernel⟩
  obtain ⟨hbound, -, hrests⟩ := tried_in_bounds_and_rests env hwaiting endless hends
  exact ⟨hbound, hrests attended⟩

open OneWorker in
/-- `mark_failed` refuses an empty text, so that these tries do not count. -/
theorem silent_exceptions_exceed_retries :
    Meets (step env) (Follows (fun _ => .raises "") taskId) start poisoned ∧
    task.maxRetries = 5 ∧
    ((run (step env) start poisoned).map (fun s =>
      (s.starts taskId, s.rows.map (fun r => (r.status, r.retryCount)))))
        = some (6, [(.processing, 0)]) := by
  decide +kernel

end Tarka.Orchestrator.Outbox
