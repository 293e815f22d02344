import Tarka.Orchestrator.Outbox

/-! # Tasks of the outbox with many workers

A worker that is slower than the ten minutes of a claim still records its end, whatever has become
of the task meanwhile. As long as no worker starts, gives back or records a task later than that, a
claim that is in time is the only one of its task, and the row bears its stamp (`Claims`). Then a
task that is completed stays so, and no task is tried more often than it may be. -/

namespace Tarka.Orchestrator.Outbox

open Tarka.Lib Tarka.Lib.Steps Tarka.Json Tarka.Orchestrator List

def Task.claimTime (t : Task) : Nat := t.claimedAt.getD 0

section

variable {ι : Type}

/-- The claim of a task is not older than ten minutes. -/
def InTime (s : State ι) (t : Task) : Prop := isOlder outboxReclaim s.clock t.claimTime = false

instance decidableInTime (s : State ι) (t : Task) : Decidable (InTime s t) :=
  inferInstanceAs (Decidable (_ = _))

/-- A worker starts, gives back or records a task only as long as its claim is in time. -/
def Prompt (s : State ι) : Action ι → Prop
  | .route w | .release w _ | .finalize w _ => ∀ t ∈ (s.worker w).held.head?, InTime s t
  | _ => True

/-- The state of the claims. -/
structure Claims (s : State ι) : Prop where
  ids : (s.rows.map Task.id).Nodup
  heldIds : ∀ w, ((s.worker w).held.map Task.id).Nodup
  /-- A claim that is in time is stamped on its row. -/
  stamped : ∀ w, ∀ t ∈ (s.worker w).held, InTime s t → ∃ r ∈ s.rows,
    r.id = t.id ∧ r.status = .processing ∧ r.claimedAt = some t.claimTime
  /-- It is the only one of its task. -/
  exclusive : ∀ v w, ∀ t ∈ (s.worker v).held, ∀ u ∈ (s.worker w).held,
    InTime s t → InTime s u → t.id = u.id → v = w
  /-- A task that is not finished may be tried again. -/
  retries : ∀ r ∈ s.rows, r.retryCount ≤ r.maxRetries
    ∧ (r.status = .pending ∨ r.status = .processing → r.retryCount < r.maxRetries)

variable {r : Task} {s : State ι}

theorem Claims.eq_of_id (h : Claims s) {r' : Task} (hr : r ∈ s.rows)
    (hr' : r' ∈ s.rows) (hid : r.id = r'.id) : r = r' :=
  inj_on_of_nodup_map h.ids hr hr' hid

variable {w : ι}

theorem Claims.processing (h : Claims s) {t : Task}
    (ht : t ∈ (s.worker w).held) (htime : InTime s t) (hr : r ∈ s.rows) (hid : r.id = t.id) :
    r.status = .processing ∧ r.claimedAt = some t.claimTime := by
  obtain ⟨r', hr', hid', hstatus, hclaimed⟩ := h.stamped w t ht htime
  obtain rfl : r = r' := h.eq_of_id hr hr' (hid.trans hid'.symm)
  exact ⟨hstatus, hclaimed⟩

theorem Claims.not_claimable (h : Claims s) {t : Task} (ht : t ∈ (s.worker w).held)
    (htime : InTime s t) (hr : r ∈ s.rows) (hid : r.id = t.id) : r.isClaimable s.clock = false := by
  obtain ⟨hstatus, hclaimed⟩ := h.processing ht htime hr hid
  rw [Task.isClaimable, hstatus, hclaimed, Option.elim_some, htime]
  simp

end

/-! ## One step -/

section

variable {ι : Type} {s s' : State ι} {a : Action ι}

/-- A step that changes neither the rows nor what the workers hold, later or not. -/
theorem Claims.frame (h : Claims s) (hclock : s.clock ≤ s'.clock) (hrows : s'.rows = s.rows)
    (hheld : ∀ w, (s'.worker w).held = (s.worker w).held) : Claims s' := by
  have htime : ∀ t, InTime s' t → InTime s t := fun t ht => isOlder_of_le hclock ht
  constructor
  · rw [hrows]
    exact h.ids
  · intro w
    rw [hheld]
    exact h.heldIds w
  · intro w t ht hin
    rw [hrows]
    rw [hheld] at ht
    exact h.stamped w t ht (htime t hin)
  · intro v w t ht u hu hint hinu
    rw [hheld] at ht hu
    exact h.exclusive v w t ht u hu (htime t hint) (htime u hinu)
  · rw [hrows]
    exact h.retries

theorem Claims.created (h : Claims s) {row : OutboxRow} {id : UuidText}
    (hfresh : ∀ t ∈ s.rows, t.id ≠ id) :
    Claims { s with rows := s.rows ++ [Task.created row id s.clock] } := by
  constructor
  · exact nodup_map_id_append h.ids hfresh
  · exact h.heldIds
  · intro w t ht htime
    obtain ⟨r, hr, hrow⟩ := h.stamped w t ht htime
    exact ⟨r, mem_append_left _ hr, hrow⟩
  · exact h.exclusive
  · intro r hr
    rcases mem_append.mp hr with hr | hr
    · exact h.retries r hr
    · rw [mem_singleton.mp hr]
      exact ⟨Nat.zero_le _, fun _ => Nat.succ_pos 4⟩

variable {rest : List Task} {f : Task → Task} {stage : Stage} {task : Task}

theorem Drops.inTime (hdrops : Drops s.clock w a stage f)
    (hbusy : s.worker w = .busy task rest stage) (hprompt : Prompt s a) : InTime s task := by
  cases hdrops with
  | released fault => exact hprompt task (by rw [hbusy]; rfl)
  | recorded fault stage hstage => exact hprompt task (by rw [hbusy]; rfl)

end

section

variable {ι : Type} [DecidableEq ι] {env : Env} {s s' : State ι} {a : Action ι}

theorem Claims.claimed (h : Claims s) {locked : List UuidText} {pending : List Task}
    (hpending : pending = fetchPendingTasks s.rows s.clock env.batchSize locked) :
    Claims ({ s with rows := claimRows s.rows s.clock pending }.goto w
      (Worker.next (pending.map (Task.markProcessing s.clock)))) := by
  -- a task of the batch has no other claim that is in time
  have hfree : ∀ v, ∀ t ∈ (s.worker v).held, InTime s t → ∀ p ∈ pending, t.id ≠ p.id := by
    intro v t ht htime p hp hid
    rw [hpending] at hp
    obtain ⟨hrow, hclaimable⟩ := mem_fetchPendingTasks hp
    rw [h.not_claimable ht htime hrow hid.symm] at hclaimable
    exact Bool.false_ne_true hclaimable
  have hheld : ∀ v, (({ s with rows := claimRows s.rows s.clock pending }.goto w
      (Worker.next (pending.map (Task.markProcessing s.clock)))).worker v).held
        = if v = w then pending.map (Task.markProcessing s.clock) else (s.worker v).held := by
    intro v
    rw [held_goto, Worker.held_next]
  constructor
  · rw [State.goto, map_id_claimRows]
    exact h.ids
  · intro v
    rw [hheld]
    split
    · rw [map_map, hpending]
      exact nodup_fetchPendingTasks h.ids _ _ _
    · exact h.heldIds v
  · intro v t ht htime
    rw [hheld] at ht
    split at ht
    · obtain ⟨p, hp, rfl⟩ := mem_map.mp ht
      have hrow : p ∈ s.rows := (mem_fetchPendingTasks (hpending ▸ hp)).1
      exact ⟨p.markProcessing s.clock, mem_claimRows_of_mem hp hrow, rfl, rfl, rfl⟩
    · obtain ⟨r, hr, hid, hrow⟩ := h.stamped v t ht htime
      refine ⟨r, ?_, hid, hrow⟩
      rw [hpending]
      exact mem_claimRows_of_not_claimable h.ids hr (h.not_claimable ht htime hr hid)
  · intro v v' t ht u hu htime hutime hid
    rw [hheld] at ht hu
    split at ht <;> split at hu
    · rename_i hv hv'
      rw [hv, hv']
    · obtain ⟨p, hp, rfl⟩ := mem_map.mp ht
      exact absurd hid.symm (hfree v' u hu hutime p hp)
    · obtain ⟨p, hp, rfl⟩ := mem_map.mp hu
      exact absurd hid (hfree v t ht htime p hp)
    · exact h.exclusive v v' t ht u hu htime hutime hid
  · intro r hr
    rw [hpending] at hr
    rcases mem_claimRows h.ids hr with hr | ⟨p, hp, hclaimable, rfl⟩
    · exact h.retries r hr
    · obtain ⟨hle, hlt⟩ := h.retries p hp
      refine ⟨hle, fun _ => ?_⟩
      -- a claimable task is unfinished, or failed with retries left
      cases hstatus : p.status with
      | pending => exact hlt (.inl hstatus)
      | processing => exact hlt (.inr hstatus)
      | completed => simp [Task.isClaimable, hstatus] at hclaimable
      | failed =>
        have hleft : p.retryCount < p.maxRetries := by
          simpa [Task.isClaimable, hstatus] using hclaimable
        exact hleft

theorem Claims.dropped (h : Claims s)
    (hbusy : s.worker w = .busy task rest stage) (htime : InTime s task)
    (hdrops : Drops s.clock w a stage f) : Claims (s.leave w task rest f) := by
  have htask : task ∈ (s.worker w).held := by
    rw [hbusy]
    exact mem_cons_self
  have hheld : ∀ v, ((s.leave w task rest f).worker v).held
      = if v = w then rest else (s.worker v).held := by
    intro v
    rw [State.leave, held_goto, Worker.held_next]
  have hsub : ∀ v, ∀ t ∈ ((s.leave w task rest f).worker v).held, t ∈ (s.worker v).held := by
    intro v t ht
    rw [hheld] at ht
    split at ht
    · rename_i hv
      rw [hv, hbusy]
      exact mem_cons_of_mem _ ht
    · exact ht
  -- the claims in time that are left are of other tasks
  have hother : ∀ v, ∀ t ∈ ((s.leave w task rest f).worker v).held, InTime s t →
      t.id ≠ task.id := by
    intro v t ht hin hid
    obtain rfl : v = w := h.exclusive v w t (hsub v t ht) task htask hin htime hid
    rw [hheld, if_pos rfl] at ht
    have hnodup := h.heldIds v
    rw [hbusy, Worker.held, map_cons, nodup_cons] at hnodup
    exact hnodup.1 (mem_map.mpr ⟨t, ht, hid⟩)
  constructor
  · rw [State.leave, State.goto, map_id_updateTask (fun t => (hdrops.spec t).1)]
    exact h.ids
  · intro v
    rw [hheld]
    split
    · have hnodup := h.heldIds w
      rw [hbusy, Worker.held, map_cons, nodup_cons] at hnodup
      exact hnodup.2
    · exact h.heldIds v
  · intro v t ht hin
    obtain ⟨r, hr, hid, hrow⟩ := h.stamped v t (hsub v t ht) hin
    exact ⟨r, mem_updateTask_of_ne hr (hid ▸ hother v t ht hin), hid, hrow⟩
  · intro v v' t ht u hu hint hinu
    exact h.exclusive v v' t (hsub v t ht) u (hsub v' u hu) hint hinu
  · intro r hr
    obtain ⟨r', hr', rfl⟩ := mem_updateTask.mp hr
    split_ifs with hid
    · obtain ⟨hle, hlt⟩ := h.retries r' hr'
      have hlt := hlt (.inr (h.processing htask htime hr' hid).1)
      obtain ⟨-, hmax, -, hcount⟩ := hdrops.spec r'
      rw [hmax]
      rcases hcount with hcount | ⟨hcount, hfailed⟩
      · rw [hcount]
        exact ⟨hle, fun _ => hlt⟩
      · rw [hcount, hfailed]
        exact ⟨hlt, by simp⟩
    · exact h.retries r' hr'

theorem Claims.step (h : Claims s) (hprompt : Prompt s a) (hstep : step env s a = some s') :
    Claims s' := by
  cases step_effect hstep with
  | created row id hfresh => exact h.created hfresh
  | ticked micros => exact h.frame (Nat.le_add_right _ _) rfl (fun _ => rfl)
  | claimed w locked pending hidle hpending => exact h.claimed hpending
  | moved _ w task rest stage stage' logged locks hbusy hmoves =>
    refine h.frame le_rfl rfl ?_
    intro v
    rw [held_goto]
    split
    · rename_i hv
      rw [hv, hbusy]
      rfl
    · rfl
  | dropped _ w task rest stage f hbusy hdrops =>
    exact h.dropped hbusy (hdrops.inTime hbusy hprompt) hdrops

theorem Claims.step_completed (h : Claims s) (hprompt : Prompt s a)
    (hstep : Outbox.step env s a = some s') (hr : r ∈ s.rows)
    (hcompleted : r.status = .completed) : r ∈ s'.rows ∧ s'.starts r.id = s.starts r.id := by
  -- whoever is in time with a task has a row that is not completed
  have hne : ∀ {w : ι} {t : Task}, t ∈ (s.worker w).held.head? → InTime s t → r.id ≠ t.id := by
    intro w t ht htime hid
    rw [(h.processing (mem_of_mem_head? ht) htime hr hid).1] at hcompleted
    cases hcompleted
  have hapart : Apart r.id s a := by
    cases a with
    | route | release | finalize => exact fun t ht => hne ht (hprompt t ht)
    | create | tick | claim | lock | finish | unlock => trivial
  exact step_apart hstep h.ids hr (by simp [Task.isClaimable, hcompleted]) hapart

/-! ## Whole runs -/

/-- The workers start with empty hands. -/
structure AtRest (s : State ι) : Prop where
  ids : (s.rows.map Task.id).Nodup
  idle : ∀ w, s.worker w = .idle
  retries : ∀ r ∈ s.rows, r.retryCount ≤ r.maxRetries
    ∧ (r.status = .pending ∨ r.status = .processing → r.retryCount < r.maxRetries)

omit [DecidableEq ι] in
theorem AtRest.claims (h : AtRest s) : Claims s := by
  have hnone : ∀ w, (s.worker w).held = [] := fun w => by rw [h.idle w]; rfl
  constructor
  · exact h.ids
  · intro w
    rw [hnone]
    exact nodup_nil
  · intro w t ht
    rw [hnone] at ht
    exact absurd ht not_mem_nil
  · intro v w t ht
    rw [hnone] at ht
    exact absurd ht not_mem_nil
  · exact h.retries

/-- In a run of any number of workers in which no task is started, given back or recorded later than
ten minutes after its claim, a task that has become completed stays as it is, its handler is not
started again, and no task has been tried more often than it may be. -/
theorem completed_stays {s₀ s₁ s₂ : State ι} {before afterwards : List (Action ι)} (env : Env)
    (hinit : AtRest s₀) (hprompt : Meets (step env) Prompt s₀ (before ++ afterwards))
    (hbefore : run (step env) s₀ before = some s₁)
    (hafterwards : run (step env) s₁ afterwards = some s₂) :
    (∀ r ∈ s₁.rows, r.status = .completed → r ∈ s₂.rows ∧ s₂.starts r.id = s₁.starts r.id)
      ∧ ∀ r ∈ s₂.rows, r.retryCount ≤ r.maxRetries := by
  obtain ⟨hmeets₁, hmeets₂⟩ := hprompt.of_append hbefore
  have hclaims₁ : Claims s₁ :=
    invariant_of_run (fun _ _ _ h hp hstep => h.step hp hstep) hinit.claims hmeets₁ hbefore
  have hclaims₂ : Claims s₂ :=
    invariant_of_run (fun _ _ _ h hp hstep => h.step hp hstep) hclaims₁ hmeets₂ hafterwards
  refine ⟨?_, fun r hr => (hclaims₂.retries r hr).1⟩
  intro r hr hcompleted
  have hend := invariant_of_run
    (I := fun s => Claims s ∧ r ∈ s.rows ∧ s.starts r.id = s₁.starts r.id)
    (fun s a s' h hp hstep => by
      obtain ⟨hmem, hstarts⟩ := h.1.step_completed hp hstep h.2.1 hcompleted
      exact ⟨h.1.step hp hstep, hmem, hstarts.trans h.2.2⟩)
    ⟨hclaims₁, hr, rfl⟩ hmeets₂ hafterwards
  exact hend.2

end

/-! ## A slow worker and a fast one -/

instance decidablePrompt {ι : Type} (s : State ι) : ∀ a, Decidable (Prompt s a)
  | .route w | .release w _ | .finalize w _ =>
    inferInstanceAs (Decidable (∀ t ∈ (s.worker w).held.head?, InTime s t))
  | .create _ _ | .tick _ | .claim _ _ | .lock _ | .finish _ _ | .unlock _ =>
    inferInstanceAs (Decidable True)

namespace Sample

def env : Env := ⟨100, true, ⟨fun _ => "0.0", fun s => s⟩⟩

def taskId : UuidText :=
  ⟨"00000000-0000-4000-8000-000000000011", by decide +kernel, by decide +kernel⟩

def task (retryCount : Nat) : Task :=
  { Task.created ⟨"GRAPH_INGEST", "graph:e1", []⟩ taskId 0 with
    status := if retryCount = 0 then .pending else .failed
    retryCount := retryCount }

def start (retryCount : Nat) : State Bool :=
  ⟨0, [task retryCount], fun _ => none, fun _ => .idle, []⟩

def begin (w : Bool) : List (Action Bool) := [.claim w [], .lock w, .route w]

def succeed (w : Bool) : List (Action Bool) := [.finish w (.returns none), .finalize w false]

def fail (w : Bool) : List (Action Bool) :=
  [.finish w (.raises "timeout"), .unlock w, .finalize w false]

def wait : List (Action Bool) := [.tick (outboxReclaim + 1)]

def inOrder : List (Action Bool) := begin false ++ fail false ++ begin true ++ succeed true

def completed : State Bool := (run (step env) (start 0) inOrder).get (by decide +kernel)

def later : List (Action Bool) := wait ++ [.claim false [], .claim true []]

def afterwards : State Bool := (run (step env) completed later).get (by decide +kernel)

def view (s : State Bool) : List (OutboxStatus × Nat) × Nat :=
  (s.rows.map (fun t => (t.status, t.retryCount)), s.starts taskId)

end Sample

open Sample in
theorem prompt_workers_completed_stays :
    (∀ r ∈ completed.rows, r.status = .completed →
        r ∈ afterwards.rows ∧ afterwards.starts r.id = completed.starts r.id)
      ∧ view completed = ([(.completed, 1)], 2) ∧ view afterwards = ([(.completed, 1)], 2) := by
  have hinit : AtRest (start 0) := by
    refine ⟨by decide +kernel, fun _ => rfl, ?_⟩
    intro r hr
    rw [mem_singleton.mp hr]
    exact ⟨by decide, fun _ => by decide⟩
  have hprompt : Meets (step env) Prompt (start 0) (inOrder ++ later) := by decide +kernel
  exact ⟨(completed_stays env hinit hprompt (Option.eq_some_of_isSome _)
    (Option.eq_some_of_isSome _)).1, by decide +kernel, by decide +kernel⟩

open Sample in
/-- A worker is slower than its claim. Another one completes the task; then the first one records
its failure, and the handler is started a third time. With one try left, two failures are
recorded. -/
theorem slow_worker_reopens :
    (run (step env) (start 0) (begin false ++ wait ++ begin true ++ succeed true)).map view
        = some ([(.completed, 0)], 2)
      ∧ (run (step env) (start 0) (begin false ++ wait ++ begin true ++ succeed true
          ++ fail false)).map view = some ([(.failed, 1)], 2)
      ∧ (run (step env) (start 0) (begin false ++ wait ++ begin true ++ succeed true ++ fail false
          ++ wait ++ begin true)).map view = some ([(.processing, 1)], 3)
      ∧ (run (step env) (start 4) (begin false ++ wait ++ begin true ++ fail true
          ++ fail false)).map view = some ([(.failed, 6)], 2) := by
  refine ⟨?_, ?_, ?_, ?_⟩ <;> decide +kernel

end Tarka.Orchestrator.Outbox
