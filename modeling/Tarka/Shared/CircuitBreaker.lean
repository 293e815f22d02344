import Tarka.Lib.Steps

/-! # The shared circuit breaker (`shared/circuit.py`)

`AsyncCircuitBreaker` counts consecutive failures. From the threshold on it blocks calls until the
recovery time is over; the first check after that unblocks it. A call checks under the lock, runs
its factory without it, and records the outcome under the lock again, so that calls may overlap.

The recovery time expires at a moment, not at a step: a *window* is the time from there until a
call that was admitted in it returns. One call should be admitted in a window, as a probe.
`one_probe` says that this is so in every run in which no call asks for admission while such a
probe is running; `two_probes` is a run in which two callers ask at the same time.

Times are exact rational seconds of the monotonic clock. Of a sum of times the proofs use only that
it is later than the first of them, and a recovery time is at least a hundredth of a second, so that
the rounded sum of the source is later as well. -/

namespace Tarka.Shared

open Tarka.Lib List Option Nat Steps

/-- The settings of a breaker. -/
structure BreakerConfig where
  threshold : Nat
  recovery : ℚ
  threshold_pos : 1 ≤ threshold
  recovery_pos : 0 < recovery

/-- `AsyncCircuitBreaker.__init__`. -/
def BreakerConfig.of (failureThreshold : Int) (recoverySeconds : ℚ) : BreakerConfig where
  threshold := (max 1 failureThreshold).toNat
  recovery := max (1 / 100) recoverySeconds
  threshold_pos := by omega
  recovery_pos := lt_of_lt_of_le (by norm_num) (le_max_left _ _)

/-- How a call ends. A call that is cancelled before it can take the lock again records nothing. -/
inductive CallOutcome where
  | success
  | failure
  | unrecorded
  deriving DecidableEq

/-- A call that was admitted, with the moment of its admission. -/
structure Call where
  id : Nat
  admittedAt : ℚ
  deriving DecidableEq

/-- The breaker, the clock and the calls that run. The last two fields are history: every admitted
call, and the moments of expiry whose window has not ended. -/
structure Breaker where
  failures : Nat
  blockedUntil : Option ℚ
  now : ℚ
  nextCall : Nat
  running : List Call
  admitted : List Call
  windows : List ℚ
  deriving DecidableEq

def Breaker.init : Breaker := ⟨0, none, 0, 0, [], [], []⟩

/-- `_is_blocked_locked`: whether calls are blocked, and what it leaves in `_blocked_until`. -/
def isBlockedLocked (blockedUntil : Option ℚ) (now : ℚ) : Bool × Option ℚ :=
  match blockedUntil with
  | none => (false, none)
  | some u => if u ≤ now then (false, none) else (true, some u)

inductive BreakerAct where
  /-- A call arrives at the admission check. -/
  | arrive (t : ℚ)
  | isOpen (t : ℚ)
  | finish (c : Call) (outcome : CallOutcome) (t : ℚ)

def BreakerAct.time : BreakerAct → ℚ
  | .arrive t => t
  | .isOpen t => t
  | .finish _ _ t => t

namespace Breaker

/-- The clock moves on. History: a recovery time that is over by then starts a window. -/
def tick (b : Breaker) (t : ℚ) : Breaker :=
  { b with
    now := t
    windows :=
      match b.blockedUntil with
      | some u => if u ≤ t then u :: b.windows else b.windows
      | none => b.windows }

/-- The admission check of `call`. A blocked call raises `CircuitOpenError`. -/
def arrive (b : Breaker) : Breaker :=
  match isBlockedLocked b.blockedUntil b.now with
  | (true, blockedUntil) => { b with blockedUntil := blockedUntil, nextCall := b.nextCall + 1 }
  | (false, blockedUntil) =>
    { b with
      blockedUntil := blockedUntil
      nextCall := b.nextCall + 1
      running := b.running ++ [⟨b.nextCall, b.now⟩]
      admitted := b.admitted ++ [⟨b.nextCall, b.now⟩] }

/-- `is_open` runs the same check. -/
def isOpen (b : Breaker) : Breaker :=
  { b with blockedUntil := (isBlockedLocked b.blockedUntil b.now).2 }

def record (cfg : BreakerConfig) (b : Breaker) : CallOutcome → Breaker
  | .success => { b with failures := 0, blockedUntil := none }
  | .failure =>
    { b with
      failures := b.failures + 1
      blockedUntil :=
        if cfg.threshold ≤ b.failures + 1 then some (b.now + cfg.recovery) else b.blockedUntil }
  | .unrecorded => b

/-- A call returns. History: it ends the windows in which it was admitted. -/
def leave (b : Breaker) (c : Call) : Breaker :=
  { b with
    running := b.running.filter (fun c' => decide (c' ≠ c))
    windows := b.windows.filter (fun u => decide (c.admittedAt < u)) }

end Breaker

/-- One atomic step: the clock does not run backwards, and only running calls return. -/
def breakerStep (cfg : BreakerConfig) (b : Breaker) (a : BreakerAct) : Option Breaker :=
  if b.now ≤ a.time then
    let b := b.tick a.time
    match a with
    | .arrive _ => some b.arrive
    | .isOpen _ => some b.isOpen
    | .finish c outcome _ => if c ∈ b.running then some ((b.leave c).record cfg outcome) else none
  else none

/-- No call asks for admission while a call admitted in a window that has not ended is running. -/
def NoProbeRunning (b : Breaker) (a : BreakerAct) : Prop :=
  match a with
  | .arrive _ => ∀ c ∈ b.running, ∀ u ∈ b.windows, c.admittedAt < u
  | _ => True

instance (b : Breaker) (a : BreakerAct) : Decidable (NoProbeRunning b a) :=
  match a with
  | .arrive _ => inferInstanceAs (Decidable (∀ c ∈ b.running, ∀ u ∈ b.windows, c.admittedAt < u))
  | .isOpen _ => inferInstanceAs (Decidable True)
  | .finish _ _ _ => inferInstanceAs (Decidable True)

/-! ## Steps -/

variable {cfg : BreakerConfig} {b b' : Breaker} {a : BreakerAct} {u : ℚ} {before : List Call}

/-- The steps, one constructor each, on the breaker after the tick. -/
inductive BreakerSteps (cfg : BreakerConfig) (b : Breaker) : BreakerAct → Breaker → Prop
  | reject (t u : ℚ) (hu : b.blockedUntil = some u) (ht : t < u) :
      BreakerSteps cfg b (.arrive t) { b.tick t with nextCall := b.nextCall + 1 }
  | accept (t : ℚ) (ht : ∀ u, b.blockedUntil = some u → u ≤ t) :
      BreakerSteps cfg b (.arrive t)
        { b.tick t with
          blockedUntil := none
          nextCall := b.nextCall + 1
          running := b.running ++ [⟨b.nextCall, t⟩]
          admitted := b.admitted ++ [⟨b.nextCall, t⟩] }
  | isOpen (t : ℚ) : BreakerSteps cfg b (.isOpen t) (b.tick t).isOpen
  | finish (c : Call) (outcome : CallOutcome) (t : ℚ) (hc : c ∈ b.running) :
      BreakerSteps cfg b (.finish c outcome t) (((b.tick t).leave c).record cfg outcome)

theorem isBlockedLocked_cases {blockedUntil : Option ℚ} {now : ℚ} :
    (∃ u, blockedUntil = some u ∧ now < u ∧ isBlockedLocked blockedUntil now = (true, some u)) ∨
      ((∀ u, blockedUntil = some u → u ≤ now) ∧
        isBlockedLocked blockedUntil now = (false, none)) := by
  cases blockedUntil with
  | none =>
    right
    refine ⟨?_, rfl⟩
    intro u h
    cases h
  | some u =>
    by_cases hu : u ≤ now
    · right
      refine ⟨?_, by simp [isBlockedLocked, hu]⟩
      intro v h
      cases h
      exact hu
    · left
      exact ⟨u, rfl, not_le.mp hu, by simp [isBlockedLocked, hu]⟩

theorem steps_of_breakerStep (h : breakerStep cfg b a = some b') :
    b.now ≤ a.time ∧ BreakerSteps cfg b a b' := by
  unfold breakerStep at h
  split_ifs at h with hnow
  refine ⟨hnow, ?_⟩
  cases a with
  | arrive t =>
    have hb : (b.tick t).arrive = b' := some.inj h
    subst hb
    unfold Breaker.arrive
    rcases isBlockedLocked_cases with
      ⟨u, hu, hlt, heq⟩ | ⟨hall, heq⟩
    · rw [heq]
      have hstep : BreakerSteps cfg b (.arrive t) { b.tick t with nextCall := b.nextCall + 1 } :=
        .reject t u hu hlt
      rw [← hu]
      exact hstep
    · rw [heq]
      exact .accept t hall
  | isOpen t =>
    cases h
    exact .isOpen t
  | finish c outcome t =>
    simp only [ite_none_right_eq_some] at h
    obtain ⟨hc, hb⟩ := h
    cases hb
    exact .finish c outcome t hc

/-! ## Calls and windows -/

/-- Running calls are known, and a breaker that is open has admitted them before it expires. -/
structure WellFormed (b : Breaker) : Prop where
  known : ∀ c ∈ b.running, c.id < b.nextCall
  past : ∀ c ∈ b.running, c.admittedAt ≤ b.now
  earlier : ∀ u, b.blockedUntil = some u → ∀ c ∈ b.running, c.admittedAt < u

theorem wellFormed_init : WellFormed .init := by
  constructor <;> simp [Breaker.init]

variable {t : ℚ}

theorem mem_tick_windows {v : ℚ} (hv : v ∈ b.windows) : v ∈ (b.tick t).windows := by
  show v ∈ (match b.blockedUntil with
    | some u => if u ≤ t then u :: b.windows else b.windows
    | none => b.windows)
  split
  · split_ifs
    · exact mem_cons_of_mem _ hv
    · exact hv
  · exact hv

theorem mem_tick_of_expired (hu : b.blockedUntil = some u) (ht : u ≤ t) :
    u ∈ (b.tick t).windows := by
  simp [Breaker.tick, hu, ht]

variable {c : Call}

theorem leave_running {c' : Call} : c' ∈ (b.leave c).running ↔ c' ∈ b.running ∧ c' ≠ c := by
  simp [Breaker.leave]

variable {o : CallOutcome}

theorem record_running {cfg : BreakerConfig} {b : Breaker} :
    (b.record cfg o).running = b.running ∧ (b.record cfg o).admitted = b.admitted ∧
      (b.record cfg o).windows = b.windows ∧ (b.record cfg o).nextCall = b.nextCall ∧
      (b.record cfg o).now = b.now := by
  cases o <;> exact ⟨rfl, rfl, rfl, rfl, rfl⟩

/-- What a return leaves of the block: nothing, the old one, or one that starts now. -/
theorem record_blockedUntil {v : ℚ} (h : (b.record cfg o).blockedUntil = some v) :
    b.blockedUntil = some v ∨ v = b.now + cfg.recovery := by
  cases o with
  | success => cases h
  | failure =>
    simp only [Breaker.record] at h
    split_ifs at h with hthreshold
    · exact .inr (some.inj h).symm
    · exact .inl h
  | unrecorded => exact Or.inl h

theorem WellFormed.finish (hI : WellFormed b) {outcome : CallOutcome} (hnow : b.now ≤ t) :
    WellFormed (((b.tick t).leave c).record cfg outcome) := by
  obtain ⟨hrunning, -, -, hnext, hclock⟩ := record_running
  have hmem : ∀ c' ∈ (((b.tick t).leave c).record cfg outcome).running, c' ∈ b.running := by
    intro c' hc'
    rw [hrunning] at hc'
    exact (leave_running.mp hc').1
  refine ⟨?_, ?_, ?_⟩
  · intro c' hc'
    rw [hnext]
    exact hI.known c' (hmem c' hc')
  · intro c' hc'
    rw [hclock]
    exact (hI.past c' (hmem c' hc')).trans hnow
  · intro v hv c' hc'
    rcases record_blockedUntil hv with hv | hv
    · exact hI.earlier v hv c' (hmem c' hc')
    · have hpos := cfg.recovery_pos
      calc c'.admittedAt ≤ t := (hI.past c' (hmem c' hc')).trans hnow
        _ < t + cfg.recovery := by linarith
        _ = v := hv.symm

theorem WellFormed.step (hI : WellFormed b) (h : breakerStep cfg b a = some b') :
    WellFormed b' := by
  obtain ⟨hnow, h⟩ := steps_of_breakerStep h
  cases h with
  | reject t u hu ht =>
    refine ⟨?_, ?_, hI.earlier⟩
    · intro c hc
      exact lt_succ_of_lt (hI.known c hc)
    · intro c hc
      exact (hI.past c hc).trans hnow
  | accept t ht =>
    refine ⟨?_, ?_, ?_⟩
    · intro c hc
      show c.id < b.nextCall + 1
      rcases mem_append.mp hc with hc | hc
      · have := hI.known c hc
        omega
      · rw [mem_singleton.mp hc]
        exact lt_succ_self b.nextCall
    · intro c hc
      rcases mem_append.mp hc with hc | hc
      · exact (hI.past c hc).trans hnow
      · rw [mem_singleton.mp hc]
        exact le_refl t
    · intro u hu
      cases hu
  | isOpen t =>
    refine ⟨hI.known, ?_, ?_⟩
    · intro c hc
      exact (hI.past c hc).trans hnow
    · intro u hu
      apply hI.earlier u
      have hu' : (isBlockedLocked b.blockedUntil t).2 = some u := hu
      rcases isBlockedLocked_cases with ⟨v, hv, -, heq⟩ | ⟨-, heq⟩
      · rw [heq] at hu'
        rw [hv, ← hu']
      · rw [heq] at hu'
        cases hu'
  | finish c outcome t hc => exact hI.finish hnow

/-- The calls since the recovery time expired at `u`: none was admitted yet, one was and is
running, or one of them has returned. -/
inductive SinceExpiry (u : ℚ) (before : List Call) (b : Breaker) : Prop
  | none (hadmitted : b.admitted = before) (hwindow : u ∈ b.windows ∨ b.blockedUntil = some u)
      (hold : ∀ c ∈ b.running, c.admittedAt < u)
  | probe (c : Call) (hadmitted : b.admitted = before ++ [c]) (hc : c ∈ b.running)
      (hu : u ≤ c.admittedAt) (hwindow : u ∈ b.windows)
      (hold : ∀ c' ∈ b.running, c' ≠ c → c'.admittedAt < u)
  | returned (c : Call) (after : List Call) (hadmitted : b.admitted = before ++ after)
      (hafter : c ∈ after) (hgone : c ∉ b.running) (hc : c.id < b.nextCall)

/-- Once the expiry has been noticed, its window lasts while only earlier calls return. -/
theorem window_of_step (ht : u ≤ t) (hwindow : u ∈ b.windows ∨ b.blockedUntil = some u) :
    u ∈ (b.tick t).windows := by
  rcases hwindow with hu | hu
  · exact mem_tick_windows hu
  · exact mem_tick_of_expired hu ht

theorem window_of_leave (hu : u ∈ b.windows) (hc : c.admittedAt < u) : u ∈ (b.leave c).windows := by
  show u ∈ b.windows.filter (fun u => decide (c.admittedAt < u))
  simp [hu, hc]

theorem SinceExpiry.none_step (hadmitted : b.admitted = before)
    (hwindow : u ∈ b.windows ∨ b.blockedUntil = some u) (hold : ∀ c ∈ b.running, c.admittedAt < u)
    (ht : u ≤ a.time) (h : BreakerSteps cfg b a b') : SinceExpiry u before b' := by
  have hu : u ∈ (b.tick a.time).windows := window_of_step ht hwindow
  cases h with
  | reject t v hv hlt => exact .none hadmitted (Or.inl hu) hold
  | accept t hall =>
    refine .probe ⟨b.nextCall, t⟩ ?_ (by simp) ht hu ?_
    · show b.admitted ++ [_] = before ++ [_]
      rw [hadmitted]
    · intro c hc hne
      rcases mem_append.mp hc with hc | hc
      · exact hold c hc
      · exact absurd (mem_singleton.mp hc) hne
  | isOpen t => exact .none hadmitted (Or.inl hu) hold
  | finish c outcome t hc =>
    obtain ⟨hrunning, hadm, hwin, -, -⟩ := record_running
    refine .none (by rw [hadm]; exact hadmitted) (.inl ?_) ?_
    · rw [hwin]
      exact window_of_leave hu (hold c hc)
    · intro c' hc'
      rw [hrunning] at hc'
      exact hold c' (leave_running.mp hc').1

/-- While the probe runs nobody else is admitted, since nobody asks. -/
theorem SinceExpiry.probe_step (hI : WellFormed b) (hadmitted : b.admitted = before ++ [c])
    (hc : c ∈ b.running) (hu : u ≤ c.admittedAt) (hwindow : u ∈ b.windows)
    (hold : ∀ c' ∈ b.running, c' ≠ c → c'.admittedAt < u) (hcond : NoProbeRunning b a)
    (h : BreakerSteps cfg b a b') : SinceExpiry u before b' := by
  have hasks : ∀ t, a ≠ .arrive t := by
    rintro t rfl
    have hlt : c.admittedAt < u := hcond c hc u hwindow
    linarith
  cases h with
  | reject t v hv hlt => exact absurd rfl (hasks t)
  | accept t hall => exact absurd rfl (hasks t)
  | isOpen t => exact .probe c hadmitted hc hu (mem_tick_windows hwindow) hold
  | finish d outcome t hd =>
    obtain ⟨hrunning, hadm, hwin, hnext, -⟩ :=
      record_running
    by_cases hdc : d = c
    · subst hdc
      refine .returned d [d] (by rw [hadm]; exact hadmitted) (by simp) ?_ ?_
      · rw [hrunning]
        intro hmem
        exact (leave_running.mp hmem).2 rfl
      · rw [hnext]
        exact hI.known d hd
    · refine .probe c (by rw [hadm]; exact hadmitted) ?_ hu ?_ ?_
      · rw [hrunning]
        exact leave_running.mpr ⟨hc, fun h => hdc h.symm⟩
      · rw [hwin]
        exact window_of_leave (mem_tick_windows hwindow) (hold d hd hdc)
      · intro c' hc' hne
        rw [hrunning] at hc'
        exact hold c' (leave_running.mp hc').1 hne

/-- A call that has returned does not run again: its number is taken. -/
theorem SinceExpiry.returned_step {after : List Call} (hadmitted : b.admitted = before ++ after)
    (hafter : c ∈ after) (hgone : c ∉ b.running) (hc : c.id < b.nextCall)
    (h : BreakerSteps cfg b a b') : SinceExpiry u before b' := by
  cases h with
  | reject t v hv hlt => exact .returned c after hadmitted hafter hgone (lt_succ_of_lt hc)
  | accept t hall =>
    refine .returned c (after ++ [⟨b.nextCall, t⟩]) ?_ (mem_append_left _ hafter) ?_
      (lt_succ_of_lt hc)
    · show b.admitted ++ [_] = before ++ (after ++ [_])
      rw [hadmitted, append_assoc]
    · intro hmem
      rcases mem_append.mp hmem with hmem | hmem
      · exact hgone hmem
      · rw [mem_singleton.mp hmem] at hc
        exact absurd hc (lt_irrefl b.nextCall)
  | isOpen t => exact .returned c after hadmitted hafter hgone hc
  | finish d outcome t hd =>
    obtain ⟨hrunning, hadm, -, hnext, -⟩ :=
      record_running
    refine .returned c after (by rw [hadm]; exact hadmitted) hafter ?_ (by rw [hnext]; exact hc)
    rw [hrunning]
    intro hmem
    exact hgone (leave_running.mp hmem).1

/-- **One step** after the expiry. -/
theorem SinceExpiry.step (hI : WellFormed b) (hsince : SinceExpiry u before b)
    (hcond : NoProbeRunning b a) (ht : u ≤ a.time) (h : BreakerSteps cfg b a b') :
    SinceExpiry u before b' := by
  cases hsince with
  | none hadmitted hwindow hold => exact none_step hadmitted hwindow hold ht h
  | probe c hadmitted hc hu hwindow hold =>
    exact probe_step hI hadmitted hc hu hwindow hold hcond h
  | returned c after hadmitted hafter hgone hc =>
    exact returned_step hadmitted hafter hgone hc h

/-- **One probe.** Take a run in which no call asks for admission while a probe is running, up to a
moment at which the breaker is open until `u`. Before `u` no call is admitted; and of the calls
that are admitted from `u` on at most one is, until one of them returns. -/
theorem one_probe (cfg : BreakerConfig) (as bs : List BreakerAct) (b b' : Breaker) (u : ℚ)
    (hmeets : Steps.Meets (breakerStep cfg) NoProbeRunning .init (as ++ bs))
    (hrun : Steps.run (breakerStep cfg) .init as = some b) (hopen : b.blockedUntil = some u)
    (hrun' : Steps.run (breakerStep cfg) b bs = some b') (hafter : ∀ a ∈ bs, u ≤ a.time)
    (hprobe : ∀ c ∈ b'.admitted.drop b.admitted.length, c ∈ b'.running) :
    (b'.admitted.drop b.admitted.length).length ≤ 1 ∧
    ∀ t b₁, t < u → breakerStep cfg b (.arrive t) = some b₁ → b₁.admitted = b.admitted := by
  obtain ⟨hmeets₁, hmeets₂⟩ := hmeets.of_append hrun
  have hI : WellFormed b :=
    invariant_of_run (fun _ _ _ hI _ h => hI.step h) wellFormed_init hmeets₁ hrun
  constructor
  · have hstart : SinceExpiry u b.admitted b := .none rfl (.inr hopen) (hI.earlier u hopen)
    have hend : WellFormed b' ∧ SinceExpiry u b.admitted b' := by
      refine invariant_of_run (I := fun b₂ => WellFormed b₂ ∧ SinceExpiry u b.admitted b₂)
        ?_ ⟨hI, hstart⟩ (hmeets₂.and_forall hafter) hrun'
      rintro b₂ a b₃ ⟨hI₂, hsince⟩ ⟨hcond, ht⟩ h
      exact ⟨hI₂.step h, hsince.step hI₂ hcond ht (steps_of_breakerStep h).2⟩
    cases hend.2 with
    | none hadmitted hwindow hold => simp [hadmitted]
    | probe c hadmitted hc hu hwindow hold => simp [hadmitted]
    | returned c after hadmitted hin hgone hc =>
      rw [hadmitted, drop_left] at hprobe
      exact absurd (hprobe c hin) hgone
  · intro t b₁ ht h
    cases (steps_of_breakerStep h).2 with
    | reject t v hv hlt => rfl
    | accept t hall => exact absurd (hall u hopen) (not_le.mpr ht)

namespace Reference

def breaker : BreakerConfig := .of 1 30

/-- A failure after one second opens the breaker until second 31. -/
def failed : List BreakerAct := [.arrive 0, .finish ⟨0, 0⟩ .failure 1]

def opened : Breaker := ⟨1, some 31, 1, 1, [], [⟨0, 0⟩], []⟩

end Reference

open Reference

theorem one_probe_alone :
    Steps.run (breakerStep breaker) .init failed = some opened ∧
    ∃ b', Steps.run (breakerStep breaker) opened [.arrive 31, .isOpen 32]
      = some b' ∧ (b'.admitted.drop opened.admitted.length).length ≤ 1 := by
  have hrun : run (breakerStep breaker) .init failed
      = some opened := by decide +kernel
  have hrun' : run (breakerStep breaker) opened [.arrive 31, .isOpen 32]
      = some ⟨1, none, 32, 2, [⟨1, 31⟩], [⟨0, 0⟩, ⟨1, 31⟩], [31]⟩ := by decide +kernel
  refine ⟨hrun, _, hrun', ?_⟩
  refine (one_probe breaker failed [.arrive 31, .isOpen 32] _ _ 31 ?_ hrun rfl hrun' ?_ ?_).1
  · decide +kernel
  · decide +kernel
  · intro c hc
    simpa [opened] using hc

/-- After the expiry two callers arrive before either call returns, and both are admitted. -/
theorem two_probes : ∃ b',
    Steps.run (breakerStep breaker) .init failed = some opened ∧
    opened.blockedUntil = some 31 ∧
    Steps.run (breakerStep breaker) opened [.arrive 31, .arrive 32] = some b' ∧
    (∀ c ∈ b'.admitted.drop opened.admitted.length, c ∈ b'.running) ∧
    (b'.admitted.drop opened.admitted.length).length = 2 := by
  have hrun' : run (breakerStep breaker) opened [.arrive 31, .arrive 32]
      = some ⟨1, none, 32, 3, [⟨1, 31⟩, ⟨2, 32⟩], [⟨0, 0⟩, ⟨1, 31⟩, ⟨2, 32⟩], [31]⟩ := by
    decide +kernel
  refine ⟨_, by decide +kernel, rfl, hrun', ?_, rfl⟩
  intro c hc
  simpa [opened] using hc

end Tarka.Shared
