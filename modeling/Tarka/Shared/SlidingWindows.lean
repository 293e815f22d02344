import Mathlib.Data.Rat.Floor
import Mathlib.Data.List.Induction
import Mathlib.Tactic.Linarith
import Tarka.Lib.Window

/-! # Sliding windows

Two queues of times: the failures of the Rust engine (`rust_ffi_circuit.py`), which open its circuit
and are forgotten at a success, and the admissions of every key (`minute_rate_limit.py`). The times
and the length of a window are doubles, and so is their difference: it is rounded. -/

namespace Tarka.Shared

open Tarka.Lib.Window List

/-- `now - window`, which `fl` rounds to a double. -/
def cutoff (fl : ℚ → ℚ) (window now : ℚ) : ℚ := fl (now - window)

variable {fl : ℚ → ℚ} {now : ℚ}

theorem cutoff_mono (hfl : Monotone fl) (window : ℚ) {t : ℚ} (h : t ≤ now) :
    cutoff fl window t ≤ cutoff fl window now :=
  hfl (sub_le_sub_right h window)

/-- Rounding to doubles between 512 and 1024, which lie `2 ^ (-43)` apart. -/
def flBelow1024 (x : ℚ) : ℚ := ⌊x * 2 ^ 43 + 1 / 2⌋ / 2 ^ 43

/-- The doubles that Python reads from `0.1` and `1000.1`. -/
def tenth : ℚ := 3602879701896397 / 2 ^ 55

def thousandTenth : ℚ := 8796972631510221 / 2 ^ 43

theorem monotone_flBelow1024 : Monotone flBelow1024 := by
  intro x y hxy
  have hfloor : ⌊x * 2 ^ 43 + 1 / 2⌋ ≤ ⌊y * 2 ^ 43 + 1 / 2⌋ := Int.floor_mono (by linarith)
  exact div_le_div_of_nonneg_right (Int.cast_le.mpr hfloor) (by norm_num)

/-! ## The circuit of the Rust engine -/

namespace RustFfiCircuit

inductive Call where
  | recordRustFfiSuccess
  | recordRustFfiFailure (now : ℚ)
  | failuresInWindow (now : ℚ)

def Call.time? : Call → Option ℚ
  | recordRustFfiSuccess => none
  | recordRustFfiFailure now => some now
  | failuresInWindow now => some now

def step (fl : ℚ → ℚ) (window : ℚ) (failureTimes : List ℚ) : Call → List ℚ
  | .recordRustFfiSuccess => []
  | .recordRustFfiFailure now =>
    prune (cutoff fl window now) (prune (cutoff fl window now) failureTimes ++ [now])
  | .failuresInWindow now => prune (cutoff fl window now) failureTimes

def circuitIsOpen (fl : ℚ → ℚ) (window : ℚ) (threshold : Int) (now : ℚ) (failureTimes : List ℚ) :
    Bool :=
  decide (max 1 threshold ≤ (prune (cutoff fl window now) failureTimes).length)

/-- The failures since the last success. -/
def unsettled (failures : List ℚ) : Call → List ℚ
  | .recordRustFfiSuccess => []
  | .recordRustFfiFailure now => failures ++ [now]
  | .failuresInWindow _ => failures

/-- **What the queue keeps**: of the failures since the last success nothing that a later window
still covers is dropped. -/
theorem since_foldl_step (hfl : Monotone fl) (window : ℚ) (calls : List Call)
    (hnow : ∀ t ∈ calls.filterMap Call.time?, t ≤ now) :
    since (cutoff fl window now) (calls.foldl (step fl window) [])
      = since (cutoff fl window now) (calls.foldl unsettled []) := by
  induction calls using reverseRecOn with
  | nil => rfl
  | append_singleton calls c ih =>
    rw [filterMap_append] at hnow
    have hlast := fun t (ht : c.time? = some t) => hnow t (by simp [ht])
    replace ih := ih (fun t ht => hnow t (mem_append_left _ ht))
    rw [foldl_concat, foldl_concat]
    cases c with
    | recordRustFfiSuccess => rfl
    | failuresInWindow t =>
      have hcut := cutoff_mono hfl window (hlast t rfl)
      exact (since_prune hcut _).trans ih
    | recordRustFfiFailure t =>
      have hcut := cutoff_mono hfl window (hlast t rfl)
      rw [step, unsettled, since_prune hcut, since_append, since_append, since_prune hcut, ih]

theorem foldl_step_sublist (window : ℚ) (calls : List Call) :
    (calls.foldl (step fl window) []).Sublist (calls.filterMap Call.time?) := by
  induction calls using reverseRecOn with
  | nil => exact .refl _
  | append_singleton calls c ih =>
    rw [foldl_concat, filterMap_append]
    cases c with
    | recordRustFfiSuccess => exact nil_sublist _
    | failuresInWindow t => exact ((prune_sublist _ _).trans ih).trans (sublist_append_left _ _)
    | recordRustFfiFailure t =>
      exact (prune_sublist _ _).trans (((prune_sublist _ _).trans ih).append (.refl _))

/-- **The circuit is open** exactly when enough failures since the last success are not before the
rounded start of the window. -/
theorem circuitIsOpen_iff (fl : ℚ → ℚ) (hfl : Monotone fl) (window : ℚ) (threshold : Int)
    (calls : List Call) (now : ℚ)
    (htimes : (calls.filterMap Call.time? ++ [now]).Pairwise (· ≤ ·)) :
    circuitIsOpen fl window threshold now (calls.foldl (step fl window) []) = true
      ↔ max 1 threshold ≤ (((calls.foldl unsettled []).filter
          (fun t => decide (cutoff fl window now ≤ t))).length : Int) := by
  obtain ⟨hsorted, -, hlast⟩ := pairwise_append.mp htimes
  have hkept := since_foldl_step hfl window calls (fun t ht => hlast t ht now (by simp))
  rw [circuitIsOpen, decide_eq_true_iff, prune_eq_since (hsorted.sublist (foldl_step_sublist ..)),
    hkept, since]

theorem circuitIsOpen_twice :
    circuitIsOpen flBelow1024 60 2 620
      ([.recordRustFfiFailure 600, .recordRustFfiFailure 610].foldl (step flBelow1024 60) [])
        = true :=
  (circuitIsOpen_iff flBelow1024 monotone_flBelow1024 60 2
    [.recordRustFfiFailure 600, .recordRustFfiFailure 610] 620 (by decide +kernel)).mpr
    (by decide +kernel)

/-- **A failure before the window**: with a window of `0.1` the circuit is open at `1000.1` by a
failure at `1000.0`, which is more than `0.1` before. -/
theorem open_by_early_failure :
    circuitIsOpen flBelow1024 tenth 1 thousandTenth
      ([.recordRustFfiFailure 1000].foldl (step flBelow1024 tenth) []) = true
    ∧ (([.recordRustFfiFailure 1000].foldl unsettled []).filter
      (fun t => decide (thousandTenth - tenth ≤ t))) = [] := by
  decide +kernel

end RustFfiCircuit

/-! ## The limiter of a minute -/

namespace MinuteRateLimiter

/-- What there is of one key: its queue, and as history its calls with their answers. -/
structure Entry where
  dq : List ℚ
  calls : List (ℚ × Bool)

def Entry.admitted (e : Entry) : List ℚ := (e.calls.filter Prod.snd).map Prod.fst

section

variable (fl : ℚ → ℚ) (maxEvents : Int) (window : ℚ)

def admits (dq : List ℚ) (now : ℚ) : Bool :=
  decide (((prune (cutoff fl window now) dq).length : Int) < max 1 maxEvents)

/-- `allow`, on the entry of its key. -/
def allow (e : Entry) (now : ℚ) : Entry where
  dq := prune (cutoff fl window now) e.dq
    ++ if admits fl maxEvents window e.dq now then [now] else []
  calls := e.calls ++ [(now, admits fl maxEvents window e.dq now)]

/-- The entries after some calls; a key that was not used has an empty one. -/
def run (calls : List (String × ℚ)) : String → Entry :=
  calls.foldl (fun s c => Function.update s c.1 (allow fl maxEvents window (s c.1) c.2))
    (fun _ => ⟨[], []⟩)

def timesOf (key : String) (calls : List (String × ℚ)) : List ℚ :=
  (calls.filter (fun c => c.1 = key)).map Prod.snd

/-- **Keys do not influence each other.** -/
theorem run_eq_foldl (calls : List (String × ℚ)) (key : String) :
    run fl maxEvents window calls key
      = (timesOf key calls).foldl (allow fl maxEvents window) ⟨[], []⟩ := by
  induction calls using reverseRecOn with
  | nil => rfl
  | append_singleton calls c ih =>
    rw [run, foldl_concat, ← run, timesOf, filter_append, map_append, foldl_append, ← timesOf, ← ih]
    by_cases hkey : c.1 = key
    · simp [hkey]
    · simp [hkey, Function.update_of_ne (Ne.symm hkey)]

end

variable {maxEvents : Int} {window : ℚ}

/-- The invariant of an entry, after calls at some times. -/
structure Tracked (fl : ℚ → ℚ) (maxEvents : Int) (window : ℚ) (times : List ℚ) (e : Entry) :
    Prop where
  sorted : times.Pairwise (· ≤ ·)
  queued : e.dq.Sublist times
  early : ∀ t ∈ e.admitted, t ∈ times
  kept : ∀ now, (∀ t ∈ times, t ≤ now) →
    since (cutoff fl window now) e.dq = since (cutoff fl window now) e.admitted
  bounded : ∀ a, ((e.admitted.filter (fun t => a ≤ t ∧ t ≤ a + window)).length : Int)
    ≤ max 1 maxEvents

theorem admitted_allow (e : Entry) (now : ℚ) : (allow fl maxEvents window e now).admitted
    = e.admitted ++ if admits fl maxEvents window e.dq now then [now] else [] := by
  rw [Entry.admitted, allow, filter_append, map_append]
  cases admits fl maxEvents window e.dq now <;> rfl

variable {times : List ℚ}

theorem Tracked.admits_iff {e : Entry} (h : Tracked fl maxEvents window times e)
    (hnow : ∀ t ∈ times, t ≤ now) : admits fl maxEvents window e.dq now
      ↔ ((since (cutoff fl window now) e.admitted).length : Int) < max 1 maxEvents := by
  rw [admits, decide_eq_true_iff, prune_eq_since (h.sorted.sublist h.queued), h.kept now hnow]

theorem Tracked.allow (hfl : Monotone fl) (hdouble : ∀ t ∈ times, fl t = t) {e : Entry}
    (h : Tracked fl maxEvents window times e) (hnow : ∀ t ∈ times, t ≤ now) :
    Tracked fl maxEvents window (times ++ [now]) (allow fl maxEvents window e now) where
  sorted := pairwise_append.mpr ⟨h.sorted, by simp, by simpa using hnow⟩
  queued := by
    refine ((prune_sublist _ _).trans h.queued).append ?_
    split_ifs
    · exact .refl _
    · exact nil_sublist _
  early := by
    intro t ht
    rw [admitted_allow, mem_append] at ht
    rcases ht with ht | ht
    · exact mem_append_left _ (h.early t ht)
    · split_ifs at ht <;> simp_all
  kept := by
    intro later hlater
    have hcut := cutoff_mono hfl window (hlater now (by simp))
    have hkept := h.kept later (fun t ht => hlater t (mem_append_left _ ht))
    rw [admitted_allow, MinuteRateLimiter.allow, since_append, since_append, since_prune hcut,
      hkept]
  bounded := by
    intro a
    rw [admitted_allow]
    by_cases hfree : admits fl maxEvents window e.dq now = true
    · rw [if_pos hfree, filter_append, length_append]
      by_cases hin : a ≤ now ∧ now ≤ a + window
      · -- what is in the window with this call is still in the queue
        have hstart : ∀ t ∈ e.admitted, a ≤ t → cutoff fl window now ≤ t := by
          intro t ht hle
          rw [← hdouble t (h.early t ht)]
          exact hfl (by linarith)
        have hsame : e.admitted.filter (fun t => a ≤ t ∧ t ≤ a + window)
            = (since (cutoff fl window now) e.admitted).filter
              (fun t => a ≤ t ∧ t ≤ a + window) := by
          rw [since, filter_filter]
          apply filter_congr
          intro t ht
          by_cases hle : a ≤ t
          · simp [hstart t ht hle]
          · simp [hle]
        have hlt := (h.admits_iff hnow).mp hfree
        have hle := length_filter_le (fun t => decide (a ≤ t ∧ t ≤ a + window))
          (since (cutoff fl window now) e.admitted)
        rw [← hsame] at hle
        have hone := length_filter_le (fun t => decide (a ≤ t ∧ t ≤ a + window)) [now]
        rw [length_singleton] at hone
        omega
      · simpa [hin] using h.bounded a
    · simpa [hfree] using h.bounded a

theorem tracked_foldl (hfl : Monotone fl) (maxEvents : Int) (window : ℚ)
    (h : times.Pairwise (· ≤ ·)) (hdouble : ∀ t ∈ times, fl t = t) :
    Tracked fl maxEvents window times (times.foldl (allow fl maxEvents window) ⟨[], []⟩) := by
  induction times using reverseRecOn with
  | nil => exact ⟨h, .refl _, by simp [Entry.admitted], fun _ _ => rfl, by simp [Entry.admitted]⟩
  | append_singleton times now ih =>
    obtain ⟨hsorted, -, hlast⟩ := pairwise_append.mp h
    have hearly := fun t ht => hdouble t (mem_append_left _ ht)
    rw [foldl_concat]
    exact (ih hsorted hearly).allow hfl hearly (fun t ht => hlast t ht now (by simp))

/-- **At most so many events in a window.** In every closed window at most `max_events` calls of a
key are admitted; a call is refused only when there are so many from the rounded start of the window
that ends with it; and what happens to a key depends on its own calls only. -/
theorem admitted_in_window (fl : ℚ → ℚ) (hfl : Monotone fl) (maxEvents : Int) (window : ℚ)
    (calls : List (String × ℚ)) (key : String) (hdouble : ∀ c ∈ calls, fl c.2 = c.2)
    (hcalls : (calls.map Prod.snd).Pairwise (· ≤ ·)) :
    (∀ a, (((run fl maxEvents window calls key).admitted.filter
        (fun t => a ≤ t ∧ t ≤ a + window)).length : Int) ≤ max 1 maxEvents)
    ∧ (∀ now, (∀ c ∈ calls, c.2 ≤ now) →
        admits fl maxEvents window (run fl maxEvents window calls key).dq now = false →
        max 1 maxEvents ≤ (((run fl maxEvents window calls key).admitted.filter
          (fun t => cutoff fl window now ≤ t ∧ t ≤ now)).length : Int))
    ∧ run fl maxEvents window calls key
      = (timesOf key calls).foldl (allow fl maxEvents window) ⟨[], []⟩ := by
  have hown : (timesOf key calls).Sublist (calls.map Prod.snd) := filter_sublist.map _
  have hdoubles : ∀ t ∈ timesOf key calls, fl t = t := by
    intro t ht
    obtain ⟨c, hc, rfl⟩ := mem_map.mp (hown.subset ht)
    exact hdouble c hc
  have htracked := tracked_foldl hfl maxEvents window (hcalls.sublist hown) hdoubles
  rw [← run_eq_foldl] at htracked
  refine ⟨htracked.bounded, ?_, run_eq_foldl fl maxEvents window calls key⟩
  intro now hnow hrefused
  have hlate : ∀ t ∈ timesOf key calls, t ≤ now := by
    intro t ht
    obtain ⟨c, hc, rfl⟩ := mem_map.mp (hown.subset ht)
    exact hnow c hc
  -- the queue has lost only times before the cutoff
  have hfull := (htracked.admits_iff hlate).not.mp (by simp [hrefused])
  have hsame : since (cutoff fl window now) (run fl maxEvents window calls key).admitted
      = (run fl maxEvents window calls key).admitted.filter
        (fun t => cutoff fl window now ≤ t ∧ t ≤ now) := by
    apply filter_congr
    intro t ht
    simp [hlate t (htracked.early t ht)]
  rw [← hsame]
  omega

/-- A limit of one in a window of `0.1`, with calls at `1000.0` and at `1000.1`. -/
theorem admitted_in_window_full :
    admits flBelow1024 1 tenth
        (run flBelow1024 1 tenth [("a", 1000), ("b", 1000)] "a").dq thousandTenth
      = false
    ∧ 1 ≤ ((run flBelow1024 1 tenth [("a", 1000), ("b", 1000)] "a").admitted.filter
        (fun t => cutoff flBelow1024 tenth thousandTenth ≤ t ∧ t ≤ thousandTenth)).length :=
  ⟨by decide +kernel, Int.ofNat_le.mp ((admitted_in_window flBelow1024 monotone_flBelow1024 1 tenth
    [("a", 1000), ("b", 1000)] "a" (by decide +kernel) (by decide +kernel)).2.1 thousandTenth
    (by decide +kernel) (by decide +kernel))⟩

/-- **A refusal without a full window**: the one call that was admitted, at `1000.0`, is more than
the window of `0.1` before the call at `1000.1`. -/
theorem refused_by_early_call :
    admits flBelow1024 1 tenth (run flBelow1024 1 tenth [("a", 1000)] "a").dq thousandTenth = false
    ∧ (run flBelow1024 1 tenth [("a", 1000)] "a").admitted.filter
        (fun t => thousandTenth - tenth ≤ t ∧ t ≤ thousandTenth) = [] := by
  decide +kernel

end MinuteRateLimiter

end Tarka.Shared
