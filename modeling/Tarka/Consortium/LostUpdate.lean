import Tarka.Consortium.Store

/-! # Counting consortium operations

The counts of the document are those of the operations that were performed, as long as no client
reads while another one is between its `GET` and its `SETEX` (`Apart`). Then every update starts
from the document that the previous one wrote, and one update adds one (`Counted.apply`). Two
clients that read before either writes lose an update (`lost_report`). -/

namespace Tarka.Consortium

open Tarka.Lib List Option Function Dict

variable {host : Host} {consortiumId : String} {s s' : State} {m : Metrics}

/-- A signal type that is its own normal form, as the API passes it on, and not blank. -/
def Op.Countable (host : Host) : Op → Prop
  | .signal t _ _ => signalKey host t = t ∧ t.isEmpty = false
  | .feedback _ => True

/-- A client reads only while no other one is between its commands, and with a signal type in
normal form. -/
def Apart (host : Host) (s : State) (c : Command) : Prop :=
  match c with
  | .get _ op => (∀ j, s.clients j = .idle) ∧ op.Countable host
  | .setex _ _ => True

/-! ## What is counted -/

def Op.isSignal : Op → Bool
  | .signal _ _ _ => true
  | .feedback _ => false

def Op.isSignalOf (t : String) : Op → Bool
  | .signal t' _ _ => t' == t
  | .feedback _ => false

def Op.isFeedbackOf (outcome : String) : Op → Bool
  | .signal _ _ _ => false
  | .feedback o => o == outcome

def Metrics.countOf (m : Metrics) (t : String) : Nat := (m.signalCounts.lookup t).getD 0

/-- The counts of a document are those of a list of operations. -/
structure Metrics.CountsOf (m : Metrics) (ops : List Op) : Prop where
  reports : m.reportCount = ops.countP Op.isSignal
  signals : ∀ t, m.countOf t = ops.countP (Op.isSignalOf t)
  falsePositives : m.falsePositiveCount = ops.countP (Op.isFeedbackOf "false_positive")
  confirmedFrauds : m.confirmedFraudCount = ops.countP (Op.isFeedbackOf "confirmed_fraud")

def State.current (s : State) : Metrics := s.document.getD .empty

/-! ## One update -/

/-- The shape of the counts that a recomputation leaves alone. -/
structure Metrics.Normal (host : Host) (m : Metrics) : Prop where
  proper : Dict.Proper m.signalCounts
  keys : ∀ t ∈ m.signalCounts.map Prod.fst, signalKey host t = t ∧ t.isEmpty = false
  total : (m.signalCounts.map Prod.snd).sum = m.reportCount

theorem normal_empty (host : Host) : Metrics.empty.Normal host := by
  refine ⟨nodup_nil, ?_, rfl⟩
  intro t ht
  cases ht

theorem recompute_signalCounts (hproper : Proper m.signalCounts)
    (hkeys : ∀ t ∈ m.signalCounts.map Prod.fst, signalKey host t = t ∧ t.isEmpty = false) :
    (metricsRecompute host m).signalCounts = m.signalCounts := by
  apply rebuild_self hproper
  intro e he
  obtain ⟨hkey, hne⟩ := hkeys e.1 (mem_map_of_mem he)
  rw [normalizeEntry, hkey, hne]
  rfl

theorem Metrics.Normal.recompute (h : m.Normal host) :
    (metricsRecompute host m).Normal host ∧
      (metricsRecompute host m).signalCounts = m.signalCounts ∧
      (metricsRecompute host m).reportCount = m.reportCount := by
  have hcounts := recompute_signalCounts h.proper h.keys
  have hreports : (metricsRecompute host m).reportCount = m.reportCount := by
    have hdef : (metricsRecompute host m).reportCount =
        if m.reportCount = 0 then ((metricsRecompute host m).signalCounts.map Prod.snd).sum
        else m.reportCount := rfl
    rw [hdef, hcounts, h.total]
    split_ifs <;> rfl
  refine ⟨⟨?_, ?_, ?_⟩, hcounts, hreports⟩
  · rw [hcounts]
    exact h.proper
  · rw [hcounts]
    exact h.keys
  · rw [hcounts, hreports]
    exact h.total

theorem sum_set_succ {d : List (String × Nat)} (hd : Proper d) (t : String) :
    ((Dict.set d t ((d.lookup t).getD 0 + 1)).map Prod.snd).sum = (d.map Prod.snd).sum + 1 := by
  induction d with
  | nil => rfl
  | cons e d ih =>
    have hnd := nodup_cons.mp (show (e.1 :: d.map Prod.fst).Nodup from hd)
    by_cases he : e.1 = t
    · rw [Dict.set, if_pos he, lookup_cons, he]
      simp only [beq_self_eq_true, getD_some, map_cons, sum_cons]
      omega
    · have hne : (t == e.1) = false := beq_false_of_ne (fun heq => he heq.symm)
      rw [Dict.set, if_neg he, lookup_cons, hne]
      simp only [map_cons, sum_cons]
      rw [ih hnd.2]
      omega

/-- The counts of a document in normal form. -/
structure Metrics.Counted (host : Host) (m : Metrics) (ops : List Op) : Prop where
  normal : m.Normal host
  counts : m.CountsOf ops

theorem counted_empty (host : Host) : Metrics.empty.Counted host [] :=
  ⟨normal_empty host, rfl, fun _ => rfl, rfl, rfl⟩

variable {ops : List Op}

section

variable (h : m.Counted host ops)

include h

theorem Metrics.Counted.recordSignal {t tenant : String} {severity : F64}
    (ht : (Op.signal t tenant severity).Countable host) (trustSeed : F64) :
    (recordSignal host consortiumId t tenant severity trustSeed m).Counted host
      (ops ++ [.signal t tenant severity]) := by
  -- the document before it is recomputed
  set m₁ : Metrics :=
    { Metrics.empty with
      consortiumId := some consortiumId
      tenants := sortByCodePoints (tenant :: m.tenants).dedup
      tenantTrust := setDefault m.tenantTrust tenant trustSeed
      signalCounts := Dict.set m.signalCounts t ((m.signalCounts.lookup t).getD 0 + 1)
      reportCount := m.reportCount + 1
      maxSeverity := m.maxSeverity.pyMax severity
      weightedReportScore := host.arith.add m.weightedReportScore
        (((setDefault m.tenantTrust tenant trustSeed).lookup tenant).getD trustSeed)
      falsePositiveCount := m.falsePositiveCount
      confirmedFraudCount := m.confirmedFraudCount } with hm₁
  have hnormal : m₁.Normal host := by
    refine ⟨h.normal.proper.set t _, ?_, ?_⟩
    · intro t' ht'
      rcases mem_keys_set ht' with rfl | ht'
      · exact ht
      · exact h.normal.keys t' ht'
    · show ((Dict.set m.signalCounts t _).map Prod.snd).sum = m.reportCount + 1
      rw [sum_set_succ h.normal.proper, h.normal.total]
  obtain ⟨hnormal', hcounts, hreports⟩ := hnormal.recompute
  refine ⟨hnormal', ?_, ?_, ?_, ?_⟩
  · show (metricsRecompute host m₁).reportCount = _
    rw [hreports, countP_append]
    show m.reportCount + 1 = _
    rw [h.counts.reports]
    rfl
  · intro t'
    show ((metricsRecompute host m₁).signalCounts.lookup t').getD 0 = _
    rw [hcounts, countP_append, ← h.counts.signals t']
    show ((Dict.set m.signalCounts t _).lookup t').getD 0 = _
    rw [lookup_set]
    by_cases heq : t' = t
    · subst heq
      simp [Metrics.countOf, Op.isSignalOf]
    · have hne : (t == t') = false := beq_false_of_ne (fun h => heq h.symm)
      simp [heq, Metrics.countOf, Op.isSignalOf, hne]
  · show m.falsePositiveCount = _
    rw [h.counts.falsePositives, countP_append]
    rfl
  · show m.confirmedFraudCount = _
    rw [h.counts.confirmedFrauds, countP_append]
    rfl

theorem Metrics.Counted.addFeedback (outcome : String) :
    (addFeedback host outcome m).Counted host (ops ++ [.feedback outcome]) := by
  set m₁ : Metrics :=
    { m with
      falsePositiveCount :=
        if outcome = "false_positive" then m.falsePositiveCount + 1 else m.falsePositiveCount
      confirmedFraudCount :=
        if outcome = "confirmed_fraud" then m.confirmedFraudCount + 1
        else m.confirmedFraudCount } with hm₁
  have hnormal : m₁.Normal host := ⟨h.normal.proper, h.normal.keys, h.normal.total⟩
  obtain ⟨hnormal', hcounts, hreports⟩ := hnormal.recompute
  refine ⟨hnormal', ?_, ?_, ?_, ?_⟩
  · show (metricsRecompute host m₁).reportCount = _
    rw [hreports, countP_append]
    exact h.counts.reports
  · intro t
    show ((metricsRecompute host m₁).signalCounts.lookup t).getD 0 = _
    rw [hcounts, countP_append]
    exact h.counts.signals t
  · show (if outcome = "false_positive" then m.falsePositiveCount + 1 else m.falsePositiveCount) = _
    rw [h.counts.falsePositives, countP_append]
    by_cases ho : outcome = "false_positive" <;> simp [ho, Op.isFeedbackOf]
  · show (if outcome = "confirmed_fraud" then m.confirmedFraudCount + 1
      else m.confirmedFraudCount) = _
    rw [h.counts.confirmedFrauds, countP_append]
    by_cases ho : outcome = "confirmed_fraud" <;> simp [ho, Op.isFeedbackOf]

/-- **One update** adds its operation to what the document counts. -/
theorem Metrics.Counted.apply {op : Op} (hop : op.Countable host)
    (trustSeed : F64) : (op.apply host consortiumId trustSeed m).Counted host (ops ++ [op]) := by
  cases op with
  | signal t tenant severity => exact h.recordSignal hop trustSeed
  | feedback outcome => exact h.addFeedback outcome

end

/-! ## Runs -/

/-- What clients that are apart keep: the document counts what was performed, and a client between
its commands is the only one and holds that document. -/
structure Serial (host : Host) (s : State) : Prop where
  counted : s.current.Counted host s.performed
  fresh : ∀ i op raw, s.clients i = .got op raw →
    raw = s.document ∧ op.Countable host ∧ ∀ j, j ≠ i → s.clients j = .idle

theorem serial_init (host : Host) : Serial host .init := by
  refine ⟨counted_empty host, ?_⟩
  intro i op raw h
  cases h

/-- **One command.** -/
theorem Serial.step {c : Command} (h : Serial host s) (hcond : Apart host s c)
    (hstep : consortiumStep host consortiumId s c = some s') : Serial host s' := by
  cases c with
  | get i op =>
    obtain ⟨hidle, hop⟩ := hcond
    have hs' : s' = { s with clients := update s.clients i (.got op s.document) } := by
      simp only [consortiumStep, hidle i, some.injEq] at hstep
      exact hstep.symm
    subst hs'
    refine ⟨h.counted, ?_⟩
    intro j op' raw hj
    have hj' : update s.clients i (.got op s.document) j = .got op' raw := hj
    by_cases hji : j = i
    · subst hji
      rw [update_self] at hj'
      cases hj'
      refine ⟨rfl, hop, ?_⟩
      intro k hk
      show update s.clients j _ k = .idle
      rw [update_of_ne hk]
      exact hidle k
    · rw [update_of_ne hji, hidle j] at hj'
      cases hj'
  | setex i trustSeed =>
    cases hi : s.clients i with
    | idle => simp [consortiumStep, hi] at hstep
    | got op raw =>
      obtain ⟨hraw, hop, hothers⟩ := h.fresh i op raw hi
      simp only [consortiumStep, hi, some.injEq] at hstep
      subst hstep
      refine ⟨?_, ?_⟩
      · -- the client still holds the current document
        show (op.apply host consortiumId trustSeed (raw.getD .empty)).Counted host
          ((s.seeded ++ [(op, trustSeed)]).map Prod.fst)
        rw [hraw, map_append]
        exact h.counted.apply hop trustSeed
      · intro j op' raw' hj
        have hj' : update s.clients i .idle j = .got op' raw' := hj
        by_cases hji : j = i
        · subst hji
          rw [update_self] at hj'
          cases hj'
        · rw [update_of_ne hji, hothers j hji] at hj'
          cases hj'

/-- **No update is lost** in a run in which a client reads only while no other one is between its
commands: the stored counts are those of the operations performed. -/
theorem counts_of_performed (host : Host) (consortiumId : String) (cs : List Command) (s : State)
    (hmeets : Steps.Meets (consortiumStep host consortiumId) (Apart host) .init cs)
    (hrun : Steps.run (consortiumStep host consortiumId) .init cs = some s) :
    s.current.CountsOf s.performed := by
  have h : Serial host s :=
    Steps.invariant_of_run (fun _ _ _ h hcond hstep => h.step hcond hstep) (serial_init host)
      hmeets hrun
  exact h.counted.counts

/-! ## Clients that overlap -/

/-- A document that some of the operations leave, one after the other, each with its trust. -/
def LeftBy (host : Host) (consortiumId : String) (seeded : List (Op × F64))
    (document : Option Metrics) : Prop :=
  ∃ kept : List (Op × F64), kept.Sublist seeded ∧
    document.getD .empty = kept.foldl (fun m p => p.1.apply host consortiumId p.2 m) .empty

/-- What clients keep however they overlap: the stored document and those in their hands are left by
operations that were performed. -/
def Overlapping (host : Host) (consortiumId : String) (s : State) : Prop :=
  ∀ document, (document = s.document ∨ ∃ i op, s.clients i = .got op document) →
    LeftBy host consortiumId s.seeded document

theorem Overlapping.step {c : Command} (h : Overlapping host consortiumId s)
    (hstep : consortiumStep host consortiumId s c = some s') :
    Overlapping host consortiumId s' := by
  cases c with
  | get i op =>
    cases hi : s.clients i with
    | got _ _ => simp [consortiumStep, hi] at hstep
    | idle =>
      simp only [consortiumStep, hi, some.injEq] at hstep
      subst hstep
      rintro document (hstored | ⟨j, op', hj⟩)
      · exact h document (.inl hstored)
      · by_cases hji : j = i
        · simp only [hji, update_self, Client.got.injEq] at hj
          exact h document (.inl hj.2.symm)
        · simp only [update_of_ne hji] at hj
          exact h document (.inr ⟨j, op', hj⟩)
  | setex i trustSeed =>
    cases hi : s.clients i with
    | idle => simp [consortiumStep, hi] at hstep
    | got op raw =>
      obtain ⟨kept, hkept, hraw⟩ := h raw (.inr ⟨i, op, hi⟩)
      simp only [consortiumStep, hi, some.injEq] at hstep
      subst hstep
      rintro document (rfl | ⟨j, op', hj⟩)
      · -- what others have written since this client read is gone
        refine ⟨kept ++ [(op, trustSeed)], ?_, ?_⟩
        · exact hkept.append_right _
        · rw [foldl_concat, ← hraw]
          rfl
      · by_cases hji : j = i
        · simp [hji] at hj
        · simp only [update_of_ne hji] at hj
          obtain ⟨kept', hkept', hdocument⟩ := h document (.inr ⟨j, op', hj⟩)
          exact ⟨kept', hkept'.trans (sublist_append_left _ _), hdocument⟩

/-- **Updates may get lost, but none is invented.** However the clients overlap, the document is the
one that some of the operations leave one after the other, each at most once and in the order they
were performed in. -/
theorem document_serial (host : Host) (consortiumId : String) (cs : List Command) (s : State)
    (hrun : Steps.run (consortiumStep host consortiumId) .init cs = some s) :
    LeftBy host consortiumId s.seeded s.document := by
  have hinit : Overlapping host consortiumId .init := by
    rintro document (rfl | ⟨i, op, hi⟩)
    · exact ⟨[], .slnil, rfl⟩
    · cases hi
  have h := Steps.invariant_of_run (fun _ _ _ h _ hstep => Overlapping.step h hstep) hinit
    (Steps.meets_true _ _) hrun
  exact h s.document (.inl rfl)

namespace Reference

/-- ASCII lower case, and an arithmetic for runs in which no float is looked at. -/
def asciiHost : Host := ⟨asciiLower, ⟨fun x _ => x, fun x _ => x, fun x _ => x, fun x _ => x,
  fun _ => F64.ofNat 0, fun _ _ => F64.ofNat 0⟩⟩

def report : Op := .signal "mule" "t1" (F64.ofNat 1)

end Reference

open Reference

theorem counts_of_performed_serial : ∃ s,
    Steps.run (consortiumStep asciiHost "c") .init
      [.get 0 report, .setex 0 (F64.ofNat 1), .get 1 report, .setex 1 (F64.ofNat 1)] = some s ∧
    s.performed.length = 2 ∧ s.current.CountsOf s.performed := by
  refine ⟨_, rfl, rfl, ?_⟩
  refine counts_of_performed asciiHost "c" [.get 0 report, .setex 0 (F64.ofNat 1),
    .get 1 report, .setex 1 (F64.ofNat 1)] _ ?_ rfl
  have hcountable : report.Countable asciiHost := by
    refine ⟨?_, ?_⟩ <;> decide
  refine ⟨⟨fun _ => rfl, hcountable⟩, trivial, ⟨?_, hcountable⟩, trivial, trivial⟩
  intro j
  cases j <;> rfl

/-- Two reports by clients that overlap. -/
theorem document_serial_overlap : ∃ s,
    Steps.run (consortiumStep asciiHost "c") .init
      [.get 0 report, .get 1 report, .setex 0 (F64.ofNat 1), .setex 1 (F64.ofNat 1)] = some s ∧
    LeftBy asciiHost "c" s.seeded s.document :=
  ⟨_, rfl, document_serial asciiHost "c" [.get 0 report, .get 1 report, .setex 0 (F64.ofNat 1),
    .setex 1 (F64.ofNat 1)] _ rfl⟩

/-- Both clients read before either writes: two reports, and one is counted. -/
theorem lost_report : ∃ s,
    Steps.run (consortiumStep asciiHost "c") .init
      [.get 0 report, .get 1 report, .setex 0 (F64.ofNat 1), .setex 1 (F64.ofNat 1)] = some s ∧
    s.performed = [report, report] ∧ s.current.reportCount = 1 ∧
    s.current.countOf "mule" = 1 ∧ ¬ s.current.CountsOf s.performed := by
  refine ⟨_, rfl, rfl, rfl, by decide, ?_⟩
  intro h
  have hreports := h.reports
  revert hreports
  decide

end Tarka.Consortium
