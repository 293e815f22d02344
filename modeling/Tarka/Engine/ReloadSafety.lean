import Tarka.Engine.RuleManager

/-! # Concurrent reloads

Two writers that reload at the same time decide and publish in separate lock regions. Two
conditions on a schedule keep them apart:

* `DecisionsAgree`: a writer makes its decision while no other writer has one of the other kind
  under way. Then an audited snapshot, once published, stays (`audited_snapshot_stays`).
* `HalvesApart`: a writer publishes its rules while no other writer is between its rules and its
  metadata. Then the published halves come from one scan (`snapshot_from_one_scan`).

Without the first a fail-safe decision that was made on a cold start is published over an audited
snapshot (`late_fail_safe`); without the second the rules of one scan stand beside the paths of
another (`torn_snapshot`). -/

namespace Tarka.Engine.RuleManager

open Tarka.Lib Tarka.Compiler Option Steps Phase State

variable {directory : String} {s s' : State} {w : Writer}

/-! ## What a step does -/

/-- The steps of a writer, one constructor each. -/
inductive Reload (directory : String) (s : State) (w : Writer) : Act → State → Prop
  | scanOk (scan : DirectoryScanResult) (h : s.writers w = .idle) :
      Reload directory s w (.scan (.ok scan))
        { s.setPhase w (.scanned s.scans.length scan) with scans := s.scans ++ [.ok scan] }
  | scanError (e : RuleManagerError) (h : s.writers w = .idle) :
      Reload directory s w (.scan (.error e))
        { s with
          scans := s.scans ++ [.error e]
          alerts := s.alerts ++ [scanFailedAlert directory w e] }
  | store (n : Nat) (scan : DirectoryScanResult) (u : Update)
      (alerts : List CriticalRuleLoadAlert) (h : s.writers w = .scanned n scan)
      (hu : resolveScan directory scan s.lastAudited = (.store u, alerts)) :
      Reload directory s w .resolve
        { s.setPhase w (.resolved n u) with alerts := s.alerts ++ alerts }
  | retain (n : Nat) (scan : DirectoryScanResult) (alert : CriticalRuleLoadAlert)
      (alerts : List CriticalRuleLoadAlert) (h : s.writers w = .scanned n scan)
      (hu : resolveScan directory scan s.lastAudited = (.retain alert, alerts)) :
      Reload directory s w .resolve { s.setPhase w .idle with alerts := s.alerts ++ alerts }
  | publishRules (n : Nat) (u : Update) (h : s.writers w = .resolved n u) :
      Reload directory s w .publishRules
        { s.setPhase w (.rulesPublished n u) with merged := u.merged, mergedScan := n }
  | publishMetadata (n : Nat) (u : Update) (h : s.writers w = .rulesPublished n u) :
      Reload directory s w .publishMetadata
        { s.setPhase w (if u.auditMode = .audited then .recording else .idle) with
          metadata := ⟨u.contributingPaths, u.auditMode⟩, metadataScan := n }
  | record (h : s.writers w = .recording) :
      Reload directory s w .record { s.setPhase w .idle with lastAudited := true }

variable {a : Act}

theorem reload_of_step (h : reloadStep directory s (w, a) = some s') :
    Reload directory s w a s' := by
  unfold reloadStep at h
  split at h
  · next scan ha hw =>
      cases ha
      cases h
      exact .scanOk scan hw
  · next e ha hw =>
      cases ha
      cases h
      exact .scanError e hw
  · next n scan ha hw =>
      cases ha
      split at h
      · next u alerts hu =>
          cases h
          exact .store n scan u alerts hw hu
      · next alert alerts hu =>
          cases h
          exact .retain n scan alert alerts hw hu
  · next n u ha hw =>
      cases ha
      cases h
      exact .publishRules n u hw
  · next n u ha hw =>
      cases ha
      cases h
      exact .publishMetadata n u hw
  · next ha hw =>
      cases ha
      cases h
      exact .record hw
  · cases h

def loadedFrom : ScanOutcome → Update
  | .ok scan => if isAuditedLoad scan then auditedUpdate scan else failSafeUpdate
  | .error _ => failSafeUpdate

variable {u : Update}
  {alerts : List CriticalRuleLoadAlert} {scan : DirectoryScanResult} {last : Bool}

section

variable (h : resolveScan directory scan last = (.store u, alerts))

include h

theorem resolveScan_store :
    (isAuditedLoad scan ∧ u = auditedUpdate scan) ∨
      (isAuditedLoad scan = false ∧ last = false ∧ u = failSafeUpdate) := by
  unfold resolveScan at h
  by_cases haudited : isAuditedLoad scan = true
  · rw [if_pos haudited] at h
    cases h
    exact .inl ⟨haudited, rfl⟩
  · rw [if_neg haudited] at h
    split_ifs at h with hlast
    · cases h
    · cases h
      exact .inr ⟨Bool.eq_false_iff.mpr haudited, Bool.eq_false_iff.mpr hlast, rfl⟩

theorem eq_loadedFrom_of_store :
    u = loadedFrom (.ok scan) := by
  rcases resolveScan_store h with ⟨haudited, rfl⟩ | ⟨haudited, -, rfl⟩
  · simp [loadedFrom, haudited]
  · simp [loadedFrom, haudited]

end

variable {first : ScanOutcome}

theorem initialSnapshot_loadedFrom {directory : String} :
    ∃ alerts, initialSnapshot directory first = .start first (loadedFrom first) alerts := by
  unfold initialSnapshot
  split
  · exact ⟨_, rfl⟩
  · next scan =>
      split
      · next u alerts hu => exact ⟨alerts, by rw [eq_loadedFrom_of_store hu]⟩
      · next alert alerts hu =>
          -- without a last audited snapshot there is nothing to retain
          by_cases haudited : isAuditedLoad scan = true <;> simp [resolveScan, haudited] at hu

/-! ## Decisions of one kind -/

/-- The kind of the decision that a writer has made and not yet carried through. -/
def Phase.pending : Phase → Option RuleAuditMode
  | .idle => none
  | .scanned _ _ => none
  | .resolved _ u => some u.auditMode
  | .rulesPublished _ u => some u.auditMode
  | .recording => some .audited

/-- The kind of the decision a writer is about to make, if it is one to store. -/
def nextDecision (directory : String) (s : State) (w : Writer) : Option RuleAuditMode :=
  match s.writers w with
  | .scanned _ scan =>
    match (resolveScan directory scan s.lastAudited).1 with
    | .store u => some u.auditMode
    | .retain _ => none
  | _ => none

/-- A decision is made only while no other writer has one of the other kind under way. -/
def DecisionsAgree (directory : String) (s : State) (a : Writer × Act) : Prop :=
  match a.2 with
  | .resolve => ∀ w m m', nextDecision directory s a.1 = some m →
      (s.writers w).pending = some m' → m = m'
  | _ => True

def State.IsFailSafe (s : State) : Prop :=
  s.merged = .empty ∧ s.metadata = ⟨[], .failSafeUnAudited⟩

/-- What agreeing decisions keep: an active audited snapshot is recorded or about to be, and from
then on nobody is about to publish the fail-safe one. -/
structure OneKind (s : State) : Prop where
  agree : ∀ w w' m m', (s.writers w).pending = some m → (s.writers w').pending = some m' → m = m'
  recorded : s.metadata.auditMode = .audited →
    s.lastAudited = true ∨ ∃ w, (s.writers w).pending = some .audited
  safe : s.lastAudited = true → ∀ w, (s.writers w).pending ≠ some .failSafeUnAudited

theorem pending_step (h : Reload directory s w a s') (w' : Writer) :
    (s'.writers w').pending = (s.writers w').pending ∨ (s'.writers w').pending = none ∨
      (w' = w ∧ a = .resolve ∧ (s'.writers w').pending = nextDecision directory s w) := by
  by_cases hw : w' = w
  · subst hw
    cases h with
    | scanOk scan h => exact Or.inr (Or.inl (by simp [pending]))
    | scanError e h => exact Or.inl rfl
    | store n scan u alerts h hu =>
      refine .inr (.inr ⟨rfl, rfl, ?_⟩)
      simp [pending, nextDecision, h, hu]
    | retain n scan alert alerts h hu =>
      exact .inr (.inl (by simp [pending]))
    | publishRules n u h => exact Or.inl (by simp [pending, h])
    | publishMetadata n u h =>
      by_cases hu : u.auditMode = .audited
      · exact .inl (by simp [pending, h, hu])
      · exact .inr (.inl (by simp [pending, hu]))
    | record h => exact Or.inr (Or.inl (by simp [pending]))
  · -- the other writers are where they were
    refine .inl ?_
    cases h <;> simp [hw]

theorem OneKind.agree_step (hI : OneKind s) (hcond : DecisionsAgree directory s (w, a))
    (h : Reload directory s w a s') (w₁ w₂ : Writer) (m₁ m₂ : RuleAuditMode)
    (h₁ : (s'.writers w₁).pending = some m₁) (h₂ : (s'.writers w₂).pending = some m₂) :
    m₁ = m₂ := by
  rcases pending_step h w₁ with e₁ | e₁ | ⟨rfl, rfl, e₁⟩
  · rw [h₁] at e₁
    rcases pending_step h w₂ with e₂ | e₂ | ⟨rfl, rfl, e₂⟩
    · rw [h₂] at e₂
      exact hI.agree w₁ w₂ m₁ m₂ e₁.symm e₂.symm
    · rw [h₂] at e₂
      cases e₂
    · rw [h₂] at e₂
      exact (hcond w₁ m₂ m₁ e₂.symm e₁.symm).symm
  · rw [h₁] at e₁
    cases e₁
  · rw [h₁] at e₁
    rcases pending_step h w₂ with e₂ | e₂ | ⟨rfl, -, e₂⟩
    · rw [h₂] at e₂
      exact hcond w₂ m₁ m₂ e₁.symm e₂.symm
    · rw [h₂] at e₂
      cases e₂
    · rw [h₂, ← e₁] at e₂
      exact (some.inj e₂).symm

variable {w' : Writer}

theorem audited_pending_step (h : Reload directory s w a s')
    (hw' : (s.writers w').pending = some .audited) :
    s'.lastAudited ∨ (s'.writers w').pending = some .audited := by
  by_cases hw : w' = w
  · subst hw
    cases h with
    | scanOk scan h => simp [h, pending] at hw'
    | scanError e h => simp [h, pending] at hw'
    | store n scan u alerts h hu => simp [h, pending] at hw'
    | retain n scan alert alerts h hu => simp [h, pending] at hw'
    | publishRules n u h =>
      right
      rw [h] at hw'
      simpa [pending] using hw'
    | publishMetadata n u h =>
      rw [h] at hw'
      simp only [pending, some.injEq] at hw'
      simp [pending, hw']
    | record h => exact Or.inl rfl
  · right
    cases h <;> simpa [hw] using hw'

theorem lastAudited_step (h : Reload directory s w a s') (hlast : s.lastAudited) :
    s'.lastAudited = true := by
  cases h <;> first | exact hlast | rfl

theorem OneKind.recorded_step (hI : OneKind s) (h : Reload directory s w a s')
    (hmode : s'.metadata.auditMode = .audited) :
    s'.lastAudited ∨ ∃ w, (s'.writers w).pending = some .audited := by
  -- an audited snapshot that was active before was recorded or about to be
  have before : s.metadata.auditMode = .audited →
      s'.lastAudited ∨ ∃ w, (s'.writers w).pending = some .audited := by
    intro hmode
    rcases hI.recorded hmode with hlast | ⟨w', hw'⟩
    · exact .inl (lastAudited_step h hlast)
    · exact (audited_pending_step h hw').imp_right (fun hpending => ⟨w', hpending⟩)
  cases h with
  | scanOk scan h => exact before hmode
  | scanError e h => exact before hmode
  | store n scan u alerts h hu => exact before hmode
  | retain n scan alert alerts h hu => exact before hmode
  | publishRules n u h => exact before hmode
  | publishMetadata n u h =>
    refine .inr ⟨w, ?_⟩
    have hu : u.auditMode = .audited := hmode
    simp [pending, hu]
  | record h => exact before hmode

theorem OneKind.safe_step (hI : OneKind s) (h : Reload directory s w a s') (hlast : s'.lastAudited)
    (w' : Writer) : (s'.writers w').pending ≠ some .failSafeUnAudited := by
  intro hpending
  rcases pending_step h w' with e | e | ⟨rfl, rfl, e⟩
  · rw [hpending] at e
    cases h with
    | record h =>
      -- the writer that records had an audited decision, so the other one is audited too
      have hw : (s.writers w).pending = some .audited := by rw [h]; rfl
      cases hI.agree w w' _ _ hw e.symm
    | _ => exact hI.safe hlast w' e.symm
  · rw [hpending] at e
    cases e
  · cases h with
    | store n scan u alerts h hu =>
      rcases resolveScan_store hu with ⟨-, rfl⟩ | ⟨-, hnone, -⟩
      · simp [pending, auditedUpdate] at hpending
      · have hlast' : s.lastAudited := hlast
        rw [hnone] at hlast'
        cases hlast'
    | retain n scan alert alerts h hu => simp [pending] at hpending

/-- **One step.** Agreeing decisions are preserved. -/
theorem OneKind.step (hI : OneKind s) {a : Writer × Act} (hcond : DecisionsAgree directory s a)
    (h : reloadStep directory s a = some s') : OneKind s' where
  agree := hI.agree_step hcond (reload_of_step h)
  recorded := hI.recorded_step (reload_of_step h)
  safe := hI.safe_step (reload_of_step h)

theorem oneKind_start {u : Update} :
    OneKind (.start first u alerts) where
  agree := by
    intro w w' m m' h
    cases h
  recorded := by
    intro h
    exact Or.inl (decide_eq_true h)
  safe := by
    intro _ w h
    cases h

theorem oneKind_initialSnapshot (directory : String) (first : ScanOutcome) :
    OneKind (initialSnapshot directory first) := by
  obtain ⟨alerts, h⟩ := initialSnapshot_loadedFrom
  rw [h]
  exact oneKind_start

/-- While decisions agree, an active audited snapshot is only replaced by an audited one. -/
theorem OneKind.audited_step (hI : OneKind s) (hmode : s.metadata.auditMode = .audited)
    (h : Reload directory s w a s') : s'.metadata.auditMode = .audited := by
  cases h with
  | publishMetadata n u h =>
    show u.auditMode = .audited
    have hw : (s.writers w).pending = some u.auditMode := by rw [h]; rfl
    rcases hI.recorded hmode with hlast | ⟨w', hw'⟩
    · cases hu : u.auditMode with
      | audited => rfl
      | failSafeUnAudited =>
        rw [hu] at hw
        exact absurd hw (hI.safe hlast w)
    · exact hI.agree w w' _ _ hw hw'
  | _ => exact hmode

/-- **An audited snapshot stays.** In every run whose decisions agree, once an audited snapshot is
active no later state is the empty fail-safe one. -/
theorem audited_snapshot_stays (directory : String) (first : ScanOutcome)
    (as bs : List (Writer × Act)) (s s' : State)
    (hmeets : Steps.Meets (reloadStep directory) (DecisionsAgree directory)
      (initialSnapshot directory first) (as ++ bs))
    (hrun : Steps.run (reloadStep directory) (initialSnapshot directory first) as = some s)
    (haudited : s.metadata.auditMode = .audited)
    (hrun' : Steps.run (reloadStep directory) s bs = some s') : ¬ s'.IsFailSafe := by
  obtain ⟨hmeets₁, hmeets₂⟩ := hmeets.of_append hrun
  have hI : OneKind s :=
    invariant_of_run (fun _ _ _ hI hcond h => hI.step hcond h)
      (oneKind_initialSnapshot directory first) hmeets₁ hrun
  -- along the rest of the run the invariant and the audit mode are kept together
  have hkept : OneKind s' ∧ s'.metadata.auditMode = .audited :=
    invariant_of_run (I := fun s => OneKind s ∧ s.metadata.auditMode = .audited)
      (fun _ _ _ hI hcond h => ⟨hI.1.step hcond h, hI.1.audited_step hI.2 (reload_of_step h)⟩)
      ⟨hI, haudited⟩ hmeets₂ hrun'
  rintro ⟨-, hmeta⟩
  rw [hmeta] at hkept
  cases hkept.2

/-! ### The race -/

namespace Reference

def goodScan (path : String) : DirectoryScanResult := ⟨⟨1, [⟨"r", none⟩]⟩, [path], []⟩

/-- A directory whose only bundle does not decode. -/
def badScan : DirectoryScanResult := ⟨.empty, [], [("a.bin", .decode "a.bin" "invalid tag")]⟩

def reload (w : Writer) (scan : DirectoryScanResult) : List (Writer × Act) :=
  [(w, .scan (.ok scan)), (w, .resolve), (w, .publishRules), (w, .publishMetadata), (w, .record)]

/-- A reload on a corrupt directory while an audited snapshot is known. -/
def retained (w : Writer) : List (Writer × Act) := [(w, .scan (.ok badScan)), (w, .resolve)]

end Reference

open Reference

theorem decisionsAgree_of_none {a : Writer × Act} (h : ∀ w, (s.writers w).pending = none) :
    DecisionsAgree directory s a := by
  unfold DecisionsAgree
  split
  · intro w m m' _ hpending
    rw [h w] at hpending
    cases hpending
  · trivial

theorem audited_snapshot_stays_retained : ∃ s s',
    Steps.run (reloadStep "rules") (initialSnapshot "rules" (.ok badScan))
      (reload .watcher (goodScan "a.bin")) = some s ∧
    Steps.run (reloadStep "rules") s (retained (.reloadNow 0)) = some s' ∧
    ¬ s'.IsFailSafe := by
  refine ⟨_, _, rfl, rfl, ?_⟩
  apply audited_snapshot_stays "rules" (.ok badScan)
    (reload .watcher (goodScan "a.bin")) (retained (.reloadNow 0)) _ _
    ?_ rfl rfl rfl
  -- at both decisions no other writer has made one
  refine ⟨trivial, ?_, trivial, trivial, trivial, trivial, ?_, trivial⟩
  · apply decisionsAgree_of_none
    intro w
    cases w <;> rfl
  · apply decisionsAgree_of_none
    intro w
    cases w with
    | watcher => rfl
    | reloadNow n =>
      cases n <;> rfl

/-- On a cold start `reload_now` decides for the fail-safe, the watcher then publishes an audited
snapshot, and the decision is carried out afterwards. -/
theorem late_fail_safe : ∃ s s',
    Steps.run (reloadStep "rules") (initialSnapshot "rules" (.ok badScan))
      (retained (.reloadNow 0)
        ++ reload .watcher (goodScan "a.bin")) = some s ∧
    s.metadata.auditMode = .audited ∧
    Steps.run (reloadStep "rules") s
      [(.reloadNow 0, .publishRules), (.reloadNow 0, .publishMetadata)] = some s' ∧
    s'.IsFailSafe :=
  ⟨_, _, rfl, rfl, rfl, rfl, rfl⟩

/-! ## The two halves of a snapshot -/

def Phase.halfPublished : Phase → Bool
  | .rulesPublished _ _ => true
  | _ => false

def State.Quiet (s : State) : Prop := ∀ w, (s.writers w).halfPublished = false

/-- Rules are published only while no other writer is in the middle of an update. -/
def HalvesApart (s : State) (a : Writer × Act) : Prop :=
  match a.2 with
  | .publishRules => s.Quiet
  | _ => True

/-- The rules, the paths and the audit mode are those of one scan. -/
def State.FromOneScan (s : State) : Prop :=
  s.mergedScan = s.metadataScan ∧ ∃ o, s.scans[s.mergedScan]? = some o ∧
    s.merged = (loadedFrom o).merged ∧
    s.metadata = ⟨(loadedFrom o).contributingPaths, (loadedFrom o).auditMode⟩

def Phase.TracedIn (scans : List ScanOutcome) : Phase → Prop
  | .scanned n scan => scans[n]? = some (.ok scan)
  | .resolved n u => ∃ o, scans[n]? = some o ∧ u = loadedFrom o
  | .rulesPublished n u => ∃ o, scans[n]? = some o ∧ u = loadedFrom o
  | _ => True

/-- What a schedule with `HalvesApart` keeps. A half-published update is the only one, and its rules
are the active ones. -/
structure Traced (s : State) : Prop where
  phases : ∀ w, (s.writers w).TracedIn s.scans
  halves : ∀ w n u, s.writers w = .rulesPublished n u →
    s.mergedScan = n ∧ s.merged = u.merged ∧ ∀ w', (s.writers w').halfPublished = true → w' = w
  whole : s.Quiet → s.FromOneScan

theorem Phase.TracedIn.append {scans : List ScanOutcome} {p : Phase} (h : p.TracedIn scans)
    (more : List ScanOutcome) : p.TracedIn (scans ++ more) := by
  have hget : ∀ {n : Nat} {o : ScanOutcome}, scans[n]? = some o → (scans ++ more)[n]? = some o := by
    intro n o hn
    have hlt : n < scans.length := (List.getElem?_eq_some_iff.mp hn).1
    rw [List.getElem?_append_left hlt, hn]
  cases p with
  | idle => trivial
  | scanned n scan => exact hget h
  | resolved n u =>
    obtain ⟨o, ho, hu⟩ := h
    exact ⟨o, hget ho, hu⟩
  | rulesPublished n u =>
    obtain ⟨o, ho, hu⟩ := h
    exact ⟨o, hget ho, hu⟩
  | recording => trivial

theorem Traced.phase_step (hI : Traced s) (h : Reload directory s w a s') :
    (s'.writers w).TracedIn s'.scans := by
  have hw := hI.phases w
  cases h with
  | scanOk scan h =>
    show ((s.setPhase w (.scanned s.scans.length scan)).writers w).TracedIn (s.scans ++ [.ok scan])
    rw [setPhase_self]
    exact List.getElem?_concat_length
  | scanError e h => exact hw.append _
  | store n scan u alerts h hu =>
    show ((s.setPhase w (.resolved n u)).writers w).TracedIn s.scans
    rw [setPhase_self]
    rw [h] at hw
    exact ⟨.ok scan, hw, eq_loadedFrom_of_store hu⟩
  | retain n scan alert alerts h hu =>
    show ((s.setPhase w .idle).writers w).TracedIn s.scans
    rw [setPhase_self]
    trivial
  | publishRules n u h =>
    show ((s.setPhase w (.rulesPublished n u)).writers w).TracedIn s.scans
    rw [setPhase_self]
    rw [h] at hw
    exact hw
  | publishMetadata n u h =>
    show ((s.setPhase w (if u.auditMode = .audited then .recording else .idle)).writers w).TracedIn
      s.scans
    rw [setPhase_self]
    split_ifs <;> trivial
  | record h =>
    show ((s.setPhase w .idle).writers w).TracedIn s.scans
    rw [setPhase_self]
    trivial

/-- The other writers stay where they are, and the scans only grow. -/
theorem frame_step (h : Reload directory s w a s') :
    (∀ w', w' ≠ w → s'.writers w' = s.writers w') ∧ ∃ more, s'.scans = s.scans ++ more := by
  constructor
  · intro w' hw
    cases h <;> first | exact setPhase_of_ne s hw _ | rfl
  · cases h <;> first | exact ⟨_, rfl⟩ | exact ⟨[], (List.append_nil _).symm⟩

theorem Traced.phases_step (hI : Traced s) (h : Reload directory s w a s') (w' : Writer) :
    (s'.writers w').TracedIn s'.scans := by
  by_cases hw : w' = w
  · rw [hw]
    exact hI.phase_step h
  · obtain ⟨hothers, more, hmore⟩ := frame_step h
    rw [hothers w' hw, hmore]
    exact (hI.phases w').append more

theorem rulesPublished_of_step (h : Reload directory s w a s') (ha : a ≠ .publishRules) {n : Nat}
    (hw' : s'.writers w' = .rulesPublished n u) : s.writers w' = .rulesPublished n u := by
  by_cases hw : w' = w
  · subst hw
    exfalso
    cases h with
    | publishRules n u h => exact ha rfl
    | publishMetadata n u h =>
      rw [setPhase_self] at hw'
      split_ifs at hw'
    | scanError e h =>
      have hidle : s.writers w' = .rulesPublished _ _ := hw'
      rw [h] at hidle
      cases hidle
    | _ =>
      rw [setPhase_self] at hw'
      cases hw'
  · rw [← (frame_step h).1 w' hw]
    exact hw'

theorem exists_of_halfPublished {p : Phase} (h : p.halfPublished) :
    ∃ n u, p = .rulesPublished n u := by
  cases p with
  | rulesPublished n u => exact ⟨n, u, rfl⟩
  | _ => cases h

theorem Traced.halves_step (hI : Traced s) (hcond : HalvesApart s (w, a))
    (h : Reload directory s w a s') {w₁ : Writer} {n : Nat}
    (hw₁ : s'.writers w₁ = .rulesPublished n u) : s'.mergedScan = n ∧ s'.merged = u.merged ∧
      ∀ w', (s'.writers w').halfPublished → w' = w₁ := by
  by_cases ha : a = .publishRules
  · subst ha
    -- before the step nobody was in the middle of an update, so its writer is the only one
    have honly : ∀ w', (s'.writers w').halfPublished → w' = w := by
      intro w' hhalf
      by_contra hw
      rw [(frame_step h).1 w' hw, hcond w'] at hhalf
      cases hhalf
    have hw₁w : w₁ = w := honly w₁ (by rw [hw₁]; rfl)
    subst hw₁w
    cases h with
    | publishRules m v h =>
      rw [setPhase_self] at hw₁
      cases hw₁
      exact ⟨rfl, rfl, honly⟩
  · obtain ⟨hscan, hmerged, honly⟩ := hI.halves w₁ n u (rulesPublished_of_step h ha hw₁)
    refine ⟨?_, ?_, ?_⟩
    · cases h <;> first | exact hscan | exact absurd rfl ha
    · cases h <;> first | exact hmerged | exact absurd rfl ha
    · intro w' hhalf
      obtain ⟨m, v, hw'⟩ := exists_of_halfPublished hhalf
      exact honly w' (by rw [rulesPublished_of_step h ha hw']; rfl)

theorem FromOneScan.of_eq (hfrom : s.FromOneScan) (hmerged : s'.merged = s.merged)
    (hmeta : s'.metadata = s.metadata) (h₁ : s'.mergedScan = s.mergedScan)
    (h₂ : s'.metadataScan = s.metadataScan) {more : List ScanOutcome}
    (hscans : s'.scans = s.scans ++ more) : s'.FromOneScan := by
  obtain ⟨heq, o, ho, hrules, hpaths⟩ := hfrom
  refine ⟨by rw [h₁, h₂, heq], o, ?_, by rw [hmerged, hrules], by rw [hmeta, hpaths]⟩
  have hlt : s.mergedScan < s.scans.length := (List.getElem?_eq_some_iff.mp ho).1
  rw [h₁, hscans, List.getElem?_append_left hlt, ho]

theorem Traced.whole_step (hI : Traced s) (h : Reload directory s w a s') (hquiet : s'.Quiet) :
    s'.FromOneScan := by
  obtain ⟨hothers, more, hmore⟩ := frame_step h
  -- a writer that was not in the middle of an update leaves the state before as quiet
  have hbefore : (s.writers w).halfPublished = false → s.Quiet := by
    intro hw w'
    by_cases hw' : w' = w
    · rw [hw', hw]
    · rw [← hothers w' hw']
      exact hquiet w'
  cases h with
  | publishRules n u h =>
    have hw := hquiet w
    rw [setPhase_self] at hw
    cases hw
  | publishMetadata n u h =>
    obtain ⟨hscan, hmerged, -⟩ := hI.halves w n u h
    have htraced := hI.phases w
    rw [h] at htraced
    obtain ⟨o, ho, hu⟩ := htraced
    refine ⟨hscan, o, ?_, ?_, ?_⟩
    · show s.scans[s.mergedScan]? = some o
      rw [hscan, ho]
    · show s.merged = (loadedFrom o).merged
      rw [hmerged, hu]
    · show (⟨u.contributingPaths, u.auditMode⟩ : SnapshotMeta) = _
      rw [hu]
  | scanOk scan h =>
    exact FromOneScan.of_eq (hI.whole (hbefore (by rw [h]; rfl))) rfl rfl rfl rfl hmore
  | scanError e h =>
    exact FromOneScan.of_eq (hI.whole (hbefore (by rw [h]; rfl))) rfl rfl rfl rfl hmore
  | store n scan u alerts h hu =>
    exact FromOneScan.of_eq (hI.whole (hbefore (by rw [h]; rfl))) rfl rfl rfl rfl hmore
  | retain n scan alert alerts h hu =>
    exact FromOneScan.of_eq (hI.whole (hbefore (by rw [h]; rfl))) rfl rfl rfl rfl hmore
  | record h =>
    exact FromOneScan.of_eq (hI.whole (hbefore (by rw [h]; rfl))) rfl rfl rfl rfl hmore

/-- **One step.** Updates whose halves are apart stay traceable to their scans. -/
theorem Traced.step (hI : Traced s) {a : Writer × Act} (hcond : HalvesApart s a)
    (h : reloadStep directory s a = some s') : Traced s' where
  phases := hI.phases_step (reload_of_step h)
  halves := fun _ _ _ hw => hI.halves_step hcond (reload_of_step h) hw
  whole := hI.whole_step (reload_of_step h)

theorem traced_initialSnapshot (directory : String) (first : ScanOutcome) :
    Traced (initialSnapshot directory first) := by
  obtain ⟨alerts, h⟩ := initialSnapshot_loadedFrom
  rw [h]
  refine ⟨fun w => trivial, fun w n u hw => ?_, fun _ => ⟨rfl, first, rfl, rfl, rfl⟩⟩
  cases hw

/-- **A snapshot from one scan.** In every run in which the halves of two updates are kept apart,
whenever no writer is in the middle of an update the active rules, paths and audit mode are those
of one scan. -/
theorem snapshot_from_one_scan (directory : String) (first : ScanOutcome)
    (as : List (Writer × Act)) (s : State)
    (hmeets : Steps.Meets (reloadStep directory) HalvesApart (initialSnapshot directory first) as)
    (hrun : Steps.run (reloadStep directory) (initialSnapshot directory first) as = some s)
    (hquiet : s.Quiet) : s.FromOneScan := by
  have hI : Traced s :=
    invariant_of_run (fun _ _ _ hI hcond h => hI.step hcond h)
      (traced_initialSnapshot directory first) hmeets hrun
  exact hI.whole hquiet

theorem snapshot_from_one_scan_reload : ∃ s,
    Steps.run (reloadStep "rules") (initialSnapshot "rules" (.ok badScan))
      (reload .watcher (goodScan "a.bin")) = some s ∧ s.FromOneScan := by
  refine ⟨_, rfl, ?_⟩
  apply snapshot_from_one_scan "rules" (.ok badScan)
    (reload .watcher (goodScan "a.bin")) _ ?_ rfl ?_
  · refine ⟨trivial, trivial, ?_, trivial, trivial, trivial⟩
    intro w
    cases w <;> rfl
  · intro w
    cases w <;> rfl

/-- Two reloads whose halves interleave: the rules are those of the second scan and the paths those
of the first, and every writer is done. -/
theorem torn_snapshot : ∃ s,
    Steps.run (reloadStep "rules") (initialSnapshot "rules" (.ok badScan))
      ((reload (.reloadNow 0) (goodScan "a.bin")).take 3
        ++ reload .watcher ⟨⟨2, []⟩, ["b.bin"], []⟩
        ++ (reload (.reloadNow 0) (goodScan "a.bin")).drop 3) = some s ∧
    (∀ w, s.writers w = .idle) ∧ ¬ s.FromOneScan ∧
    ∀ o ∈ s.scans, s.merged.version = (loadedFrom o).merged.version →
      s.metadata.sourcePaths ≠ (loadedFrom o).contributingPaths := by
  refine ⟨_, rfl, ?_, ?_, by decide⟩
  · intro w
    cases w with
    | watcher => rfl
    | reloadNow n => cases n <;> rfl
  · rintro ⟨heq, -⟩
    cases heq

end Tarka.Engine.RuleManager
