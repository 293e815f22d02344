import Tarka.Compiler.RuleSet
import Tarka.Lib.Steps

/-! # Hot reload of rule bundles (`engine/rule_manager.rs`)

One snapshot of the merged rules is shared by every reader. The file watcher and any number of
`reload_now` calls rescan the directory and write to it. A writer scans, decides under the lock of
`last_audited` what to store (`resolveScan`), and then publishes the rules, publishes the metadata
and records the audited snapshot, each under a lock of its own, so that the steps of two writers
may interleave. -/

namespace Tarka.Engine.RuleManager

open Tarka.Lib Tarka.Compiler Function

/-- Whether rules were loaded from trusted artifacts or the fail-safe path is active. -/
inductive RuleAuditMode where
  | audited
  | failSafeUnAudited
  deriving DecidableEq

structure SnapshotMeta where
  sourcePaths : List String
  auditMode : RuleAuditMode
  deriving DecidableEq

/-- The errors of a scan; a third-party error is its text. -/
inductive RuleManagerError where
  | io (path source : String)
  | decode (path source : String)
  | notify (message : String)
  deriving DecidableEq

def RuleManagerError.message : RuleManagerError → String
  | io path source => "io error on rule directory " ++ path ++ ": " ++ source
  | decode path source => "failed to decode RuleSet protobuf from " ++ path ++ ": " ++ source
  | notify message => "notify watcher error: " ++ message

/-- Merged successful bundles plus per-file errors. -/
structure DirectoryScanResult where
  merged : RuleSet
  contributingPaths : List String
  fileErrors : List (String × RuleManagerError)

/-- What `scan_merge_directory` returns. -/
abbrev ScanOutcome := Except RuleManagerError DirectoryScanResult

inductive CriticalAlertReason where
  | partialOrTotalDecodeFailures (errors : List (String × String))
  | directoryScanFailed (detail : String)
  | retainedLastKnownGood (detail : String)
  | failSafeActivated (detail : String)
  deriving DecidableEq

structure CriticalRuleLoadAlert where
  directory : String
  summary : String
  reason : CriticalAlertReason
  deriving DecidableEq

/-! ## The decision -/

/-- What a writer publishes. -/
structure Update where
  merged : RuleSet
  contributingPaths : List String
  auditMode : RuleAuditMode

inductive ScanResolution where
  | store (update : Update)
  | retain (alert : CriticalRuleLoadAlert)

def isAuditedLoad (scan : DirectoryScanResult) : Bool :=
  !scan.merged.rules.isEmpty || (!scan.contributingPaths.isEmpty && scan.fileErrors.isEmpty)

def summarizeScanFailure (scan : DirectoryScanResult) : String :=
  if scan.fileErrors.isEmpty then
    "no rule bundles produced an audited RuleSet (empty directory or unusable inputs)"
  else toString scan.fileErrors.length ++ " file(s) failed to decode or read"

def auditedUpdate (scan : DirectoryScanResult) : Update :=
  ⟨scan.merged, scan.contributingPaths, .audited⟩

def failSafeUpdate : Update := ⟨.empty, [], .failSafeUnAudited⟩

/-- `resolve_scan`, with the alerts it emits. Of the last audited snapshot only its presence
counts. -/
def resolveScan (directory : String) (scan : DirectoryScanResult) (lastAuditedGood : Bool) :
    ScanResolution × List CriticalRuleLoadAlert :=
  if isAuditedLoad scan then
    (.store (auditedUpdate scan),
      if scan.fileErrors.isEmpty then []
      else [⟨directory, "one or more rule bundles skipped; merged remaining files",
        .partialOrTotalDecodeFailures (scan.fileErrors.map (fun e => (e.1, e.2.message)))⟩])
  else if lastAuditedGood then
    let alert : CriticalRuleLoadAlert :=
      ⟨directory, "rule reload failed; retaining last-known-good audited snapshot",
        .retainedLastKnownGood (summarizeScanFailure scan)⟩
    (.retain alert, [alert])
  else
    (.store failSafeUpdate,
      [⟨directory, "no audited rule bundle available; activating fail-safe (un-audited)",
        .failSafeActivated (summarizeScanFailure scan)⟩])

/-! ## Writers -/

/-- The threads that reload. -/
inductive Writer where
  | watcher
  | reloadNow (call : Nat)
  deriving DecidableEq

def scanFailedAlert (directory : String) (w : Writer) (e : RuleManagerError) :
    CriticalRuleLoadAlert where
  directory := directory
  summary :=
    match w with
    | .watcher => "rule directory scan failed during watch"
    | .reloadNow _ => "rule directory could not be scanned"
  reason := .directoryScanFailed e.message

/-- Where a writer is in its reload. The number is that of its scan. -/
inductive Phase where
  | idle
  | scanned (n : Nat) (scan : DirectoryScanResult)
  | resolved (n : Nat) (update : Update)
  | rulesPublished (n : Nat) (update : Update)
  | recording

inductive Act where
  | scan (outcome : ScanOutcome)
  | resolve
  | publishRules
  | publishMetadata
  | record

/-- The shared snapshot, whether `last_audited` is set (it then points to that snapshot), the
writers and the alerts. The last three fields are history: the outcomes of all scans, and the
numbers of those the published rules and metadata came from. No step reads them. -/
structure State where
  merged : RuleSet
  metadata : SnapshotMeta
  lastAudited : Bool
  writers : Writer → Phase
  alerts : List CriticalRuleLoadAlert
  scans : List ScanOutcome
  mergedScan : Nat
  metadataScan : Nat

namespace State

def setPhase (s : State) (w : Writer) (p : Phase) : State :=
  { s with writers := Function.update s.writers w p }

@[simp] theorem setPhase_self (s : State) (w : Writer) (p : Phase) :
    (s.setPhase w p).writers w = p := by
  show update s.writers w p w = p
  rw [update_self]

@[simp] theorem setPhase_of_ne (s : State) {w w' : Writer} (h : w' ≠ w) (p : Phase) :
    (s.setPhase w p).writers w' = s.writers w' := by
  show update s.writers w p w' = s.writers w'
  rw [update_of_ne h]

/-- The state in which the watcher is started: nothing is published but the given update. -/
def start (first : ScanOutcome) (u : Update) (alerts : List CriticalRuleLoadAlert) : State where
  merged := u.merged
  metadata := ⟨u.contributingPaths, u.auditMode⟩
  lastAudited := u.auditMode = .audited
  writers := fun _ => .idle
  alerts := alerts
  scans := [first]
  mergedScan := 0
  metadataScan := 0

end State

/-- `initial_snapshot`: the first scan, before any other thread can write. -/
def initialSnapshot (directory : String) (first : ScanOutcome) : State :=
  match first with
  | .error e =>
    .start first failSafeUpdate
      [⟨directory, "initial rule directory scan failed; activating fail-safe",
        .directoryScanFailed e.message⟩]
  | .ok scan =>
    match resolveScan directory scan false with
    | (.store u, alerts) => .start first u alerts
    | (.retain _, alerts) => .start first failSafeUpdate alerts

/-- One atomic step of a writer, in `reload_now` or in `watch_loop`. -/
def reloadStep (directory : String) (s : State) (a : Writer × Act) : Option State :=
  match a.2, s.writers a.1 with
  | .scan (.ok scan), .idle =>
    some { s.setPhase a.1 (.scanned s.scans.length scan) with scans := s.scans ++ [.ok scan] }
  | .scan (.error e), .idle =>
    some { s with
      scans := s.scans ++ [.error e]
      alerts := s.alerts ++ [scanFailedAlert directory a.1 e] }
  | .resolve, .scanned n scan =>
    -- the lock of `last_audited` is held for the decision and dropped before the publication
    match resolveScan directory scan s.lastAudited with
    | (.store u, alerts) =>
      some { s.setPhase a.1 (.resolved n u) with alerts := s.alerts ++ alerts }
    | (.retain _, alerts) => some { s.setPhase a.1 .idle with alerts := s.alerts ++ alerts }
  | .publishRules, .resolved n u =>
    some { s.setPhase a.1 (.rulesPublished n u) with merged := u.merged, mergedScan := n }
  | .publishMetadata, .rulesPublished n u =>
    some { s.setPhase a.1 (if u.auditMode = .audited then .recording else .idle) with
      metadata := ⟨u.contributingPaths, u.auditMode⟩, metadataScan := n }
  | .record, .recording => some { s.setPhase a.1 .idle with lastAudited := true }
  | _, _ => none

end Tarka.Engine.RuleManager
