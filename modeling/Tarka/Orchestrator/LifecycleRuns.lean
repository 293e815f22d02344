import Tarka.Lib.Joined
import Tarka.Lib.Loop
import Tarka.Orchestrator.Lifecycle

/-! # Which requests are carried out

The task that tags a resolved case has a key that is made of the case and the status. It is written
with the row of the history, so that a task with the key of a resolution is in the outbox when the
case has been resolved that way before (`Consistent`). A request for a move that `transition_status`
accepts is carried out when its key is new, that is, unless it asks for the second resolution of a
case with one status (`carriedOut_iff`). -/

namespace Tarka.Orchestrator

open Tarka.Lib Tarka.Json List

/-! ## Statuses -/

namespace CaseStatus

theorem value_injective : Function.Injective value := by
  intro s t
  cases s <;> cases t <;> decide

variable (s : CaseStatus)

theorem colon_notMem_value : ':' ∉ s.value.toList := by
  cases s <;> decide

theorem getLast?_value : ∀ c ∈ s.value.toList.getLast?, isStripSpace c = false := by
  intro c hc
  cases s <;> cases hc <;> decide

theorem length_value_le : s.value.toList.length ≤ 14 := by
  cases s <;> decide

end CaseStatus

theorem transitionStatus_eq_ok {current new next : CaseStatus} {reason : Option String}
    (h : transitionStatus current new reason = .ok next) : next = new := by
  unfold transitionStatus at h
  split_ifs at h <;> exact (Except.ok.inj h).symm

/-! ## Tasks -/

theorem strip_uuid (id : UuidText) : strip id.text = id.text :=
  strip_eq_self (fun c hc => isStripSpace_ascii (id.visible c hc).1 (id.visible c hc).2)

theorem uuid_ne_empty (id : UuidText) : id.text.isEmpty = false := by
  rw [Bool.eq_false_iff]
  intro h
  have hlength := id.length
  rw [String.isEmpty_iff.mp h] at hlength
  exact absurd hlength (by decide)

/-- A key that may stand in the outbox. -/
structure UsableKey (key : String) : Prop where
  stripped : strip key = key
  nonempty : key.isEmpty = false
  short : key.toList.length ≤ 255

theorem shadowTagKey_chars (caseId newStatus : String) :
    (shadowTagKey caseId newStatus).toList
      = "shadow_tag_case:".toList ++ joined ':' (caseId.toList, newStatus.toList) := by
  have hcolon : ":".toList = [':'] := by decide
  unfold shadowTagKey
  rw [String.toList_append, String.toList_append, String.toList_append, hcolon]
  simp [joined]

theorem shadowTagKey_inj {caseId caseId' : String} {s s' : CaseStatus}
    (h : shadowTagKey caseId s.value = shadowTagKey caseId' s'.value) :
    caseId = caseId' ∧ s = s' := by
  have hchars := congrArg String.toList h
  rw [shadowTagKey_chars, shadowTagKey_chars] at hchars
  have hpair := (joined_eq_iff.mp (append_cancel_left hchars)).resolve_right
    (not_clash_of_snd s.colon_notMem_value s'.colon_notMem_value)
  obtain ⟨hcase, hvalue⟩ := Prod.mk.inj hpair
  exact ⟨String.toList_injective hcase, CaseStatus.value_injective (String.toList_injective hvalue)⟩

theorem usable_shadowTagKey {caseId : String} (s : CaseStatus) (h : caseId.toList.length ≤ 64) :
    UsableKey (shadowTagKey caseId s.value) := by
  have hchars := shadowTagKey_chars caseId s.value
  have hstart : "shadow_tag_case:".toList = 's' :: "hadow_tag_case:".toList := by decide
  refine ⟨strip_of_ends ?_ ?_, ?_, ?_⟩
  · rw [hchars]
    intro c hc
    cases hc
    decide
  · have hne : s.value.toList ≠ [] := by cases s <;> decide
    intro c hc
    apply s.getLast?_value c
    rw [hchars, joined, getLast?_append_of_ne_nil _ (by simp),
      getLast?_append_of_ne_nil _ (by simp), getLast?_cons_of_ne_nil hne] at hc
    exact hc
  · rw [Bool.eq_false_iff]
    intro hempty
    rw [String.isEmpty_iff.mp hempty] at hchars
    cases hchars
  · have hvalue := s.length_value_le
    have hlength : "shadow_tag_case:".toList.length = 16 := by decide
    rw [hchars]
    simp only [joined, length_append, length_cons]
    omega

theorem labelPropagateKey_chars (labelId : String) :
    (labelPropagateKey labelId).toList = "label_propagate:".toList ++ labelId.toList :=
  String.toList_append

theorem labelPropagateKey_inj {labelId labelId' : String}
    (h : labelPropagateKey labelId = labelPropagateKey labelId') : labelId = labelId' := by
  have hchars := congrArg String.toList h
  rw [labelPropagateKey_chars, labelPropagateKey_chars] at hchars
  exact String.toList_injective (append_cancel_left hchars)

theorem labelPropagateKey_ne (labelId caseId newStatus : String) :
    labelPropagateKey labelId ≠ shadowTagKey caseId newStatus := by
  intro h
  have hchars := congrArg (fun key => key.toList.take 16) h
  simp only [labelPropagateKey_chars, shadowTagKey_chars] at hchars
  rw [take_left' (by decide), take_left' (by decide)] at hchars
  exact absurd hchars (by decide)

theorem usable_labelPropagateKey (id : UuidText) : UsableKey (labelPropagateKey id.text) := by
  have hchars := labelPropagateKey_chars id.text
  have hvisible : ∀ c ∈ "label_propagate:".toList, isStripSpace c = false := by decide
  refine ⟨strip_eq_self ?_, ?_, ?_⟩
  · intro c hc
    rw [hchars, mem_append] at hc
    exact hc.elim (hvisible c)
      (fun h => isStripSpace_ascii (id.visible c h).1 (id.visible c h).2)
  · rw [Bool.eq_false_iff]
    intro hempty
    rw [String.isEmpty_iff.mp hempty] at hchars
    have hlength := congrArg length hchars
    rw [length_append, id.length, String.toList_empty, length_nil] at hlength
    omega
  · have hlength : "label_propagate:".toList.length = 16 := by decide
    rw [hchars, length_append, id.length]
    omega

def keys (outbox : List OutboxRow) : List String := outbox.map OutboxRow.idempotencyKey

variable {key : String}

theorem any_key_iff {outbox : List OutboxRow} :
    outbox.any (fun row => row.idempotencyKey == key) ↔ key ∈ keys outbox := by
  simp [keys]

/-- **A task is written when its key is new.** -/
theorem createTask_eq (h : UsableKey key) (outbox : List OutboxRow) (eventType : String)
    (payload : List (String × Value)) :
    createTask outbox eventType key payload
      = if key ∈ keys outbox then .error .databaseTransactionFailed
        else .ok (outbox ++ [⟨eventType, key, payload⟩]) := by
  have hlong : decide (255 < key.toList.length) = false := decide_eq_false (Nat.not_lt.mpr h.short)
  simp only [createTask, h.stripped, h.nonempty, hlong, Bool.or_self, Bool.false_eq_true, if_false,
    any_key_iff]

/-! ## What a request writes -/

section

variable (host : Host) (db : Db) (r : Request) (c : Checked) (row : CaseRow)

def labelFor : Option LabelRow :=
  (groundTruthClassForResolvedStatus c.newStatus).map (fun groundTruth =>
    { id := r.drawnLabelId.text
      sourceType := "ANALYST_DISPOSITION"
      sourceId := host.uuid5 ("tarka:case_history:" ++ toString (db.history.length + 1))
      entityId := row.entityId.text
      groundTruthClass := groundTruth
      tags := normalizeTags c.reasonCode c.newStatus.value })

def labelTask (label : LabelRow) : OutboxRow where
  eventType := "LABEL_PROPAGATE"
  idempotencyKey := labelPropagateKey label.id
  payload := buildLabelPropagatePayload label row.entityId.text c.reasonCode (db.history.length + 1)
    (db.auditLogs.length + 1)

def shadowTask : OutboxRow where
  eventType := "SHADOW_RETRO_TAG"
  idempotencyKey := shadowTagKey c.caseId c.newStatus.value
  payload := shadowRetroCaseOutboxPayload row.entityId.text c.caseId c.newStatus.value
    r.notesForAudit

def tasksFor : List OutboxRow :=
  (labelFor host db r c row).toList.map (labelTask db c row)
    ++ if c.newStatus.isResolved then [shadowTask r c row] else []

def written : Db where
  cases := setStatus db.cases c.caseId c.newStatus
  auditLogs := db.auditLogs ++ [auditLog host r c row c.newStatus]
  history := db.history ++ [historyRow host db c row c.newStatus]
  labels := db.labels ++ (labelFor host db r c row).toList
  outbox := db.outbox ++ tasksFor host db r c row

def responseFor : Response :=
  ⟨c.caseId, c.newStatus.value, db.history.length + 1, db.auditLogs.length + 1⟩

def CarriedOut : Prop :=
  putLifecycleCaseStatus host db r = .ok (responseFor db c, written host db r c row)

end

/-- A request for a move of a case that `transition_status` accepts. -/
structure Accepted (db : Db) (r : Request) (c : Checked) (row : CaseRow) : Prop where
  checked : r.check = .ok c
  found : db.cases.find? (fun row => row.caseId == c.caseId) = some row
  accepted : ∃ current, CaseStatus.ofValue row.status = some current
    ∧ transitionStatus current c.newStatus (some c.reasonCode) = .ok c.newStatus

/-- Audit logs are linked in the history at most once, and the task of a resolution is there when
the history has it. -/
structure Consistent (db : Db) : Prop where
  audits : ∀ h ∈ db.history, ∀ id, h.auditLogId = some id → id ≤ db.auditLogs.length
  tags : ∀ (caseId : String) (s : CaseStatus), s.isResolved = true →
    (shadowTagKey caseId s.value ∈ keys db.outbox
      ↔ ∃ h ∈ db.history, h.caseId = caseId ∧ h.toStatus = some s.value)

section

variable {host : Host} {db : Db} {r : Request} {c : Checked} {row : CaseRow}

theorem length_of_check (h : r.check = .ok c) : c.caseId.toList.length ≤ 64 := by
  simp only [Request.check] at h
  split_ifs at h with hid
  simp only [Bool.or_eq_true, decide_eq_true_eq, not_or, not_lt] at hid
  split at h
  · cases h
  · cases h
    exact hid.1.2

theorem createAnalystDisposition_eq (labelId : String) (n : Nat) (entityId : UuidText)
    (groundTruth : GroundTruthClass) (reasonCode status : String) :
    createAnalystDisposition host labelId (n + 1) entityId.text groundTruth reasonCode status
      = .ok ⟨labelId, "ANALYST_DISPOSITION",
          host.uuid5 ("tarka:case_history:" ++ toString (n + 1)), entityId.text, groundTruth,
          normalizeTags reasonCode status⟩ := by
  have hentity : normalizeEntityId entityId.text = .ok entityId.text := by
    have hshort : decide (512 < entityId.text.toList.length) = false := by
      rw [entityId.length]
      rfl
    simp [normalizeEntityId, strip_uuid, uuid_ne_empty, hshort]
  rw [createAnalystDisposition, hentity]
  rfl

theorem labelled_eq (hfresh : labelPropagateKey r.drawnLabelId.text ∉ keys db.outbox) :
    labelled host db r c row c.newStatus
      = .ok (db.labels ++ (labelFor host db r c row).toList,
          db.outbox ++ (labelFor host db r c row).toList.map (labelTask db c row)) := by
  rw [labelled, labelFor]
  cases groundTruthClassForResolvedStatus c.newStatus with
  | none => simp
  | some groundTruth =>
    simp only [createAnalystDisposition_eq, Except.bind, enqueueLabelPropagateTask,
      createTask_eq (usable_labelPropagateKey r.drawnLabelId), if_neg hfresh]
    rfl

theorem shadowTagKey_mem_labelled (caseId newStatus : String) :
    shadowTagKey caseId newStatus
        ∈ keys (db.outbox ++ (labelFor host db r c row).toList.map (labelTask db c row))
      ↔ shadowTagKey caseId newStatus ∈ keys db.outbox := by
  rw [keys, map_append, mem_append, or_iff_left]
  · rfl
  · intro h
    obtain ⟨task, htask, hkey⟩ := mem_map.mp h
    obtain ⟨label, -, rfl⟩ := mem_map.mp htask
    exact labelPropagateKey_ne _ _ _ hkey

/-- **What the transaction writes**, or the error of the unique key. -/
theorem write_eq (hdb : Consistent db)
    (hfresh : labelPropagateKey r.drawnLabelId.text ∉ keys db.outbox)
    (hlength : c.caseId.toList.length ≤ 64) :
    write host db r c row c.newStatus
      = if c.newStatus.isResolved ∧ shadowTagKey c.caseId c.newStatus.value ∈ keys db.outbox then
          .error .databaseTransactionFailed
        else .ok (responseFor db c, written host db r c row) := by
  have haudit : db.history.any (fun h => h.auditLogId == some (db.auditLogs.length + 1))
      = false := by
    rw [any_eq_false]
    intro h hmem heq
    have := hdb.audits h hmem _ (beq_iff_eq.mp heq)
    omega
  rw [write, haudit, if_neg Bool.false_ne_true, labelled_eq hfresh]
  simp only [Except.bind, tagged, enqueueShadowRetroTag,
    createTask_eq (usable_shadowTagKey c.newStatus hlength), shadowTagKey_mem_labelled]
  cases hresolved : c.newStatus.isResolved with
  | false =>
    simp only [written, tasksFor, hresolved, Bool.false_eq_true, if_false, false_and, append_nil]
    rfl
  | true =>
    by_cases hkey : shadowTagKey c.caseId c.newStatus.value ∈ keys db.outbox
    · simp [hkey]
    · simp only [hkey, if_true, if_false, and_false, written, tasksFor, hresolved]
      rw [← append_assoc]
      rfl

theorem put_of_accepted (h : Accepted db r c row) :
    putLifecycleCaseStatus host db r = write host db r c row c.newStatus := by
  obtain ⟨current, hcurrent, haccepted⟩ := h.accepted
  have hentity : (strip row.entityId.text).isEmpty = false := by
    rw [strip_uuid]
    exact uuid_ne_empty row.entityId
  rw [putLifecycleCaseStatus, h.checked, Except.bind, transact, h.found]
  simp [hcurrent, haccepted, hentity]

theorem accepted_of_put {out : Response × Db} (h : putLifecycleCaseStatus host db r = .ok out) :
    ∃ c row, Accepted db r c row := by
  obtain ⟨c, hchecked, htransact⟩ := except_bind_eq_ok.mp h
  rw [transact] at htransact
  split at htransact
  · cases htransact
  · next row hfound =>
      split at htransact
      · cases htransact
      · next current hcurrent =>
          split at htransact
          · cases htransact
          · next next hnext =>
              rw [transitionStatus_eq_ok hnext] at hnext
              exact ⟨c, row, hchecked, hfound, current, hcurrent, hnext⟩

/-- A request changes nothing, or it is carried out and its key was new. -/
theorem after_cases (hdb : Consistent db)
    (hfresh : labelPropagateKey r.drawnLabelId.text ∉ keys db.outbox) :
    after host db r = db
      ∨ ∃ c row, Accepted db r c row ∧ after host db r = written host db r c row := by
  cases hput : putLifecycleCaseStatus host db r with
  | error e =>
    left
    rw [after, hput]
    rfl
  | ok out =>
    right
    obtain ⟨c, row, haccepted⟩ := accepted_of_put hput
    refine ⟨c, row, haccepted, ?_⟩
    rw [put_of_accepted haccepted, write_eq hdb hfresh (length_of_check haccepted.checked)] at hput
    split_ifs at hput
    rw [after, put_of_accepted haccepted, write_eq hdb hfresh (length_of_check haccepted.checked),
      if_neg (by assumption)]
    rfl

/-! ## Runs of requests -/

theorem mem_keys_tasksFor :
    key ∈ keys (tasksFor host db r c row)
      ↔ ((labelFor host db r c row).isSome ∧ key = labelPropagateKey r.drawnLabelId.text)
        ∨ (c.newStatus.isResolved ∧ key = shadowTagKey c.caseId c.newStatus.value) := by
  rw [keys, tasksFor, map_append, mem_append]
  apply or_congr
  · rw [labelFor]
    cases groundTruthClassForResolvedStatus c.newStatus with
    | none => simp
    | some groundTruth => simp [labelTask]
  · cases c.newStatus.isResolved with
    | false => simp
    | true => simp [shadowTask]

theorem shadowTagKey_mem_written (hdb : Consistent db) (caseId : String) {s : CaseStatus}
    (hs : s.isResolved) :
    shadowTagKey caseId s.value ∈ keys (written host db r c row).outbox
      ↔ ∃ h ∈ (written host db r c row).history, h.caseId = caseId ∧ h.toStatus = some s.value := by
  have hnew : shadowTagKey caseId s.value ∈ keys (tasksFor host db r c row)
      ↔ c.caseId = caseId ∧ c.newStatus = s := by
    rw [mem_keys_tasksFor]
    constructor
    · rintro (⟨-, hkey⟩ | ⟨-, hkey⟩)
      · exact absurd hkey.symm (labelPropagateKey_ne _ _ _)
      · obtain ⟨hcase, hstatus⟩ := shadowTagKey_inj hkey
        exact ⟨hcase.symm, hstatus.symm⟩
    · rintro ⟨rfl, rfl⟩
      exact .inr ⟨hs, rfl⟩
  have hrow : c.caseId = caseId ∧ c.newStatus = s
      ↔ c.caseId = caseId ∧ some c.newStatus.value = some s.value := by
    rw [Option.some_inj, CaseStatus.value_injective.eq_iff]
  rw [written, keys, map_append]
  simp only [mem_append, mem_singleton, or_and_right, exists_or, exists_eq_left]
  exact or_congr (hdb.tags caseId s hs) (hnew.trans hrow)

/-- **A request keeps the history and the outbox together.** -/
theorem consistent_written (hdb : Consistent db) : Consistent (written host db r c row) where
  audits := by
    intro h hmem id hid
    have hlength : (written host db r c row).auditLogs.length = db.auditLogs.length + 1 := by
      simp [written]
    rw [hlength]
    rcases mem_append.mp hmem with hold | hnew
    · exact Nat.le_succ_of_le (hdb.audits h hold id hid)
    · rw [mem_singleton.mp hnew] at hid
      exact (Option.some.inj hid).ge
  tags := fun caseId _ hs => shadowTagKey_mem_written hdb caseId hs

theorem consistent_after (hdb : Consistent db)
    (hfresh : labelPropagateKey r.drawnLabelId.text ∉ keys db.outbox) :
    Consistent (after host db r) := by
  rcases after_cases hdb hfresh with h | ⟨c, row, -, h⟩
  · rwa [h]
  · rw [h]
    exact consistent_written hdb

/-- The ids that are drawn for labels are new. -/
structure Drawn (db : Db) (rs : List Request) : Prop where
  distinct : (rs.map (fun r => r.drawnLabelId.text)).Nodup
  fresh : ∀ r ∈ rs, labelPropagateKey r.drawnLabelId.text ∉ keys db.outbox

theorem Drawn.after {rs : List Request} (h : Drawn db (r :: rs)) (hdb : Consistent db) :
    Drawn (after host db r) rs := by
  obtain ⟨hnew, hdistinct⟩ := nodup_cons.mp h.distinct
  refine ⟨hdistinct, ?_⟩
  intro x hx
  have hold : labelPropagateKey x.drawnLabelId.text ∉ keys db.outbox :=
    h.fresh x (mem_cons_of_mem _ hx)
  rcases after_cases hdb (h.fresh r mem_cons_self) with hafter | ⟨c, row, -, hafter⟩
  · rwa [hafter]
  · rw [hafter, written, keys, map_append, mem_append, not_or]
    refine ⟨hold, ?_⟩
    intro hmem
    rcases mem_keys_tasksFor.mp hmem with ⟨-, hkey⟩ | ⟨-, hkey⟩
    · exact hnew (mem_map.mpr ⟨x, hx, labelPropagateKey_inj hkey⟩)
    · exact labelPropagateKey_ne _ _ _ hkey

theorem consistent_afterAll (host : Host) {rs rs' : List Request} (hdb : Consistent db)
    (hdrawn : Drawn db (rs ++ rs')) :
    Consistent (afterAll host db rs) ∧ Drawn (afterAll host db rs) rs' := by
  induction rs generalizing db with
  | nil => exact ⟨hdb, hdrawn⟩
  | cons r rs ih =>
    have hfresh := hdrawn.fresh r mem_cons_self
    have hcons : afterAll host db (r :: rs) = afterAll host (after host db r) rs := foldl_cons
    rw [hcons]
    exact ih (consistent_after hdb hfresh) (hdrawn.after hdb)

/-- **A request for an accepted move is carried out unless it resolves the case with a status for
the second time.** -/
theorem carriedOut_iff {rs : List Request} (hdb : Consistent db) (hdrawn : Drawn db (rs ++ [r]))
    (haccepted : Accepted (afterAll host db rs) r c row) :
    CarriedOut host (afterAll host db rs) r c row
      ↔ (c.newStatus.isResolved = true → ∀ h ∈ (afterAll host db rs).history,
          h.caseId = c.caseId → h.toStatus ≠ some c.newStatus.value) := by
  obtain ⟨hthen, hnew⟩ := consistent_afterAll host hdb hdrawn
  have hfresh := hnew.fresh r mem_cons_self
  rw [CarriedOut, put_of_accepted haccepted,
    write_eq hthen hfresh (length_of_check haccepted.checked)]
  constructor
  · intro h hresolved row hrow hcase hstatus
    have hkey := (hthen.tags c.caseId c.newStatus hresolved).mpr ⟨row, hrow, hcase, hstatus⟩
    rw [if_pos ⟨hresolved, hkey⟩] at h
    cases h
  · intro h
    rw [if_neg]
    rintro ⟨hresolved, hkey⟩
    obtain ⟨row, hrow, hcase, hstatus⟩ := (hthen.tags c.caseId c.newStatus hresolved).mp hkey
    exact h hresolved row hrow hcase hstatus

end

/-! ## A case that is resolved twice -/

namespace Demo

def host : Host := ⟨fun _ => zeroDigest, fun name => name⟩

def entity : UuidText := ⟨"4f6d1f5e-1c0b-4a53-9d0e-2f6b9c9a7e01", by decide, by decide⟩

def db : Db := ⟨[⟨"c1", entity, "OPEN"⟩], [], [], [], []⟩

def request (newStatus reasonCode : String) (labelId : UuidText)
    (short : reasonCode.toList.length ≤ 128) : Request :=
  ⟨"c1", newStatus, reasonCode, "analyst", none, none, labelId, short⟩

def requests : List Request :=
  [request "RESOLVED_FRAUD" "CHARGEBACK"
    ⟨"6f1de1f0-3b55-4c7e-8f0a-0c8f3f1f0001", by decide, by decide⟩
      (by decide),
    request "OPEN" "NEW_EVIDENCE" ⟨"6f1de1f0-3b55-4c7e-8f0a-0c8f3f1f0002", by decide, by decide⟩
      (by decide)]

def again (newStatus : String) : Request :=
  request newStatus "CHARGEBACK" ⟨"6f1de1f0-3b55-4c7e-8f0a-0c8f3f1f0003", by decide, by decide⟩
    (by decide)

theorem consistent_db : Consistent db where
  audits := fun _ h => absurd h not_mem_nil
  tags := by
    intro caseId s _
    simp [db, keys]

theorem drawn (newStatus : String) : Drawn db (requests ++ [again newStatus]) where
  distinct := by
    show ["6f1de1f0-3b55-4c7e-8f0a-0c8f3f1f0001", "6f1de1f0-3b55-4c7e-8f0a-0c8f3f1f0002",
      "6f1de1f0-3b55-4c7e-8f0a-0c8f3f1f0003"].Nodup
    decide
  fresh := fun _ _ h => absurd h not_mem_nil

def reopened : CaseRow := ⟨"c1", entity, "OPEN"⟩

theorem found_reopened :
    (afterAll host db requests).cases.find? (fun row => row.caseId == "c1") = some reopened := by
  decide +kernel

/-- The case may be resolved as legitimate. -/
theorem legit_again_carriedOut :
    CarriedOut host (afterAll host db requests) (again "RESOLVED_LEGIT")
      ⟨"c1", "CHARGEBACK", "analyst", .resolvedLegit⟩ reopened := by
  have haccepted : Accepted (afterAll host db requests) (again "RESOLVED_LEGIT")
      ⟨"c1", "CHARGEBACK", "analyst", .resolvedLegit⟩ reopened :=
    ⟨by decide +kernel, found_reopened, .opened, by decide +kernel, rfl⟩
  refine (carriedOut_iff consistent_db (drawn _) haccepted).mpr ?_
  intro _
  decide +kernel

/-- Its second resolution as fraud is an accepted move, and it fails in the database. -/
theorem fraud_again_fails :
    Accepted (afterAll host db requests) (again "RESOLVED_FRAUD")
        ⟨"c1", "CHARGEBACK", "analyst", .resolvedFraud⟩ reopened
      ∧ putLifecycleCaseStatus host (afterAll host db requests) (again "RESOLVED_FRAUD")
        = .error .databaseTransactionFailed := by
  have haccepted : Accepted (afterAll host db requests) (again "RESOLVED_FRAUD")
      ⟨"c1", "CHARGEBACK", "analyst", .resolvedFraud⟩ reopened :=
    ⟨by decide +kernel, found_reopened, .opened, by decide +kernel, rfl⟩
  refine ⟨haccepted, ?_⟩
  obtain ⟨hthen, hnew⟩ := consistent_afterAll host consistent_db (drawn "RESOLVED_FRAUD")
  have hkey : shadowTagKey "c1" "RESOLVED_FRAUD" ∈ keys (afterAll host db requests).outbox := by
    decide +kernel
  rw [put_of_accepted haccepted, write_eq hthen (hnew.fresh _ mem_cons_self) (length_of_check
    haccepted.checked), if_pos ⟨rfl, hkey⟩]

end Demo

end Tarka.Orchestrator
