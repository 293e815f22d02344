import Tarka.Decision.Enforcement

/-! # What the journal says about deliveries

`Progress` says where a delivery can stand and which rows it has written by then: one row for each
attempt that is tried again, and at the end a row of another kind. A turn keeps it. As the rows of
deliveries with different action ids can be told apart, it holds of every delivery in every
interleaving, with its rows in the journal; from that follows what the logical view reports and what
a query shows (`deliveries_journaled`). -/

namespace Tarka.Decision.Enforcement

open Tarka.Lib List Function Nat SharedLog

/-- What is known of the host: `lower` changes the ASCII letters of an ASCII text, and a digest has
32 bytes. -/
structure Host.Lawful (host : Host) : Prop where
  lower_ascii : ∀ s : String, (∀ c ∈ s.toList, c.toNat < 128) → host.lower s = asciiLower s
  digest : ∀ b, (host.sha256 b).length = 32

section

variable {host : Host}

/-! ## Action ids -/

theorem lookup_actionIdsFor {tokens : List String} {token : String} (h : token ∈ tokens)
    (tenantId traceId packHash : String) :
    (actionIdsFor host tokens tenantId traceId packHash).lookup token
      = some (idempotentActionId host tenantId traceId token packHash) := by
  induction tokens using reverseRecOn with
  | nil => cases h
  | append_singleton tokens last ih =>
    rw [actionIdsFor, foldl_append, foldl_cons, foldl_nil, Dict.lookup_set]
    split_ifs with hlast
    · rw [hlast]
    · exact ih ((mem_append.mp h).resolve_right (by simpa using hlast))

theorem deliveryActionId_eq (tokens : List String) (tenantId traceId packHash : String) :
    deliveryActionId host tokens (actionIdsFor host tokens tenantId traceId packHash)
      tenantId traceId
        packHash
      = .ok (idempotentActionId host tenantId traceId (tokens.headD "") packHash) := by
  cases tokens with
  | nil => rfl
  | cons token tokens =>
    rw [deliveryActionId, lookup_actionIdsFor mem_cons_self]
    rfl

def deliveryId (host : Host) (call : Call) : String :=
  idempotentActionId host call.tenantId call.traceId
    ((suggestedActions host call.decision call.recommendedAction).headD "") call.packHash

/-- The fields of a row that tell whose it is. -/
structure JournalBase.IsOf (host : Host) (call : Call) (base : JournalBase) : Prop where
  actionId : base.actionId = deliveryId host call
  idempotencyKey : base.idempotencyKey = deliveryId host call
  traceId : base.traceId = call.traceId
  tenantId : base.tenantId = call.tenantId

theorem opening_ok (host : Host) (call : Call) :
    ∃ vars, opening host call = .ok vars ∧ vars.base.IsOf host call := by
  rw [opening, deliveryActionId_eq]
  exact ⟨_, rfl, ⟨rfl, rfl, rfl, rfl⟩⟩

theorem buildPayload_ok (host : Host) (call : Call) (intent : EnforcementIntent) :
    ∃ payload, buildPayload host call intent = .ok payload := by
  rw [buildPayload, deliveryActionId_eq]
  exact ⟨_, rfl⟩

/-! ## One turn -/

theorem afterPost_cases (base : JournalBase) (attempt : Nat) (ts : String) (reply : Reply) :
    (∃ row, afterPost base attempt ts reply = .again row ∧ attempt < retryAttempts
        ∧ row.toJournalBase = base ∧ row.status = .retrying ∧ row.attemptCount = some attempt)
      ∨ ∃ row webhook, afterPost base attempt ts reply = .finish row webhook
        ∧ row.toJournalBase = base ∧ row.status ≠ .retrying ∧ row.status ≠ .skipped
        ∧ row.attemptCount = some attempt := by
  unfold afterPost
  split_ifs with hok hagain
  · exact .inr ⟨_, _, rfl, rfl, Status.noConfusion, Status.noConfusion, rfl⟩
  · refine .inl ⟨_, rfl, hagain.1, ?_⟩
    unfold retryingRow
    split_ifs <;> exact ⟨rfl, rfl, rfl⟩
  · refine .inr ⟨_, _, rfl, ?_⟩
    unfold failedRow
    split_ifs <;> exact ⟨rfl, Status.noConfusion, Status.noConfusion, rfl⟩

/-- One row for each of the first attempts, which are tried again. -/
def Retried (attempts : Nat) (rows : List Row) : Prop :=
  rows.map (fun row => (row.status, row.attemptCount))
    = (List.range attempts).map (fun n => (Status.retrying, some (n + 1)))

variable {n : Nat} {rows : List Row} {row : Row}

theorem Retried.append (h : Retried n rows) (hstatus : row.status = .retrying)
    (hcount : row.attemptCount = some (n + 1)) : Retried (n + 1) (rows ++ [row]) := by
  rw [Retried, map_append, h, range_succ, map_append, map_singleton, hstatus, hcount]
  rfl

/-- Where a delivery can stand, with the rows it has written. -/
inductive Progress (host : Host) (call : Call) : Delivery → List Row → Prop
  | fresh : Progress host call ⟨.fresh, []⟩ []
  | posting {vars payload posts rows n ts} (hvars : opening host call = .ok vars) (hn : n < 3)
      (hposts : posts.length = n + 1) (hrows : Retried n rows)
      (hurl : call.hookUrl.isEmpty = false) :
      Progress host call ⟨.posting vars payload (n + 1) ts, posts⟩ rows
  | waiting {vars payload posts rows n} (hvars : opening host call = .ok vars) (hn : n + 1 < 3)
      (hposts : posts.length = n + 1) (hrows : Retried (n + 1) rows)
      (hurl : call.hookUrl.isEmpty = false) :
      Progress host call ⟨.waiting vars payload (n + 1), posts⟩ rows
  | skipped {summary row} (hurl : call.hookUrl.isEmpty = true) (hstatus : row.status = .skipped)
      (hcount : row.attemptCount = none) (hsummary : summary.journal = some .skipped) :
      Progress host call ⟨.returned summary, []⟩ [row]
  | finished {summary posts rows row n} (hurl : call.hookUrl.isEmpty = false) (hn : n < 3)
      (hposts : posts.length = n + 1) (hrows : Retried n rows) (hstatus : row.status ≠ .retrying)
      (hskipped : row.status ≠ .skipped) (hcount : row.attemptCount = some (n + 1))
      (hsummary : summary.journal = some row.status) :
      Progress host call ⟨.returned summary, posts⟩ (rows ++ [row])

variable {call : Call}

theorem step_fresh {host : Host} {posts : List Payload} {r : Resume} :
    ∃ vars, opening host call = .ok vars ∧ vars.base.IsOf host call
      ∧ if call.hookUrl.isEmpty then
          step host call ⟨.fresh, posts⟩ r
            = (⟨.returned { vars.summary with journal := some .skipped }, posts⟩,
              [{ vars.base with ts := r.now, status := .skipped, reason := some "webhook_unset" }])
        else
          ∃ payload, step host call ⟨.fresh, posts⟩ r
            = (⟨.posting vars payload 1 r.now, posts ++ [payload]⟩, []) := by
  obtain ⟨vars, hvars, hof⟩ := opening_ok host call
  obtain ⟨payload, hpayload⟩ := buildPayload_ok host call vars.intent
  refine ⟨vars, hvars, hof, ?_⟩
  split_ifs with hurl
  · simp only [step, hvars, if_pos hurl]
  · exact ⟨payload, by simp only [step, hvars, if_neg hurl, hpayload]⟩

variable {d : Delivery}

theorem Progress.step (h : Progress host call d rows) (r : Resume) :
    Progress host call (step host call d r).1 (rows ++ (step host call d r).2) := by
  cases h with
  | fresh =>
    obtain ⟨vars, hvars, -, hturn⟩ := step_fresh
    split_ifs at hturn with hurl
    · rw [hturn]
      exact .skipped hurl rfl rfl rfl
    · obtain ⟨payload, hstep⟩ := hturn
      rw [hstep]
      exact .posting hvars (by omega) rfl rfl (Bool.eq_false_iff.mpr hurl)
  | @posting vars payload posts rows n ts hvars hn hposts hrows hurl =>
    rcases afterPost_cases vars.base (n + 1) ts r.reply with
      ⟨row, hafter, hlt, -, hstatus, hcount⟩ | ⟨row, webhook, hafter, -, hstatus, hskipped, hcount⟩
    · simp only [Enforcement.step, hafter]
      exact .waiting hvars hlt hposts (hrows.append hstatus hcount) hurl
    · simp only [Enforcement.step, hafter]
      exact .finished hurl hn hposts hrows hstatus hskipped hcount rfl
  | @waiting vars payload posts rows n hvars hn hposts hrows hurl =>
    have hnext : n + 1 + 1 ≤ retryAttempts := hn
    simp only [Enforcement.step, if_pos hnext, append_nil]
    exact .posting hvars hn (by simp [hposts]) hrows hurl
  | skipped hurl hstatus hcount hsummary =>
    exact .skipped hurl hstatus hcount hsummary
  | finished hurl hn hposts hrows hstatus hskipped hcount hsummary =>
    simp only [Enforcement.step, append_nil]
    exact .finished hurl hn hposts hrows hstatus hskipped hcount hsummary

theorem isOf_of_opening {vars : Opening} (h : opening host call = .ok vars) :
    vars.base.IsOf host call := by
  obtain ⟨vars', hvars', hof⟩ := opening_ok host call
  rw [Except.ok.inj (h.symm.trans hvars')]
  exact hof

theorem Progress.isOf (h : Progress host call d rows) (r : Resume) :
    ∀ row ∈ (Enforcement.step host call d r).2, row.toJournalBase.IsOf host call := by
  intro row hrow
  cases h with
  | fresh =>
    obtain ⟨vars, -, hof, hturn⟩ := step_fresh
    split_ifs at hturn with hurl
    · rw [hturn] at hrow
      rw [mem_singleton.mp hrow]
      exact hof
    · obtain ⟨payload, hstep⟩ := hturn
      rw [hstep] at hrow
      cases hrow
  | @posting vars payload posts rows n ts hvars =>
    rcases afterPost_cases vars.base (n + 1) ts r.reply with
      ⟨row', hafter, -, hbase, -⟩ | ⟨row', webhook, hafter, hbase, -⟩
    · simp only [Enforcement.step, hafter, mem_singleton] at hrow
      rw [hrow, hbase]
      exact isOf_of_opening hvars
    · simp only [Enforcement.step, hafter, mem_singleton] at hrow
      rw [hrow, hbase]
      exact isOf_of_opening hvars
  | @waiting vars payload posts rows n hvars hn =>
    have hnext : n + 1 + 1 ≤ retryAttempts := hn
    simp only [Enforcement.step, if_pos hnext, not_mem_nil] at hrow
  | skipped => cases hrow
  | finished => cases hrow

/-! ## Whole runs -/

def turnsLeft (d : Delivery) : Nat :=
  match d.phase with
  | .fresh => 6
  | .posting _ _ attempt _ => 2 * (3 - attempt) + 1
  | .waiting _ _ attempt => max 1 (2 * (3 - attempt))
  | .returned _ => 0
  | .raised _ => 0

theorem turnsLeft_step (call : Call) (d : Delivery) (r : Resume) :
    turnsLeft (step host call d r).1 ≤ turnsLeft d - 1 := by
  obtain ⟨phase, posts⟩ := d
  cases phase with
  | fresh =>
    obtain ⟨vars, -, -, hturn⟩ := step_fresh
    split_ifs at hturn with hurl
    · rw [hturn]
      exact zero_le _
    · obtain ⟨payload, hstep⟩ := hturn
      rw [hstep]
      exact le_refl 5
  | posting vars payload attempt ts =>
    rcases afterPost_cases vars.base attempt ts r.reply with
      ⟨row, hafter, hlt, -⟩ | ⟨row, webhook, hafter, -⟩
    · simp only [step, hafter, turnsLeft]
      have : attempt < 3 := hlt
      omega
    · simp only [step, hafter, turnsLeft]
      omega
  | waiting vars payload attempt =>
    simp only [step]
    split_ifs with hnext
    · have : attempt + 1 ≤ 3 := hnext
      simp only [turnsLeft]
      omega
    · exact zero_le _
  | returned summary => exact zero_le _
  | raised e => exact zero_le _

/-- A delivery is in order if it stands where it can with some rows. -/
def InOrder (host : Host) (call : Call) (d : Delivery) : Prop := ∃ rows, Progress host call d rows

theorem InOrder.step (h : InOrder host call d) (r : Resume) :
    InOrder host call (step host call d r).1 := by
  obtain ⟨rows, hprogress⟩ := h
  exact ⟨_, hprogress.step r⟩

theorem InOrder.isOf (h : InOrder host call d) (r : Resume) :
    ∀ row ∈ (Enforcement.step host call d r).2, row.toJournalBase.IsOf host call := by
  obtain ⟨rows, hprogress⟩ := h
  exact hprogress.isOf r

variable {ι : Type} (calls : ι → Call)

theorem keeps_inOrder (i : ι) (d : Delivery) (r : Resume) (h : InOrder host (calls i) d) :
    InOrder host (calls i) (step host (calls i) d r).1 := h.step r

variable [DecidableEq ι] (turns : List (ι × Resume))

theorem isOf_of_mem_log : ∀ row ∈ (run host calls turns).log,
    ∃ i, row.toJournalBase.IsOf host (calls i) := by
  apply forall_mem_log_run (keeps_inOrder calls)
    (Q := fun row => ∃ i, row.toJournalBase.IsOf host (calls i))
  · intro i d r h row hrow
    exact ⟨i, h.isOf r row hrow⟩
  · exact fun i => ⟨[], .fresh⟩
  · intro row hrow
    cases hrow

/-- **Every delivery of an interleaving is in order**, with its rows of the journal. -/
theorem progress_run (hids : Injective (fun i => deliveryId host (calls i))) (i : ι) :
    Progress host (calls i) ((run host calls turns).states i)
      ((run host calls turns).log.filter
        (fun row => row.actionId == deliveryId host (calls i))) := by
  have hlog : (run host calls turns).log.filter
      (fun row => row.actionId == deliveryId host (calls i))
      = (runOne (step host (calls i)) ⟨.fresh, []⟩ (inputs i turns)).2 := by
    apply filter_log_run (keeps_inOrder calls)
    · intro d r h row hrow
      rw [beq_iff_eq]
      exact (h.isOf r row hrow).actionId
    · intro j hne d r h row hrow
      rw [beq_eq_false_iff_ne, (h.isOf r row hrow).actionId]
      exact fun heq => hne (hids heq)
    · exact fun j => ⟨[], .fresh⟩
  rw [hlog, run, states_run]
  have hstep : ∀ (d : Delivery) (rows : List Row) (r : Resume), Progress host (calls i) d rows →
      Progress host (calls i) (step host (calls i) d r).1 (rows ++ (step host (calls i) d r).2) :=
    fun d rows r h => h.step r
  exact runOne_invariant hstep _ .fresh

/-! ## The logical view -/

theorem attemptsOf_retried (h : Retried n rows) : attemptsOf rows = max 1 n := by
  have hpairs : attemptsOf rows = (rows.map (fun row => (row.status, row.attemptCount))).foldl
      (fun attempts x => max attempts (x.2.getD 1)) 1 := by
    rw [attemptsOf, foldl_map]
  rw [hpairs, h]
  clear h hpairs
  induction n with
  | zero => rfl
  | succ n ih =>
    rw [range_succ, map_append, foldl_append]
    simp only [map_cons, map_nil, foldl_cons, foldl_nil, Option.getD_some]
    omega

theorem attemptsOf_append (rows : List Row) (row : Row) :
    attemptsOf (rows ++ [row]) = max (attemptsOf rows) (row.attemptCount.getD 1) := by
  rw [attemptsOf, foldl_append]
  rfl

section

variable (hlaw : host.Lawful)

include hlaw

theorem normal_deliveryId (call : Call) :
    normal host (deliveryId host call) = deliveryId host call := by
  rw [deliveryId, idempotentActionId, normal, strip_hexText, hlaw.lower_ascii, asciiLower_hexText]
  intro c hc
  have := (hexText_ascii hc).2
  omega

theorem deliveryId_ne_empty (call : Call) : (deliveryId host call).isEmpty = false := by
  have hlength : (deliveryId host call).toList.length = 2 * 32 := by
    rw [deliveryId, idempotentActionId, length_hexText, hlaw.digest]
  rw [Bool.eq_false_iff]
  intro hempty
  rw [String.isEmpty_iff.mp hempty] at hlength
  cases hlength

theorem isUnder_of_isOf {call' : Call} (h : row.toJournalBase.IsOf host call') :
    isUnder host (deliveryId host call) row = (row.actionId == deliveryId host call) := by
  rw [isUnder, h.actionId, h.idempotencyKey, normal_deliveryId hlaw, Bool.or_self]

theorem queryId_of_isOf (h : row.toJournalBase.IsOf host call) :
    queryId host row = deliveryId host call := by
  rw [queryId, h.actionId, deliveryId_ne_empty hlaw, if_neg Bool.false_ne_true,
    normal_deliveryId hlaw]

theorem logical_eq (i : ι) :
    logicalEnforcementDelivery host (run host calls turns).log (deliveryId host (calls i))
      = logicalOf (deliveryId host (calls i)) ((run host calls turns).log.filter
          (fun row => row.actionId == deliveryId host (calls i))) := by
  have hrows : (run host calls turns).log.filter (isUnder host (deliveryId host (calls i)))
      = (run host calls turns).log.filter
        (fun row => row.actionId == deliveryId host (calls i)) := by
    apply filter_congr
    intro row hrow
    obtain ⟨j, hof⟩ := isOf_of_mem_log calls turns row hrow
    exact isUnder_of_isOf hlaw hof
  rw [logicalEnforcementDelivery, normal_deliveryId hlaw, deliveryId_ne_empty hlaw,
    if_neg Bool.false_ne_true, hrows]

end

/-! ## Queries -/

def OneTenant (host : Host) (journal : List Row) : Prop :=
  ∀ row ∈ journal, ∀ row' ∈ journal, isUnder host (normal host (queryId host row)) row' = true →
    row'.tenantId = row.tenantId

theorem oneTenant_run (hlaw : host.Lawful) (hids : Injective (fun i => deliveryId host (calls i))) :
    OneTenant host (run host calls turns).log := by
  intro row hrow row' hrow' hunder
  obtain ⟨i, hof⟩ := isOf_of_mem_log calls turns row hrow
  obtain ⟨j, hof'⟩ := isOf_of_mem_log calls turns row' hrow'
  rw [queryId_of_isOf hlaw hof, normal_deliveryId hlaw, isUnder_of_isOf hlaw hof', beq_iff_eq,
    hof'.actionId] at hunder
  rw [hof.tenantId, hof'.tenantId, hids hunder]

section

variable {journal : List Row} (traceId tenantId : String) {aid : String}

theorem mem_noteAction {tid ten wanted : String} {seen : List String}
    (h : aid ∈ noteAction host tid ten wanted seen row) :
    aid ∈ seen ∨ row.tenantId = ten ∧ queryId host row = aid := by
  unfold noteAction at h
  simp only at h
  split_ifs at h with htrace htenant hskip
  · exact .inl h
  · exact .inl h
  · exact .inl h
  · rcases mem_append.mp h with h | h
    · exact .inl h
    · exact .inr ⟨not_not.mp htenant, (mem_singleton.mp h).symm⟩

variable {wanted : Option String}

theorem mem_actionIdsForQuery (h : aid ∈ actionIdsForQuery host journal traceId tenantId wanted) :
    ∃ row ∈ journal, row.tenantId = strip tenantId ∧ queryId host row = aid := by
  unfold actionIdsForQuery at h
  simp only at h
  split_ifs at h with hempty
  · cases h
  · induction journal using reverseRecOn with
    | nil => cases h
    | append_singleton journal row ih =>
      rw [foldl_append] at h
      rcases mem_noteAction h with h | ⟨htenant, hid⟩
      · obtain ⟨row', hrow', hspec⟩ := ih h
        exact ⟨row', mem_append_left _ hrow', hspec⟩
      · exact ⟨row, by simp, htenant, hid⟩

theorem actionIdsForQuery_filter (wanted : Option String) :
    actionIdsForQuery host (journal.filter (fun row => row.tenantId == strip tenantId))
      traceId tenantId
        wanted
      = actionIdsForQuery host journal traceId tenantId wanted := by
  unfold actionIdsForQuery
  simp only
  split_ifs with hempty
  · rfl
  · rw [foldl_filter]
    congr 1
    funext seen row
    by_cases htenant : row.tenantId = strip tenantId
    · rw [if_pos (beq_iff_eq.mpr htenant)]
    · rw [if_neg (by simpa using htenant), noteAction, if_pos htenant, ite_self]

theorem logical_filter (h : OneTenant host journal) (hrow : row ∈ journal) :
    logicalEnforcementDelivery host (journal.filter (fun row' => row'.tenantId == row.tenantId))
        (queryId host row)
      = logicalEnforcementDelivery host journal (queryId host row) := by
  have hrows : (journal.filter (fun row' => row'.tenantId == row.tenantId)).filter
        (isUnder host (normal host (queryId host row)))
      = journal.filter (isUnder host (normal host (queryId host row))) := by
    rw [filter_filter]
    apply filter_congr
    intro row' hrow'
    cases hunder : isUnder host (normal host (queryId host row)) row' with
    | false => rw [Bool.false_and]
    | true => rw [Bool.true_and, beq_iff_eq, h row hrow row' hrow' hunder]
  rw [logicalEnforcementDelivery, logicalEnforcementDelivery, hrows]

theorem queryEnforcementDeliveries_filter (h : OneTenant host journal)
    (wanted status : Option String) :
    queryEnforcementDeliveries host
      (journal.filter (fun row => row.tenantId == strip tenantId)) traceId
        tenantId wanted status
      = queryEnforcementDeliveries host journal traceId tenantId wanted status := by
  have hids : actionIdsForQuery host (journal.filter (fun row => row.tenantId == strip tenantId))
        (strip traceId) (strip tenantId) wanted
      = actionIdsForQuery host journal (strip traceId) (strip tenantId) wanted := by
    have hfilter := @actionIdsForQuery_filter host journal (strip traceId) (strip tenantId) wanted
    rwa [strip_strip] at hfilter
  unfold queryEnforcementDeliveries
  simp only
  split_ifs with hempty
  · rfl
  · rw [hids]
    apply filterMap_congr
    intro aid haid
    obtain ⟨row, hrow, htenant, rfl⟩ := mem_actionIdsForQuery _ _ haid
    rw [strip_strip] at htenant
    rw [← htenant, logical_filter h hrow]

theorem tenantId_of_mem_query {status : Option String} {row : QueryRow}
    (h : row ∈ queryEnforcementDeliveries host journal traceId tenantId wanted status) :
    row.tenantId = strip tenantId := by
  unfold queryEnforcementDeliveries at h
  simp only at h
  split_ifs at h with hempty
  · cases h
  · obtain ⟨aid, -, hshown⟩ := mem_filterMap.mp h
    obtain ⟨logical, -, hlogical⟩ := Option.bind_eq_some_iff.mp hshown
    unfold showLogical at hlogical
    simp only at hlogical
    split_ifs at hlogical with htenant
    cases hlogical
    exact not_not.mp htenant

end

/-! ## Deliveries and their journal -/

def rowsOf (host : Host) (call : Call) (journal : List Row) : List Row :=
  journal.filter (fun row => row.actionId == deliveryId host call)

/-- What a delivery has to leave in the journal when it is over: a row for every attempt before the
last, and one for the end, which is what the logical view reports. -/
def Concluded (host : Host) (call : Call) (d : Delivery) (summary : Summary) (journal : List Row) :
    Prop :=
  ∃ retries terminal view, rowsOf host call journal = retries ++ [terminal]
    ∧ Retried (d.posts.length - 1) retries ∧ terminal.status ≠ .retrying
    ∧ (terminal.status = .skipped ↔ call.hookUrl.isEmpty = true)
    ∧ summary.journal = some terminal.status
    ∧ logicalEnforcementDelivery host journal (deliveryId host call) = some view
    ∧ view.status = terminal.status
    ∧ view.attemptCount = if call.hookUrl.isEmpty then 1 else d.posts.length

theorem Progress.posts_le (h : Progress host call d rows) : d.posts.length ≤ 3 := by
  cases h with
  | fresh => exact zero_le _
  | posting hvars hn hposts => exact hposts.trans_le hn
  | waiting hvars hn hposts => exact hposts.trans_le (by omega)
  | skipped => exact zero_le _
  | finished hurl hn hposts => exact hposts.trans_le hn

theorem Progress.not_raised (h : Progress host call d rows) (e : String) : d.phase ≠ .raised e := by
  cases h <;> exact Phase.noConfusion

theorem Retried.status (h : Retried n rows) : ∀ row ∈ rows, row.status = .retrying := by
  intro row hrow
  have hmem : (row.status, row.attemptCount)
      ∈ (range n).map (fun k => (Status.retrying, some (k + 1))) :=
    h ▸ mem_map_of_mem hrow
  obtain ⟨k, -, hk⟩ := mem_map.mp hmem
  exact (congrArg Prod.fst hk).symm

theorem Progress.retrying (h : Progress host call d rows)
    (hgoing : ∀ summary, d.phase ≠ .returned summary) : ∀ row ∈ rows, row.status = .retrying := by
  cases h with
  | fresh => intro row hrow; cases hrow
  | posting hvars hn hposts hrows => exact hrows.status
  | waiting hvars hn hposts hrows => exact hrows.status
  | skipped => exact absurd rfl (hgoing _)
  | finished => exact absurd rfl (hgoing _)

theorem logicalOf_append (key : String) (rows : List Row) (row : Row) :
    ∃ view, logicalOf key (rows ++ [row]) = some view ∧ view.status = row.status
      ∧ view.attemptCount = max (attemptsOf rows) (row.attemptCount.getD 1) := by
  rw [logicalOf, getLast?_concat, attemptsOf_append]
  exact ⟨_, rfl, rfl, rfl⟩

theorem Progress.concluded {journal : List Row} {summary : Summary}
    (h : Progress host call d (rowsOf host call journal))
    (hview : logicalEnforcementDelivery host journal (deliveryId host call)
      = logicalOf (deliveryId host call) (rowsOf host call journal))
    (hover : d.phase = .returned summary) : Concluded host call d summary journal := by
  unfold Concluded
  rw [hview]
  generalize rowsOf host call journal = own at h
  cases h with
  | fresh => exact Phase.noConfusion hover
  | posting => exact Phase.noConfusion hover
  | waiting => exact Phase.noConfusion hover
  | @skipped summary' row hurl hstatus hcount hsummary =>
    obtain ⟨view, hlogical, hviewStatus, hviewCount⟩ :=
      logicalOf_append (deliveryId host call) [] row
    rw [hcount] at hviewCount
    refine ⟨[], row, view, rfl, rfl, ?_, ?_, ?_, hlogical, hviewStatus, ?_⟩
    · rw [hstatus]
      exact Status.noConfusion
    · exact iff_of_true hstatus hurl
    · rw [← Phase.returned.inj hover, hsummary, hstatus]
    · rw [if_pos hurl]
      exact hviewCount
  | @finished summary' posts rows row n hurl hn hposts hrows hstatus hskipped hcount hsummary =>
    obtain ⟨view, hlogical, hviewStatus, hviewCount⟩ :=
      logicalOf_append (deliveryId host call) rows row
    rw [attemptsOf_retried hrows, hcount, Option.getD_some] at hviewCount
    refine ⟨rows, row, view, rfl, ?_, hstatus, ?_, ?_, hlogical, hviewStatus, ?_⟩
    · rw [hposts]
      exact hrows
    · exact iff_of_false hskipped (Bool.eq_false_iff.mp hurl)
    · rw [← Phase.returned.inj hover, hsummary]
    · rw [if_neg (Bool.eq_false_iff.mp hurl), hposts]
      omega

theorem Progress.returned (h : Progress host call d rows) (hleft : turnsLeft d = 0) :
    ∃ summary, d.phase = .returned summary := by
  cases h with
  | fresh => cases hleft
  | posting => simp [turnsLeft] at hleft
  | waiting => simp [turnsLeft] at hleft
  | skipped => exact ⟨_, rfl⟩
  | finished => exact ⟨_, rfl⟩

/-- **Deliveries and their journal.** Deliveries with different action ids take turns in any way,
and the sink replies in any way. A delivery posts three times at most, raises nothing and is over
after six turns of its own. Its rows are one for every attempt that is tried again and one for the
end, and the logical view reports the end and the number of attempts. A query shows rows of its
tenant only, and the rows of other tenants do not matter to it. -/
theorem deliveries_journaled (hlaw : host.Lawful)
    (hids : Function.Injective (fun i => deliveryId host (calls i))) :
    (∀ i, ((run host calls turns).states i).posts.length ≤ 3
      ∧ (∀ e, ((run host calls turns).states i).phase ≠ .raised e)
      ∧ ((∀ summary, ((run host calls turns).states i).phase ≠ .returned summary) →
        ∀ row ∈ rowsOf host (calls i) (run host calls turns).log, row.status = .retrying)
      ∧ (∀ summary, ((run host calls turns).states i).phase = .returned summary →
        Concluded host (calls i) ((run host calls turns).states i) summary
          (run host calls turns).log)
      ∧ (6 ≤ (SharedLog.inputs i turns).length →
        ∃ summary, ((run host calls turns).states i).phase = .returned summary))
    ∧ ∀ traceId tenantId wanted status,
      (∀ row ∈
          queryEnforcementDeliveries host (run host calls turns).log traceId tenantId wanted status,
        row.tenantId = strip tenantId)
      ∧ queryEnforcementDeliveries host
          ((run host calls turns).log.filter (fun row => row.tenantId == strip tenantId)) traceId
          tenantId wanted status
        = queryEnforcementDeliveries host (run host calls turns).log traceId
          tenantId wanted status := by
  refine ⟨fun i => ?_, fun traceId tenantId wanted status => ⟨fun row hrow => ?_, ?_⟩⟩
  · have hprogress := progress_run calls turns hids i
    refine ⟨hprogress.posts_le, hprogress.not_raised, hprogress.retrying, ?_, ?_⟩
    · intro summary hover
      exact Progress.concluded hprogress (logical_eq calls turns hlaw i) hover
    · intro hturns
      apply hprogress.returned
      rw [run, SharedLog.states_run]
      exact SharedLog.runOne_measure turnsLeft (turnsLeft_step (calls i)) hturns
  · exact tenantId_of_mem_query _ _ hrow
  · exact queryEnforcementDeliveries_filter _ _ (oneTenant_run calls turns hlaw hids) wanted status

end

/-! ## Two deliveries -/

namespace Demo

/-- A host that knows the ASCII letters, with the end of a text for its digest. -/
def host : Host where
  lower := asciiLower
  sha256 := fun b => (b.reverse ++ List.replicate 32 0).take 32

theorem host_lawful : host.Lawful where
  lower_ascii := fun _ _ => rfl
  digest := by
    intro b
    simp [host]

def payment (tenantId : String) : Call where
  traceId := "x1"
  tenantId := tenantId
  entityId := "alice"
  eventType := "payment"
  decision := "deny"
  score := F64.ofNat 90
  tags := []
  recommendedAction := none
  challengeMetadata := none
  packHash := "p1"
  hookUrl := "hook"
  mode := .emitOnly

def calls : Bool → Call
  | true => payment "t1"
  | false => payment "t2"

theorem calls_injective : Injective (fun i => deliveryId host (calls i)) := by
  have hne : deliveryId host (calls true) ≠ deliveryId host (calls false) := by decide +kernel
  intro i j h
  cases i <;> cases j
  · rfl
  · exact absurd h.symm hne
  · exact absurd h hne
  · rfl

def turns : List (Bool × Resume) :=
  [(true, ⟨"1", .error ""⟩), (false, ⟨"2", .error ""⟩), (true, ⟨"3", .ok (some 503)⟩),
    (false, ⟨"4", .error "timeout"⟩), (true, ⟨"5", .error ""⟩), (true, ⟨"6", .ok (some 200)⟩),
    (false, ⟨"7", .error ""⟩), (false, ⟨"8", .ok (some 400)⟩)]

theorem turns_concluded :
    (∃ summary, Concluded host (calls true) ((run host calls turns).states true) summary
        (run host calls turns).log)
      ∧ ∃ summary, Concluded host (calls false) ((run host calls turns).states false) summary
        (run host calls turns).log := by
  obtain ⟨hdeliveries, -⟩ := deliveries_journaled calls turns host_lawful calls_injective
  exact ⟨⟨_, (hdeliveries true).2.2.2.1 _ rfl⟩, ⟨_, (hdeliveries false).2.2.2.1 _ rfl⟩⟩

example : (run host calls turns).log.map (fun row => (row.tenantId, row.status, row.attemptCount))
    = [("t1", .retrying, some 1), ("t2", .retrying, some 1), ("t1", .acked, some 2),
      ("t2", .non2xx, some 2)] := by
  decide +kernel

end Demo

end Tarka.Decision.Enforcement
