import Tarka.Case.Disposition
import Tarka.Lib.Loop

/-! # The two actors of a maker-checker status

What is pending for a case is known from its labels alone. As long as only `update_case` writes
these labels, they name a request that was made, and the status is entered by an approval of another
actor (`twoActors_of_cautious`). The other operations can write both the status and the labels:
`status_without_second_actor` has one run for each way around the rule. -/

namespace Tarka.Case

open Tarka.Lib List Option

/-- What is known of `str.lower`: it changes the ASCII letters of an ASCII text, and a text that was
stripped and lowered stays as it is. -/
structure Cases.Lawful (str : Cases) : Prop where
  lower_ascii : ∀ s : String, (∀ c ∈ s.toList, c.toNat < 128) → str.lower s = asciiLower s
  lower_strip : ∀ s : String, str.lower (strip (str.lower (strip s))) = str.lower (strip s)

/-! ## The rule -/

/-- The case gets a status for which two actors are needed. -/
def Enters (makerStatuses : List String) (s s' : CaseState) : Prop :=
  s'.status ∈ makerStatuses ∧ s'.status ≠ s.status

section

variable (str : Cases) (makerStatuses : List String)

def Requested (ops : List Operation) (actor target : String) : Prop :=
  ∃ status reasonCode, Operation.patch actor (some status) reasonCode false ∈ ops
    ∧ escalateStatusForReason str status (reasonCode.map strip) = .ok target

/-- Every operation that enters such a status approves it, after a request of another actor. -/
def TwoActors (s : CaseState) (ops : List Operation) : Prop :=
  ∀ before op after, ops = before ++ op :: after →
    Enters makerStatuses (afterOperations str makerStatuses s before)
      (afterOperations str makerStatuses s (before ++ [op])) →
    ∃ maker checker status reasonCode, op = .patch checker status reasonCode true
      ∧ actorId maker ≠ actorId checker
      ∧ Requested str before maker (afterOperations str makerStatuses s (before ++ [op])).status

/-- The operation goes around neither the status nor the labels: it writes no status for which two
actors are needed, and none of the labels that keep what is pending. -/
def Cautious : Operation → Prop
  | .patch _ _ _ _ => True
  | .bulkUpdate status labels =>
    (∀ x ∈ status, x ∉ makerStatuses) ∧ ∀ x ∈ labels, isMcLabel x = false
  | .addLabels labels => ∀ x ∈ labels, isMcLabel x = false
  | .hold _ => True
  | .release _ => True
  | .resolve reasonCode =>
    ∀ reason, normalizeReasonCode str reasonCode = .ok reason →
      ∀ x, escalateStatusForReason str "resolved" (some reason) = .ok x → x ∉ makerStatuses
  | .applyTemplate status labels _ =>
    (∀ x ∈ status, x ∉ makerStatuses) ∧ ∀ x ∈ labels, isMcLabel x = false

end

/-! ## Labels -/

variable {labels : List String} {x : String}

@[simp] theorem mem_sortedSet : x ∈ sortedSet labels ↔ x ∈ labels := by
  rw [sortedSet, sortByCodePoints, mem_insertionSort, mem_dedup]

theorem pending_requester_label (s : String) :
    hasStart mcPendingPrefix (mcRequesterPrefix ++ s) = false :=
  hasStart_append_eq_false (by decide) (by decide) s

theorem requester_pending_label (s : String) :
    hasStart mcRequesterPrefix (mcPendingPrefix ++ s) = false := by
  rw [hasStart, String.toList_append]
  rfl

theorem isMcLabel_reason (code : String) : isMcLabel (reasonLabelPrefix ++ code) = false := by
  rw [isMcLabel, Bool.or_eq_false_iff]
  constructor
  · exact hasStart_append_eq_false (by decide) (by decide) code
  · rw [hasStart, String.toList_append]
    rfl

theorem isMcLabel_escalationTeam (team : String) :
    isMcLabel ("escalation_team:" ++ team) = false := by
  rw [isMcLabel, Bool.or_eq_false_iff]
  exact ⟨hasStart_append_eq_false (by decide) (by decide) team,
    hasStart_append_eq_false (by decide) (by decide) team⟩

/-- None of the labels keeps anything that is pending. -/
def Clean (labels : List String) : Prop := ∀ x ∈ labels, isMcLabel x = false

theorem stripMcLabels_clean (labels : List String) : Clean (stripMcLabels labels) := by
  intro x hx
  simpa using (mem_filter.mp hx).2

variable {reasonCode : Option String} {clean : List String}

theorem withReason_clean {str : Cases} (hlabels : Clean labels)
    (h : withReason str labels reasonCode = .ok clean) : Clean clean := by
  rw [withReason] at h
  cases hreason : givenReason reasonCode with
  | none =>
    rw [hreason] at h
    cases h
    exact hlabels
  | some raw =>
    rw [hreason] at h
    obtain ⟨code, -, hok⟩ := except_bind_eq_ok.mp h
    cases hok
    intro x hx
    rcases mem_append.mp hx with hx | hx
    · exact hlabels x (mem_filter.mp hx).1
    · rw [mem_singleton.mp hx]
      exact isMcLabel_reason code

/-! ## Actors and statuses are read back from their labels -/

theorem actorId_ne_empty (actor : String) : (actorId actor).isEmpty = false := by
  rw [actorId]
  split_ifs with h
  · rfl
  · exact Bool.eq_false_iff.mpr h

theorem strip_actorId (actor : String) : strip (actorId actor) = actorId actor := by
  rw [actorId]
  split_ifs
  · exact strip_eq_self (by decide)
  · rw [strip_strip]

variable {target : String}

theorem lower_strip_escalated {str : Cases} (hlaw : str.Lawful) {status : String}
    (h : escalateStatusForReason str status reasonCode = .ok target) :
    str.lower (strip target) = target := by
  have hst := hlaw.lower_strip status
  have hfixed : ∀ x ∈ ["sar_filed", "resolved_fraud", "resolved_legit"],
      str.lower (strip x) = x := by
    intro x hx
    fin_cases hx <;>
    · rw [strip_eq_self (by decide), hlaw.lower_ascii _ (by decide)]
      decide
  rw [escalateStatusForReason] at h
  cases hreason : givenReason reasonCode with
  | none =>
    rw [hreason] at h
    cases h
    exact hst
  | some raw =>
    rw [hreason] at h
    obtain ⟨reason, -, hok⟩ := except_bind_eq_ok.mp h
    split at hok <;> cases hok
    split_ifs
    · exact hfixed _ (by simp)
    · exact hfixed _ (by simp)
    · exact hfixed _ (by simp)
    · exact hst
    · exact hst

/-! ## What is pending was requested -/

section

variable {str : Cases} {makerStatuses : List String}

/-- The labels keep a request: nothing else is pending, and its actor is named. -/
structure Keeps (labels : List String) (actor target : String) : Prop where
  pending : ∀ x ∈ labels, hasStart mcPendingPrefix x = true → x = mcPendingPrefix ++ target
  requester : ∀ x ∈ labels, hasStart mcRequesterPrefix x = true →
    x = mcRequesterPrefix ++ actorId actor
  named : mcRequesterPrefix ++ actorId actor ∈ labels

/-- No label keeps anything, or the labels keep one of the requests. -/
def Tracked (str : Cases) (ops : List Operation) (labels : List String) : Prop :=
  (∀ x ∈ labels, isMcLabel x = false)
    ∨ ∃ actor target, Requested str ops actor target ∧ Keeps labels actor target

variable {ops : List Operation} {actor : String}

theorem Requested.append (h : Requested str ops actor target) (op : Operation) :
    Requested str (ops ++ [op]) actor target := by
  obtain ⟨status, reasonCode, hmem, hok⟩ := h
  exact ⟨status, reasonCode, mem_append_left _ hmem, hok⟩

variable {op : Operation}

theorem Tracked.mono {labels' : List String} (h : Tracked str ops labels)
    (hold : ∀ x ∈ labels, x ∈ labels') (hnew : ∀ x ∈ labels', x ∈ labels ∨ isMcLabel x = false) :
    Tracked str (ops ++ [op]) labels' := by
  have hback : ∀ x ∈ labels', isMcLabel x → x ∈ labels := by
    intro x hx hmc
    rcases hnew x hx with h | h
    · exact h
    · rw [h] at hmc
      cases hmc
  rcases h with hclean | ⟨actor, target, hrequest, hkeeps⟩
  · left
    intro x hx
    rcases hnew x hx with h | h
    · exact hclean x h
    · exact h
  · right
    refine ⟨actor, target, hrequest.append op, ?_, ?_, hold _ hkeeps.named⟩
    · intro x hx hprefix
      exact hkeeps.pending x (hback x hx (by rw [isMcLabel, hprefix, Bool.true_or])) hprefix
    · intro x hx hprefix
      exact hkeeps.requester x (hback x hx (by rw [isMcLabel, hprefix, Bool.or_true])) hprefix

theorem Tracked.same (h : Tracked str ops labels) (op : Operation) :
    Tracked str (ops ++ [op]) labels :=
  h.mono (fun _ hx => hx) (fun _ hx => .inl hx)

theorem keeps_request (hclean : Clean clean) (actor target : String) :
    Keeps (sortedSet (clean ++ [mcPendingPrefix ++ target, mcRequesterPrefix ++ actorId actor]))
      actor target := by
  have hno : ∀ x ∈ clean, hasStart mcPendingPrefix x = false
      ∧ hasStart mcRequesterPrefix x = false :=
    fun x hx => Bool.or_eq_false_iff.mp (hclean x hx)
  refine ⟨?_, ?_, ?_⟩
  · intro x hx hprefix
    simp only [mem_sortedSet, mem_append, mem_cons, not_mem_nil, or_false] at hx
    rcases hx with hx | rfl | rfl
    · rw [(hno x hx).1] at hprefix
      cases hprefix
    · rfl
    · rw [pending_requester_label] at hprefix
      cases hprefix
  · intro x hx hprefix
    simp only [mem_sortedSet, mem_append, mem_cons, not_mem_nil, or_false] at hx
    rcases hx with hx | rfl | rfl
    · rw [(hno x hx).2] at hprefix
      cases hprefix
    · rw [requester_pending_label] at hprefix
      cases hprefix
    · rfl
  · simp

variable {s : String}

theorem nonEmpty_of_ne (h : s.isEmpty = false) : nonEmpty s = some s := by
  rw [nonEmpty, h]
  rfl

theorem eq_of_nonEmpty (h : nonEmpty s = some x) : x = s := by
  rw [nonEmpty] at h
  split_ifs at h
  exact (Option.some.inj h).symm

theorem Keeps.pendingRequester_eq (h : Keeps labels actor target) :
    pendingRequester labels = some (actorId actor) := by
  have hfind : labels.find? (hasStart mcRequesterPrefix)
      = some (mcRequesterPrefix ++ actorId actor) := by
    cases hfound : labels.find? (hasStart mcRequesterPrefix) with
    | none =>
      have hnone := find?_eq_none.mp hfound _ h.named
      exact absurd (hasStart_append _ _) hnone
    | some x => rw [h.requester x (mem_of_find?_eq_some hfound) (find?_some hfound)]
  rw [pendingRequester, hfind, bind_some, afterStart_append, strip_actorId]
  exact nonEmpty_of_ne (actorId_ne_empty actor)

theorem Tracked.of_pending (hlaw : str.Lawful) (h : Tracked str ops labels)
    (hpending : pendingTargetStatus str labels = some target) :
    ∃ actor, Requested str ops actor target ∧ pendingRequester labels = some (actorId actor) := by
  obtain ⟨x, hfound, hx⟩ := bind_eq_some_iff.mp hpending
  have hprefix : hasStart mcPendingPrefix x := find?_some hfound
  have hmem : x ∈ labels := mem_of_find?_eq_some hfound
  rcases h with hclean | ⟨actor, requested, hrequest, hkeeps⟩
  · have hmc := hclean x hmem
    rw [isMcLabel, hprefix] at hmc
    cases hmc
  · have htarget : target = requested := by
      obtain ⟨status, reasonCode, -, hok⟩ := hrequest
      rw [eq_of_nonEmpty hx, hkeeps.pending x hmem hprefix, afterStart_append]
      exact lower_strip_escalated hlaw hok
    rw [htarget]
    exact ⟨actor, hrequest, hkeeps.pendingRequester_eq⟩

/-! ## One operation -/

variable {s : CaseState} {status : Option String}

/-- What `update_case` can do: it changes nothing that counts, it approves what is pending, it keeps
a request, or it sets a status for which one actor is enough. -/
theorem updateCase_cases {s' : CaseState} {approve : Bool}
    (h : updateCase str makerStatuses s actor status reasonCode approve = .ok s') : s' = s
    ∨ (approve ∧ pendingTargetStatus str s.labels = some s'.status
        ∧ pendingRequester s.labels ≠ some (actorId actor) ∧ Clean s'.labels)
    ∨ (approve = false ∧ s'.status = s.status ∧ ∃ requested target, status = some requested
        ∧ escalateStatusForReason str requested (reasonCode.map strip) = .ok target
        ∧ Keeps s'.labels actor target)
    ∨ (s'.status ∉ makerStatuses ∧ Clean s'.labels) := by
  rw [updateCase] at h
  split_ifs at h with hgiven
  swap
  · cases h
    exact .inl rfl
  obtain ⟨mc, hmc, hok⟩ := except_bind_eq_ok.mp h
  cases hok
  have hclean : ∀ {clean},
      withReason str (stripMcLabels s.labels) (reasonCode.map strip) = .ok clean →
      Clean clean := withReason_clean (stripMcLabels_clean s.labels)
  unfold applyStatusWithMakerChecker at hmc
  cases approve with
  | true =>
    right; left
    rw [if_pos rfl] at hmc
    split at hmc
    · cases hmc
    next target hpending =>
    split_ifs at hmc with hsame
    obtain ⟨clean, hreason, hok⟩ := except_bind_eq_ok.mp hmc
    cases hok
    refine ⟨rfl, hpending, hsame, ?_⟩
    intro x hx
    exact hclean hreason x (mem_sortedSet.mp hx)
  | false =>
    cases status with
    | none =>
      cases hmc
      exact .inl rfl
    | some requested =>
      obtain ⟨target, htarget, hmc⟩ := except_bind_eq_ok.mp hmc
      obtain ⟨clean, hreason, hmc⟩ := except_bind_eq_ok.mp hmc
      split_ifs at hmc with hmaker
      · cases hmc
        right; right; left
        exact ⟨rfl, rfl, requested, target, rfl, htarget,
          keeps_request (hclean hreason) actor target⟩
      · cases hmc
        right; right; right
        refine ⟨hmaker, ?_⟩
        intro x hx
        exact hclean hreason x (mem_sortedSet.mp hx)

theorem Tracked.payload (h : Tracked str ops s.labels) (hlabels : Clean labels) (op : Operation) :
    Tracked str (ops ++ [op]) (applyCasePayload s status labels).labels := by
  refine h.mono ?_ ?_
  · intro x hx
    exact mem_sortedSet.mpr (mem_append_left _ hx)
  · intro x hx
    rcases mem_append.mp (mem_sortedSet.mp hx) with hx | hx
    · exact .inl hx
    · exact .inr (hlabels x (mem_filter.mp hx).1)

theorem not_enters_payload (hstatus : ∀ x ∈ status, x ∉ makerStatuses) :
    ¬ Enters makerStatuses s (applyCasePayload s status labels) := by
  rintro ⟨hmaker, hne⟩
  simp only [applyCasePayload] at hmaker hne
  cases hgiven : status.bind nonEmpty with
  | none =>
    rw [hgiven] at hne
    exact hne rfl
  | some x =>
    obtain ⟨y, hy, hx⟩ := bind_eq_some_iff.mp hgiven
    rw [hgiven, eq_of_nonEmpty hx] at hmaker
    exact hstatus y hy hmaker

theorem templateLabels_clean (hlabels : Clean labels) (escalationTeam : Option String) :
    Clean (templateLabels labels escalationTeam) := by
  intro x hx
  rcases mem_append.mp hx with hx | hx
  · exact hlabels x hx
  · obtain ⟨team, -, rfl⟩ := map_eq_some_iff.mp (mem_toList.mp hx)
    exact isMcLabel_escalationTeam team

/-- **One operation.** What is tracked stays so, and a status for which two actors are needed is
entered by an approval of an earlier request of another actor. -/
theorem step_tracked (hlaw : str.Lawful) (h : Tracked str ops s.labels)
    (hop : Cautious str makerStatuses op) :
    Tracked str (ops ++ [op]) (afterOperation str makerStatuses s op).labels
    ∧ (Enters makerStatuses s (afterOperation str makerStatuses s op) →
        ∃ maker checker status reasonCode, op = .patch checker status reasonCode true
          ∧ actorId maker ≠ actorId checker
          ∧ Requested str ops maker (afterOperation str makerStatuses s op).status) := by
  rw [afterOperation]
  cases happly : apply str makerStatuses s op with
  | error e => exact ⟨h.same op, fun henters => absurd rfl henters.2⟩
  | ok s' =>
    show Tracked str (ops ++ [op]) s'.labels ∧ (Enters makerStatuses s s' → _)
    cases op with
    | patch actor status reasonCode approve =>
      rcases updateCase_cases happly with rfl | ⟨rfl, hpending, hother, hclean⟩
        | ⟨rfl, hsame, requested, target, rfl, htarget, hkeeps⟩ | ⟨hmaker, hclean⟩
      · exact ⟨h.same _, fun henters => absurd rfl henters.2⟩
      · refine ⟨.inl hclean, fun _ => ?_⟩
        obtain ⟨maker, hrequest, hnamed⟩ := h.of_pending hlaw hpending
        refine ⟨maker, actor, status, reasonCode, rfl, ?_, hrequest⟩
        intro heq
        exact hother (heq ▸ hnamed)
      · refine ⟨.inr ⟨actor, target, ⟨requested, reasonCode, by simp, htarget⟩, hkeeps⟩, ?_⟩
        intro henters
        exact absurd hsame henters.2
      · exact ⟨.inl hclean, fun henters => absurd henters.1 hmaker⟩
    | bulkUpdate status labels =>
      cases happly
      exact ⟨h.payload hop.2 _, fun henters => absurd henters (not_enters_payload hop.1)⟩
    | addLabels labels =>
      cases happly
      refine ⟨h.mono ?_ ?_, fun henters => absurd rfl henters.2⟩
      · intro x hx
        exact mem_sortedSet.mpr (mem_append_left _ hx)
      · intro x hx
        exact (mem_append.mp (mem_sortedSet.mp hx)).imp_right (hop x)
    | hold claimedByOther =>
      rw [apply] at happly
      split_ifs at happly with hopen hclaimed hheld
      · cases happly
        exact ⟨h.same _, fun henters => absurd rfl henters.2⟩
      · cases happly
        refine ⟨h.mono ?_ ?_, fun henters => absurd rfl henters.2⟩
        · intro x hx
          exact mem_append_left _ hx
        · intro x hx
          refine (mem_append.mp hx).imp_right ?_
          intro hx
          rw [mem_singleton.mp hx]
          decide
    | release claimedByOther =>
      rw [apply] at happly
      split_ifs at happly with hopen hclaimed
      cases happly
      exact ⟨h.same _, fun henters => absurd rfl henters.2⟩
    | resolve reasonCode =>
      rw [apply] at happly
      split_ifs at happly with hopen
      obtain ⟨reason, hreason, happly⟩ := except_bind_eq_ok.mp happly
      split_ifs at happly with hempty
      obtain ⟨status, hstatus, hok⟩ := except_bind_eq_ok.mp happly
      cases hok
      exact ⟨h.same _, fun henters => absurd henters.1 (hop reason hreason status hstatus)⟩
    | applyTemplate status labels escalationTeam =>
      cases happly
      exact ⟨h.payload (templateLabels_clean hop.2 escalationTeam) _,
        fun henters => absurd henters (not_enters_payload hop.1)⟩

/-! ## Runs -/

theorem afterOperations_concat (s : CaseState) (ops : List Operation) (op : Operation) :
    afterOperations str makerStatuses s (ops ++ [op])
      = afterOperation str makerStatuses (afterOperations str makerStatuses s ops) op := by
  rw [afterOperations, foldl_append]
  rfl

/-- **A whole run.** -/
theorem tracked_run (hlaw : str.Lawful) (hstart : Clean s.labels)
    (ops : List Operation) (hops : ∀ op ∈ ops, Cautious str makerStatuses op) :
    Tracked str ops (afterOperations str makerStatuses s ops).labels := by
  -- by induction on the operations from the last one on: the requests of a run are those before it
  induction ops using reverseRecOn with
  | nil => exact .inl hstart
  | append_singleton ops op ih =>
    rw [afterOperations_concat]
    have htracked := ih (fun op hmem => hops op (mem_append_left _ hmem))
    exact (step_tracked hlaw htracked (hops op (by simp))).1

/-- **The rule of two actors.** In every run of cautious operations, from a case with no label of
what is pending, a status for which two actors are needed is entered only by the approval of one
actor, after a request of another. -/
theorem twoActors_of_cautious (hlaw : str.Lawful) {s : CaseState}
    (hstart : ∀ x ∈ s.labels, isMcLabel x = false) (ops : List Operation)
    (hops : ∀ op ∈ ops, Cautious str makerStatuses op) : TwoActors str makerStatuses s ops := by
  rintro before op after rfl henters
  have hbefore : ∀ op ∈ before, Cautious str makerStatuses op :=
    fun op hmem => hops op (mem_append_left _ hmem)
  have htracked := tracked_run hlaw hstart before hbefore
  rw [afterOperations_concat] at henters ⊢
  exact (step_tracked hlaw htracked (hops op (by simp))).2 henters

end

/-! ## ASCII letters -/

namespace Demo

def str : Cases := ⟨asciiLower, fun s => String.ofList (s.toList.map Char.toUpper)⟩

theorem str_lawful : str.Lawful := ⟨fun _ _ => rfl, asciiLower_strip_idem⟩

def makerStatuses : List String := parseMakerCheckerStatuses str ""

def fresh : CaseState := ⟨"open", ["origin:evaluate"]⟩

def approved : List Operation :=
  [.patch "ann" (some "Resolved") (some "CONFIRMED_FRAUD") false, .addLabels ["vip"],
    .patch "bob" none none true]

end Demo

open Demo

/-- The case of `approved` gets its status, with two actors. -/
theorem ann_and_bob :
    (afterOperations str makerStatuses fresh approved).status = "resolved_fraud"
    ∧ TwoActors str makerStatuses fresh approved := by
  refine ⟨by decide +kernel, twoActors_of_cautious str_lawful (by decide) _ ?_⟩
  intro op hop
  fin_cases hop
  · trivial
  · show ∀ x ∈ ["vip"], isMcLabel x = false
    decide
  · trivial

/-- One actor is enough for a bulk update, for a template, for a resolution of the entity, and for
an approval of labels that were added by hand. -/
theorem status_without_second_actor :
    ¬ TwoActors str makerStatuses fresh [.bulkUpdate (some "resolved_fraud") []]
    ∧ ¬ TwoActors str makerStatuses fresh [.applyTemplate (some "sar_filed") [] none]
    ∧ ¬ TwoActors str makerStatuses fresh [.resolve "CONFIRMED_FRAUD"]
    ∧ ¬ TwoActors str makerStatuses fresh
        [.addLabels ["mc_pending:resolved_fraud"], .patch "eve" none none true] := by
  have henters : ∀ ops op, (afterOperations str makerStatuses fresh (ops ++ [op])).status
        ∈ makerStatuses →
      (afterOperations str makerStatuses fresh (ops ++ [op])).status
        ≠ (afterOperations str makerStatuses fresh ops).status →
      TwoActors str makerStatuses fresh (ops ++ [op]) →
      ∃ maker checker status reasonCode, op = .patch checker status reasonCode true
        ∧ ∃ x y z, Operation.patch maker x y z ∈ ops := by
    intro ops op hmaker hne h
    obtain ⟨maker, checker, status, reasonCode, hop, -, x, y, hmem, -⟩ :=
      h ops op [] rfl ⟨hmaker, hne⟩
    exact ⟨maker, checker, status, reasonCode, hop, _, _, _, hmem⟩
  refine ⟨fun h => ?_, fun h => ?_, fun h => ?_, fun h => ?_⟩
  · obtain ⟨_, _, _, _, hop, -⟩ := henters [] _ (by decide +kernel) (by decide +kernel) h
    cases hop
  · obtain ⟨_, _, _, _, hop, -⟩ := henters [] _ (by decide +kernel) (by decide +kernel) h
    cases hop
  · obtain ⟨_, _, _, _, hop, -⟩ := henters [] _ (by decide +kernel) (by decide +kernel) h
    cases hop
  · obtain ⟨_, _, _, _, -, _, _, _, hmem⟩ :=
      henters [.addLabels ["mc_pending:resolved_fraud"]] _ (by decide +kernel) (by decide +kernel) h
    simp at hmem

end Tarka.Case
