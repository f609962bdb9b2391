/-
Module: Wts.Proofs.TimeReviewProposal
Purpose: A proposal is accepted exactly when it covers the ledger. The two loops of the check are one
  loop that keeps the keys it has seen; a loop that ends has seen the keys of its list, each once.
Trusted boundary: none
Main exports: validateProposal_iff_covers
-/
import Wts.Integrations.TimeReviewProposal
import Wts.Library.Interrupt
import Wts.Proofs.TimeReviewBrief

namespace Wts.TimeReviewBrief

open List Text Interrupt

/-- A loop whose check refuses a key that was seen accepts the lists of distinct new keys whose
elements are good. -/
theorem checkEach_eq_ok_iff {α : Type} {key : α → String} {Good : α → Prop}
    {check : Finset String → α → Except TimeReviewContractError Unit}
    (checked : ∀ seen item, check seen item = .ok () ↔ key item ∉ seen ∧ Good item)
    (items : List α) (seen result : Finset String) : checkEach key check seen items = .ok result ↔
      (∀ item ∈ items, key item ∉ seen ∧ Good item) ∧ (items.map key).Nodup ∧
        result = seen ∪ (items.map key).toFinset := by
  induction items generalizing seen with
  | nil => simp [checkEach, eq_comm]
  | cons item rest ih =>
    rw [checkEach, bind_eq_ok, forall_mem_cons, map_cons, nodup_cons, toFinset_cons]
    simp only [exists_const, checked, ih, Finset.mem_insert, not_or, mem_map, not_exists, not_and]
    constructor
    · rintro ⟨good, others, distinct, rfl⟩
      refine ⟨⟨good, fun other member => ⟨(others other member).1.2, (others other member).2⟩⟩,
        ⟨fun other member => (others other member).1.1, distinct⟩, ?_⟩
      rw [Finset.insert_union, Finset.union_insert]
    rintro ⟨⟨good, others⟩, ⟨differs, distinct⟩, rfl⟩
    refine ⟨good, fun other member => ⟨⟨differs other member, (others other member).1⟩,
      (others other member).2⟩, distinct, ?_⟩
    rw [Finset.insert_union, Finset.union_insert]

theorem checkNewIssue_eq_ok_iff (rowIds seen : Finset String)
    (issue : TimeReviewNewJiraIssueProposal) : checkNewIssue rowIds seen issue = .ok () ↔
      issue.proposalId ∉ seen ∧ validNewIssue rowIds issue = true := by
  rw [checkNewIssue]
  split
  · simp_all
  split <;> simp_all

/-- The target exists, or the reason that there is none is a text. -/
def TargetExists (candidateKeys newIssueIds : Finset String) :
    TimeReviewAssignmentTarget → Prop
  | .existingJira issueKey => issueKey ∈ candidateKeys
  | .newJira proposalId => proposalId ∈ newIssueIds
  | .unassigned reason => validText reason maxTextBytes = true

theorem checkAssignment_eq_ok_iff (rowIds candidateKeys newIssueIds seen : Finset String)
    (assignment : TimeReviewAssignmentProposal) :
    checkAssignment rowIds candidateKeys newIssueIds seen assignment = .ok () ↔
      assignment.ledgerRowId ∉ seen ∧ assignment.ledgerRowId ∈ rowIds ∧
        assignment.confidence ≤ 100 ∧ validText assignment.rationale maxTextBytes = true ∧
        TargetExists candidateKeys newIssueIds assignment.target := by
  have target : checkTarget candidateKeys newIssueIds assignment.target = .ok () ↔
      TargetExists candidateKeys newIssueIds assignment.target := by
    cases assignment.target <;> simp only [checkTarget, TargetExists] <;> split <;> simp_all
  rw [checkAssignment]
  split
  · simp_all
  split
  · simp_all
  split
  · rename_i outside
    refine iff_of_false (fun same => by cases same) ?_
    rintro ⟨_, _, confident, rationale, _⟩
    rcases outside with large | noText
    · omega
    exact noText rationale
  rename_i inside
  rw [target]
  simp_all

/-! ### The cover of a ledger -/

/-- The schema, the review, the time and the summary of a proposal are valid. -/
structure Headed (brief : TimeReviewAgentBrief) (proposal : TimeReviewProposalDocument) : Prop where
  schema : proposal.schemaVersion = timeReviewSchemaVersion
  review : proposal.reviewId = brief.reviewId
  generated : 0 < proposal.generatedAtUnixMs
  summary : validText proposal.summary maxTextBytes = true

/-- A proposal covers the ledger of a brief. -/
structure Covers (brief : TimeReviewAgentBrief) (proposal : TimeReviewProposalDocument) : Prop where
  /-- Every row is named once, and no other. -/
  distinct : (proposal.assignments.map TimeReviewAssignmentProposal.ledgerRowId).Nodup
  named : ∀ id, id ∈ proposal.assignments.map TimeReviewAssignmentProposal.ledgerRowId ↔
    id ∈ brief.ledger.map TimeReviewLedgerRow.id
  existing : ∀ assignment ∈ proposal.assignments, ∀ key, assignment.target = .existingJira key →
    key ∈ brief.jiraCandidates.map TimeReviewJiraCandidate.issueKey
  proposed : ∀ assignment ∈ proposal.assignments, ∀ id, assignment.target = .newJira id →
    id ∈ proposal.newJiraIssues.map TimeReviewNewJiraIssueProposal.proposalId
  reasons : ∀ assignment ∈ proposal.assignments, ∀ reason,
    assignment.target = .unassigned reason → validText reason maxTextBytes = true
  bounds : ∀ assignment ∈ proposal.assignments,
    assignment.confidence ≤ 100 ∧ validText assignment.rationale maxTextBytes = true
  issuesDistinct : (proposal.newJiraIssues.map TimeReviewNewJiraIssueProposal.proposalId).Nodup
  issueFields : ∀ issue ∈ proposal.newJiraIssues, validIdentifier issue.proposalId = true ∧
    validProjectKey issue.projectKey.toList = true ∧
    validText issue.summary maxSummaryBytes = true ∧ validText issue.description maxTextBytes = true
  evidence : ∀ issue ∈ proposal.newJiraIssues, issue.evidenceLedgerRowIds ≠ [] ∧
    ∀ id ∈ issue.evidenceLedgerRowIds, id ∈ brief.ledger.map TimeReviewLedgerRow.id

/-- The same proposal with the lists in another order. -/
structure Reordered (proposal other : TimeReviewProposalDocument) : Prop where
  schema : other.schemaVersion = proposal.schemaVersion
  review : other.reviewId = proposal.reviewId
  generated : other.generatedAtUnixMs = proposal.generatedAtUnixMs
  summary : other.summary = proposal.summary
  assignments : proposal.assignments.Perm other.assignments
  issues : proposal.newJiraIssues.Perm other.newJiraIssues

/-- The duration of the row that an assignment names. -/
def assignedSeconds (brief : TimeReviewAgentBrief) (assignment : TimeReviewAssignmentProposal) : ℕ :=
  ((brief.ledger.find? fun row => row.id = assignment.ledgerRowId).map
    TimeReviewLedgerRow.durationSeconds).getD 0

section Brief

variable {brief : TimeReviewAgentBrief} {proposal other : TimeReviewProposalDocument}

theorem targets_iff (assignment : TimeReviewAssignmentProposal)
    (candidateKeys newIssueIds : List String) :
    TargetExists candidateKeys.toFinset newIssueIds.toFinset assignment.target ↔
      (∀ key, assignment.target = .existingJira key → key ∈ candidateKeys) ∧
        (∀ id, assignment.target = .newJira id → id ∈ newIssueIds) ∧
        ∀ reason, assignment.target = .unassigned reason →
          validText reason maxTextBytes = true := by
  cases assignment.target <;> simp [TargetExists]

theorem validNewIssue_iff (issue : TimeReviewNewJiraIssueProposal) (rowIds : List String) :
    validNewIssue rowIds.toFinset issue = true ↔ (validIdentifier issue.proposalId = true ∧
        validProjectKey issue.projectKey.toList = true ∧
        validText issue.summary maxSummaryBytes = true ∧
        validText issue.description maxTextBytes = true) ∧
        issue.evidenceLedgerRowIds ≠ [] ∧ ∀ id ∈ issue.evidenceLedgerRowIds, id ∈ rowIds := by
  simp [validNewIssue, and_assoc]

theorem validateProposal_eq_ok_iff (valid : brief.validate = .ok ()) (headed : Headed brief proposal) :
    brief.validateProposal proposal = .ok () ↔ Covers brief proposal := by
  have distinctRows := ((validate_eq_ok_iff brief).1 valid).rowsDistinct
  have issues := checkEach_eq_ok_iff
    (checkNewIssue_eq_ok_iff (brief.ledger.map TimeReviewLedgerRow.id).toFinset)
    proposal.newJiraIssues ∅
  have assignments := fun newIssueIds => checkEach_eq_ok_iff
    (checkAssignment_eq_ok_iff (brief.ledger.map TimeReviewLedgerRow.id).toFinset
      (brief.jiraCandidates.map TimeReviewJiraCandidate.issueKey).toFinset newIssueIds)
    proposal.assignments ∅
  rw [TimeReviewAgentBrief.validateProposal, valid]
  simp only [bind, Except.bind]
  rw [if_neg (not_not.2 headed.schema), if_neg (not_not.2 headed.review),
    if_neg (not_le.2 headed.generated), if_neg (not_not.2 headed.summary)]
  constructor
  · intro accepted
    obtain ⟨newIssueIds, issuesChecked, accepted⟩ := bind_eq_ok.1 accepted
    obtain ⟨assigned, assignmentsChecked, accepted⟩ := bind_eq_ok.1 accepted
    obtain ⟨issuesGood, issuesDistinct, rfl⟩ := (issues newIssueIds).1 issuesChecked
    obtain ⟨good, distinct, rfl⟩ := (assignments _ assigned).1 assignmentsChecked
    split at accepted
    · cases accepted
    rename_i sameCount
    rw [Finset.empty_union] at good sameCount
    have inside : (proposal.assignments.map TimeReviewAssignmentProposal.ledgerRowId).toFinset ⊆
        (brief.ledger.map TimeReviewLedgerRow.id).toFinset := by
      intro id member
      obtain ⟨assignment, listed, rfl⟩ := mem_map.1 (mem_toFinset.1 member)
      exact (good assignment listed).2.1
    have same := Finset.eq_of_subset_of_card_le inside (not_not.1 sameCount).ge
    have targets := fun assignment member => (targets_iff assignment _ _).1
      (good assignment member).2.2.2.2
    have fields := fun issue member => (validNewIssue_iff issue _).1 (issuesGood issue member).2
    exact ⟨distinct, fun id => by rw [← mem_toFinset, same, mem_toFinset],
      fun assignment member => (targets assignment member).1,
      fun assignment member => (targets assignment member).2.1,
      fun assignment member => (targets assignment member).2.2,
      fun assignment member => ⟨(good assignment member).2.2.1, (good assignment member).2.2.2.1⟩,
      issuesDistinct, fun issue member => (fields issue member).1,
      fun issue member => (fields issue member).2⟩
  intro covers
  have same : (proposal.assignments.map TimeReviewAssignmentProposal.ledgerRowId).toFinset =
      (brief.ledger.map TimeReviewLedgerRow.id).toFinset := by
    ext id
    rw [mem_toFinset, mem_toFinset, covers.named]
  refine bind_eq_ok.2 ⟨_, (issues _).2 ⟨?_, covers.issuesDistinct, rfl⟩,
    bind_eq_ok.2 ⟨_, (assignments _ _).2 ⟨?_, covers.distinct, rfl⟩, ?_⟩⟩
  · intro issue member
    exact ⟨Finset.notMem_empty _,
      (validNewIssue_iff issue _).2 ⟨covers.issueFields issue member, covers.evidence issue member⟩⟩
  · intro assignment member
    rw [Finset.empty_union]
    refine ⟨Finset.notMem_empty _, ?_, (covers.bounds assignment member).1,
      (covers.bounds assignment member).2, (targets_iff assignment _ _).2
        ⟨covers.existing assignment member, covers.proposed assignment member,
          covers.reasons assignment member⟩⟩
    rw [mem_toFinset, ← covers.named]
    exact mem_map_of_mem member
  rw [Finset.empty_union, same, if_neg (not_not.2 rfl)]
  rfl

theorem Reordered.headed (reordered : Reordered proposal other) (headed : Headed brief proposal) :
    Headed brief other :=
  ⟨reordered.schema.trans headed.schema, reordered.review.trans headed.review,
    by rw [reordered.generated]; exact headed.generated,
    by rw [reordered.summary]; exact headed.summary⟩

theorem Reordered.symm (reordered : Reordered proposal other) : Reordered other proposal :=
  ⟨reordered.schema.symm, reordered.review.symm, reordered.generated.symm, reordered.summary.symm,
    reordered.assignments.symm, reordered.issues.symm⟩

theorem Reordered.covers (reordered : Reordered proposal other) (covers : Covers brief proposal) :
    Covers brief other := by
  have assigned := fun assignment => (reordered.assignments.mem_iff (a := assignment)).2
  have issued := fun issue => (reordered.issues.mem_iff (a := issue)).2
  have names := reordered.assignments.map TimeReviewAssignmentProposal.ledgerRowId
  have ids := reordered.issues.map TimeReviewNewJiraIssueProposal.proposalId
  exact {
    distinct := names.nodup_iff.1 covers.distinct
    named := fun id => by rw [← names.mem_iff, covers.named]
    existing := fun assignment member => covers.existing assignment (assigned assignment member)
    proposed := fun assignment member id target =>
      ids.mem_iff.1 (covers.proposed assignment (assigned assignment member) id target)
    reasons := fun assignment member => covers.reasons assignment (assigned assignment member)
    bounds := fun assignment member => covers.bounds assignment (assigned assignment member)
    issuesDistinct := ids.nodup_iff.1 covers.issuesDistinct
    issueFields := fun issue member => covers.issueFields issue (issued issue member)
    evidence := fun issue member => covers.evidence issue (issued issue member) }

theorem find?_id {rows : List TimeReviewLedgerRow} (distinct : (rows.map TimeReviewLedgerRow.id).Nodup)
    {row : TimeReviewLedgerRow} (member : row ∈ rows) :
    rows.find? (fun other => other.id = row.id) = some row := by
  induction rows with
  | nil => cases member
  | cons first rest ih =>
    rw [map_cons, nodup_cons] at distinct
    rcases mem_cons.1 member with rfl | later
    · exact find?_cons_of_pos (by simp)
    have differs : first.id ≠ row.id := fun same =>
      distinct.1 (same ▸ mem_map_of_mem later)
    rw [find?_cons_of_neg (by simpa using differs), ih distinct.2 later]

/-- The durations of the assigned rows are those of the ledger. -/
theorem sum_assignedSeconds (valid : brief.validate = .ok ()) (covers : Covers brief proposal) :
    (proposal.assignments.map (assignedSeconds brief)).sum =
      (brief.ledger.map TimeReviewLedgerRow.durationSeconds).sum := by
  have distinctRows := ((validate_eq_ok_iff brief).1 valid).rowsDistinct
  let secondsOf : String → ℕ := fun id =>
    ((brief.ledger.find? fun row => row.id = id).map TimeReviewLedgerRow.durationSeconds).getD 0
  have perm : (proposal.assignments.map TimeReviewAssignmentProposal.ledgerRowId).Perm
      (brief.ledger.map TimeReviewLedgerRow.id) :=
    (perm_ext_iff_of_nodup covers.distinct distinctRows).2 covers.named
  have own : ∀ row ∈ brief.ledger, secondsOf row.id = row.durationSeconds := by
    intro row member
    simp only [secondsOf, find?_id distinctRows member, Option.map_some, Option.getD_some]
  calc (proposal.assignments.map (assignedSeconds brief)).sum
      = ((proposal.assignments.map TimeReviewAssignmentProposal.ledgerRowId).map secondsOf).sum := by
        rw [map_map]
        rfl
    _ = ((brief.ledger.map TimeReviewLedgerRow.id).map secondsOf).sum := (perm.map secondsOf).sum_eq
    _ = (brief.ledger.map TimeReviewLedgerRow.durationSeconds).sum := by
        rw [map_map]
        exact congrArg List.sum (map_congr_left own)

end Brief

/-- A proposal is accepted exactly when it covers the ledger, in whatever order its lists are, and then
it accounts for the whole duration. -/
theorem validateProposal_iff_covers (brief : TimeReviewAgentBrief)
    (proposal : TimeReviewProposalDocument) (valid : brief.validate = .ok ())
    (headed : Headed brief proposal) :
    (brief.validateProposal proposal = .ok () ↔ Covers brief proposal) ∧
      (∀ other, Reordered proposal other →
        (brief.validateProposal other = .ok () ↔ brief.validateProposal proposal = .ok ())) ∧
      (brief.validateProposal proposal = .ok () →
        (proposal.assignments.map (assignedSeconds brief)).sum =
          (brief.ledger.map TimeReviewLedgerRow.durationSeconds).sum) := by
  have accepted := validateProposal_eq_ok_iff valid headed
  refine ⟨accepted, ?_, fun done => sum_assignedSeconds valid (accepted.1 done)⟩
  intro other reordered
  rw [accepted, validateProposal_eq_ok_iff valid (reordered.headed headed)]
  exact ⟨reordered.symm.covers, reordered.covers⟩

/-- A brief with one row and one issue. -/
def briefWith (context : String) : TimeReviewAgentBrief where
  schemaVersion := timeReviewSchemaVersion
  reviewId := "r"
  reviewDate := "2026-07-01"
  generatedAtUnixMs := 1
  ledger := [{ id := "s", startedAtUnixMs := 0, endedAtUnixMs := 1000, durationSeconds := 1,
               activityType := "coding", application := "Code", context := context,
               detectedJiraIssueKey := none, sourceEventCount := 1 }]
  jiraCandidates := [{ issueKey := "A-1", summary := "t", status := "o" }]

/-- A proposal with a new issue for the row. -/
def sampleProposal : TimeReviewProposalDocument where
  schemaVersion := timeReviewSchemaVersion
  reviewId := "r"
  generatedAtUnixMs := 1
  summary := "s"
  assignments := [{ ledgerRowId := "s", target := .newJira "n", confidence := 50, rationale := "r" }]
  newJiraIssues := [{ proposalId := "n", projectKey := "A", summary := "t", description := "d",
                      evidenceLedgerRowIds := ["s"] }]

theorem validateProposal_iff_covers_sample :
    ((briefWith "c").validateProposal sampleProposal = .ok () ↔
        Covers (briefWith "c") sampleProposal) ∧ (∀ other, Reordered sampleProposal other →
        ((briefWith "c").validateProposal other = .ok () ↔
          (briefWith "c").validateProposal sampleProposal = .ok ())) ∧
      ((briefWith "c").validateProposal sampleProposal = .ok () →
        (sampleProposal.assignments.map (assignedSeconds (briefWith "c"))).sum =
          ((briefWith "c").ledger.map TimeReviewLedgerRow.durationSeconds).sum) :=
  validateProposal_iff_covers (briefWith "c") sampleProposal (by decide)
    ⟨rfl, rfl, by decide, by decide⟩

end Wts.TimeReviewBrief
