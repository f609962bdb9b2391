/-
Module: Wts.Proofs.TurnChecks
Purpose: A turn is proved checked exactly when the latest saved runs of every planned check passed
  for its checkpoint, revision and definition.
Trusted boundary: none
Main exports: proof_iff
-/
import Wts.App.TurnChecks
import Wts.Library.JsonSize
import Wts.Library.StableSort

namespace Wts.TurnChecks

open Checkpoint RecordFiles MaxByKey List
open Integration (VerificationCheck VerifiedTurnCheck VerifiedTurnChecks AgentTurnCheckpoint)

variable {fromSlice : List UInt8 → Option StoredCheckRun} {receipt : AgentTurnChanges}

/-- The runs of a directory by their identifiers. -/
def runFiles (entries : List (Option RunEntry)) : List (Uuid × RunNode) :=
  entries.filterMap fun entry => entry.bind fun entry => entry.id.map fun id => (id, entry.node)

/-- The entries are listed, and their files of runs are at most 64 records of the turn. -/
structure SavedEntries (fromSlice : List UInt8 → Option StoredCheckRun) (receipt : AgentTurnChanges)
    (entries : List (Option RunEntry)) (records : List StoredCheckRun) : Prop where
  listed : none ∉ entries
  read : List.Forall₂ (fun file record => readRun fromSlice receipt file.1 file.2 = .ok record)
    (runFiles entries) records
  few : records.length ≤ MAX_RUNS

/-- The runs that a directory holds. -/
def SavedRuns (fromSlice : List UInt8 → Option StoredCheckRun) (receipt : AgentTurnChanges) :
    RunsDirectory → List StoredCheckRun → Prop
  | .missing, records => records = []
  | .unavailable, _ => False
  | .listed entries, records => SavedEntries fromSlice receipt entries records

variable {entry : RunEntry}

theorem runFiles_cons_of_none (other : entry.id = none)
    (entries : List (Option RunEntry)) : runFiles (some entry :: entries) = runFiles entries := by
  simp [runFiles, other]

theorem runFiles_cons_of_some {id : Uuid} (isRun : entry.id = some id)
    (entries : List (Option RunEntry)) :
    runFiles (some entry :: entries) = (id, entry.node) :: runFiles entries := by
  simp [runFiles, isRun]

variable {entries : List (Option RunEntry)}

theorem readEntries_eq_ok_iff {before all : List StoredCheckRun} (few : before.length ≤ MAX_RUNS) :
    readEntries fromSlice receipt entries before = .ok all ↔
      ∃ records, all = before ++ records ∧ none ∉ entries ∧
        List.Forall₂ (fun file record => readRun fromSlice receipt file.1 file.2 = .ok record)
          (runFiles entries) records ∧ all.length ≤ MAX_RUNS := by
  induction entries generalizing before with
  | nil =>
    rw [readEntries]
    constructor
    · intro same
      obtain rfl := Except.ok.inj same
      exact ⟨[], (append_nil _).symm, not_mem_nil, .nil, few⟩
    intro ⟨records, same, _, read, _⟩
    cases read
    rw [same, append_nil]
  | cons entry rest ih =>
    cases entry with
    | none =>
      rw [readEntries]
      constructor
      · intro impossible
        cases impossible
      intro ⟨_, _, listed, _⟩
      exact absurd mem_cons_self listed
    | some entry =>
      have listed : none ∉ some entry :: rest ↔ none ∉ rest := by simp
      rw [readEntries, listed]
      cases isRun : entry.id with
      | none =>
        rw [runFiles_cons_of_none isRun]
        exact ih few
      | some id =>
        rw [runFiles_cons_of_some isRun]
        dsimp only
        by_cases full : MAX_RUNS ≤ before.length
        · rw [if_pos full]
          constructor
          · intro impossible
            cases impossible
          intro ⟨records, same, _, read, short⟩
          cases read with
          | cons _ _ =>
            rw [same, length_append, length_cons] at short
            omega
        rw [if_neg full]
        cases here : readRun fromSlice receipt id entry.node with
        | error error =>
          constructor
          · intro impossible
            cases impossible
          intro ⟨records, _, _, read, _⟩
          cases read with
          | cons found _ => rw [here] at found; cases found
        | ok record =>
          dsimp only
          rw [@ih (before ++ [record]) (by
            rw [length_append, length_singleton]
            omega)]
          constructor
          · intro ⟨records, same, listed, read, short⟩
            refine ⟨record :: records, ?_, listed, .cons here read, short⟩
            rw [same, append_assoc, singleton_append]
          intro ⟨records, same, listed, read, short⟩
          cases read with
          | cons found later =>
            rw [here] at found
            obtain rfl := Except.ok.inj found
            refine ⟨_, ?_, listed, later, short⟩
            rw [same, append_assoc, singleton_append]

theorem readRuns_eq_ok_iff {directory : RunsDirectory} {sorted : List StoredCheckRun} :
    readRuns fromSlice receipt directory = .ok sorted ↔
      ∃ records, SavedRuns fromSlice receipt directory records ∧
        sorted = records.insertionSort fun first second => runKey first ≤ runKey second := by
  cases directory with
  | missing =>
    constructor
    · intro same
      exact ⟨[], rfl, (Except.ok.inj same).symm⟩
    intro ⟨records, isEmpty, same⟩
    rw [same, isEmpty]
    rfl
  | unavailable =>
    constructor
    · intro impossible
      cases impossible
    intro ⟨_, impossible, _⟩
    cases impossible
  | listed entries =>
    have start : ([] : List StoredCheckRun).length ≤ MAX_RUNS := Nat.zero_le _
    rw [readRuns]
    constructor
    · intro reads
      cases found : readEntries fromSlice receipt entries [] with
      | error error =>
        rw [found] at reads
        cases reads
      | ok records =>
        rw [found] at reads
        obtain ⟨_, same, listed, read, few⟩ := (readEntries_eq_ok_iff start).1 found
        rw [nil_append] at same
        subst same
        exact ⟨records, ⟨listed, read, few⟩, (Except.ok.inj reads).symm⟩
    intro ⟨records, saved, same⟩
    have found := (readEntries_eq_ok_iff start).2
      ⟨records, (nil_append _).symm, saved.listed, saved.read, saved.few⟩
    rw [found, same]
    rfl

variable {records : List StoredCheckRun}

theorem SavedEntries.perm {others : List (Option RunEntry)}
    (saved : SavedEntries fromSlice receipt entries records) (same : others.Perm entries) :
    ∃ reordered, SavedEntries fromSlice receipt others reordered ∧ reordered.Perm records := by
  have files : (runFiles others).Perm (runFiles entries) := same.filterMap _
  obtain ⟨reordered, read, perm⟩ := perm_comp_forall₂ files saved.read
  refine ⟨reordered, ⟨?_, read, ?_⟩, perm⟩
  · rw [same.mem_iff]
    exact saved.listed
  rw [perm.length_eq]
  exact saved.few

theorem SavedEntries.of_cons {id : Uuid} (isRun : entry.id = some id)
    (saved : SavedEntries fromSlice receipt (some entry :: entries) records) :
    ∃ record rest, records = record :: rest ∧ readRun fromSlice receipt id entry.node = .ok record ∧
      SavedEntries fromSlice receipt entries rest := by
  have read := saved.read
  rw [runFiles_cons_of_some isRun] at read
  cases read with
  | @cons _ record _ rest found later =>
    refine ⟨record, rest, rfl, found, ?_, later, ?_⟩
    · exact fun member => saved.listed (mem_cons_of_mem _ member)
    exact (Nat.le_succ _).trans saved.few

/-- No saved run of the check started later. -/
structure IsLatest (records : List StoredCheckRun) (checkId : String) (record : StoredCheckRun) :
    Prop where
  saved : record ∈ records
  ofCheck : record.run.checkId = checkId
  last : ∀ other ∈ records, other.run.checkId = checkId →
    other.run.startedAtUnixMs.toInt ≤ record.run.startedAtUnixMs.toInt

/-- The run passed, for this state of the files, this revision of the plan and this check. -/
structure PassedFor (afterCheckpointId : Uuid) (revision : UInt64) (check : VerificationCheck)
    (record : StoredCheckRun) : Prop where
  status : record.run.status = .passed
  exitCode : record.run.exitCode = some 0
  completed : record.run.completedAtUnixMs ≠ none
  checkpoint : record.request.expectedAfterCheckpointId = afterCheckpointId
  planRevision : record.request.expectedPlanRevision = revision
  definition : record.check = check

/-- The latest runs of a check are there, and all of them passed. -/
def LatestPassed (records : List StoredCheckRun) (afterCheckpointId : Uuid) (revision : UInt64)
    (check : VerificationCheck) : Prop :=
  (∃ record, IsLatest records check.id record) ∧
    ∀ record, IsLatest records check.id record → PassedFor afterCheckpointId revision check record

variable {afterCheckpointId : Uuid} {check : VerificationCheck} {record : StoredCheckRun}
  {revision : UInt64}

theorem proves_iff : proves afterCheckpointId revision check record = true ↔
      PassedFor afterCheckpointId revision check record := by
  simp only [proves, Bool.and_eq_true, decide_eq_true_eq, Option.isSome_iff_ne_none]
  constructor
  · intro ⟨⟨⟨⟨⟨status, exitCode⟩, completed⟩, checkpoint⟩, planRevision⟩, definition⟩
    exact ⟨status, exitCode, completed, checkpoint, planRevision, definition⟩
  intro passed
  exact ⟨⟨⟨⟨⟨passed.status, passed.exitCode⟩, passed.completed⟩, passed.checkpoint⟩,
    passed.planRevision⟩, passed.definition⟩

theorem started_le_of_runKey_le (first second : StoredCheckRun)
    (below : runKey first ≤ runKey second) :
    first.run.startedAtUnixMs.toInt ≤ second.run.startedAtUnixMs.toInt :=
  (Prod.Lex.le_iff.1 below).elim le_of_lt fun same => le_of_eq same.1

theorem mem_latest_iff {checkId : String} :
    record ∈ latest (fun record => record.run.startedAtUnixMs.toInt)
        (records.filter fun record => record.run.checkId = checkId) ↔
      IsLatest records checkId record := by
  simp only [mem_latest, mem_filter, decide_eq_true_eq]
  constructor
  · intro ⟨⟨saved, ofCheck⟩, last⟩
    exact ⟨saved, ofCheck, fun other inside same => last other ⟨inside, same⟩⟩
  intro isLatest
  exact ⟨⟨isLatest.saved, isLatest.ofCheck⟩, fun other inside =>
    isLatest.last other inside.1 inside.2⟩

theorem IsLatest.perm {others : List StoredCheckRun} {checkId : String} (same : records.Perm others)
    (isLatest : IsLatest records checkId record) : IsLatest others checkId record where
  saved := same.mem_iff.1 isLatest.saved
  ofCheck := isLatest.ofCheck
  last := fun other inside => isLatest.last other (same.mem_iff.2 inside)

theorem LatestPassed.perm {others : List StoredCheckRun} (same : records.Perm others)
    (passed : LatestPassed records afterCheckpointId revision check) :
    LatestPassed others afterCheckpointId revision check := by
  obtain ⟨⟨record, isLatest⟩, all⟩ := passed
  exact ⟨⟨record, isLatest.perm same⟩, fun other isOther => all other (isOther.perm same.symm)⟩

theorem proveCheck_iff :
    (∃ verified, proveCheck records afterCheckpointId revision check = .ok verified) ↔
      LatestPassed records afterCheckpointId revision check := by
  unfold LatestPassed
  dsimp only [proveCheck]
  cases found : maxByKey runKey (records.filter fun record => record.run.checkId = check.id) with
  | none =>
    have none_ := maxByKey_eq_none_iff.1 found
    constructor
    · intro ⟨_, impossible⟩
      cases impossible
    intro ⟨⟨record, isLatest⟩, _⟩
    have member := (mem_latest.1 (mem_latest_iff.2 isLatest)).1
    rw [none_] at member
    cases member
  | some last =>
    have isLast := mem_latest_iff.1 (mem_latest_of_maxByKey started_le_of_runKey_le found)
    have ties := filter_eq_latest started_le_of_runKey_le found
    have sameTies : ((records.filter fun record => record.run.checkId = check.id).filter
        fun record => record.run.startedAtUnixMs = last.run.startedAtUnixMs) =
        latest (fun record => record.run.startedAtUnixMs.toInt)
          (records.filter fun record => record.run.checkId = check.id) := by
      rw [← ties]
      apply filter_congr
      intro record _
      exact decide_eq_decide.2 Int64.toInt_inj.symm
    dsimp only
    rw [sameTies]
    constructor
    · intro ⟨verified, proved⟩
      split at proved
      · rename_i all
        refine ⟨⟨last, isLast⟩, ?_⟩
        intro record isLatest
        exact proves_iff.1 (all_eq_true.1 all record (mem_latest_iff.2 isLatest))
      cases proved
    intro ⟨_, passed⟩
    have all : (latest (fun record : StoredCheckRun => record.run.startedAtUnixMs.toInt)
        (records.filter fun record => record.run.checkId = check.id)).all
          (proves afterCheckpointId revision check) = true := by
      apply all_eq_true.2
      intro record member
      exact proves_iff.2 (passed record (mem_latest_iff.1 member))
    rw [if_pos all]
    obtain ⟨completed, isCompleted⟩ :=
      Option.ne_none_iff_exists'.1 (passed last isLast).completed
    rw [isCompleted]
    exact ⟨_, rfl⟩

theorem proveChecks_iff {ids : List String} {checks : List VerificationCheck} :
    (∃ proof, proveChecks records afterCheckpointId revision ids checks = .ok proof) ↔
      (checks.map (·.id)).Nodup ∧ (∀ check ∈ checks, check.id ∉ ids) ∧
        ∀ check ∈ checks, LatestPassed records afterCheckpointId revision check := by
  induction checks generalizing ids with
  | nil => exact ⟨fun _ => ⟨nodup_nil, by simp, by simp⟩, fun _ => ⟨[], rfl⟩⟩
  | cons check rest ih =>
    rw [proveChecks, map_cons, nodup_cons]
    by_cases repeated : check.id ∈ ids
    · rw [if_pos repeated]
      constructor
      · intro ⟨_, impossible⟩
        cases impossible
      intro ⟨_, fresh, _⟩
      exact absurd repeated (fresh check mem_cons_self)
    rw [if_neg repeated]
    constructor
    · intro ⟨proof, proved⟩
      cases here : proveCheck records afterCheckpointId revision check with
      | error error =>
        rw [here] at proved
        cases proved
      | ok verified =>
        rw [here] at proved
        cases later : proveChecks records afterCheckpointId revision (check.id :: ids) rest with
        | error error =>
          rw [later] at proved
          cases proved
        | ok others =>
          obtain ⟨nodup, fresh, passed⟩ := ih.1 ⟨others, later⟩
          refine ⟨⟨?_, nodup⟩, ?_, ?_⟩
          · intro inRest
            obtain ⟨other, member, same⟩ := mem_map.1 inRest
            exact fresh other member (by rw [same]; exact mem_cons_self)
          · intro other member
            rcases mem_cons.1 member with isFirst | inside
            · rw [isFirst]
              exact repeated
            exact fun inIds => fresh other inside (mem_cons_of_mem _ inIds)
          intro other member
          rcases mem_cons.1 member with isFirst | inside
          · rw [isFirst]
            exact proveCheck_iff.1 ⟨verified, here⟩
          exact passed other inside
    intro ⟨⟨notLater, nodup⟩, fresh, passed⟩
    obtain ⟨verified, here⟩ := proveCheck_iff.2 (passed check mem_cons_self)
    have freshLater : ∀ other ∈ rest, other.id ∉ check.id :: ids := by
      intro other member inside
      rcases mem_cons.1 inside with same | inIds
      · exact notLater (mem_map.2 ⟨other, member, same⟩)
      exact fresh other (mem_cons_of_mem _ member) inIds
    obtain ⟨others, later⟩ := ih.2
      ⟨nodup, freshLater, fun other member => passed other (mem_cons_of_mem _ member)⟩
    rw [here]
    refine ⟨verified :: others, ?_⟩
    show (proveChecks records afterCheckpointId revision (check.id :: ids) rest >>=
      fun others => pure (verified :: others)) = _
    rw [later]
    rfl

/-- The plan is one that the proof is made for: it has between one and 64 checks with different ids. -/
structure ProvablePlan (revision : UInt64) (checks : List VerificationCheck) : Prop where
  nonempty : checks ≠ []
  few : checks.length ≤ MAX_CHECKS
  distinct : (checks.map (·.id)).Nodup
  revised : revision ≠ 0

section Main

variable (fromSlice : List UInt8 → Option StoredCheckRun) (receipt : AgentTurnChanges)

theorem proofFromSavedRuns_iff (directory : RunsDirectory) (revision : UInt64)
    (checks : List VerificationCheck) :
    (∃ proof, proofFromSavedRuns fromSlice directory receipt revision checks = .ok proof) ↔
      ProvablePlan revision checks ∧ ∃ after records, receipt.after = some after ∧
        SavedRuns fromSlice receipt directory records ∧
        ∀ check ∈ checks, LatestPassed records after.checkpointId revision check := by
  unfold proofFromSavedRuns
  by_cases refused : checks = [] ∨ MAX_CHECKS < checks.length ∨ revision = 0
  · rw [if_pos refused]
    constructor
    · intro ⟨_, impossible⟩
      cases impossible
    intro ⟨plan, _⟩
    rcases refused with none | many | unrevised
    · exact absurd none plan.nonempty
    · exact absurd plan.few (Nat.not_le.2 many)
    exact absurd unrevised plan.revised
  rw [if_neg refused]
  push Not at refused
  obtain ⟨nonempty, few, revised⟩ := refused
  cases isAfter : receipt.after with
  | none =>
    constructor
    · intro ⟨_, impossible⟩
      cases impossible
    intro ⟨_, _, _, impossible, _⟩
    cases impossible
  | some after =>
    constructor
    · intro ⟨proof, proved⟩
      cases reads : readRuns fromSlice receipt directory with
      | error error =>
        rw [reads] at proved
        cases proved
      | ok sorted =>
        obtain ⟨records, saved, isSorted⟩ := readRuns_eq_ok_iff.1 reads
        have perm : sorted.Perm records := by
          rw [isSorted]
          exact perm_insertionSort _ records
        rw [reads] at proved
        cases loop : proveChecks sorted after.checkpointId revision [] checks with
        | error error =>
          dsimp only [bind, Except.bind] at proved
          rw [loop] at proved
          cases proved
        | ok verified =>
          obtain ⟨distinct, _, passed⟩ := proveChecks_iff.1 ⟨verified, loop⟩
          exact ⟨⟨nonempty, few, distinct, revised⟩, after, records, rfl, saved,
            fun check member => (passed check member).perm perm⟩
    intro ⟨plan, _, records, same, saved, passed⟩
    obtain rfl := Option.some.inj same
    have reads := readRuns_eq_ok_iff.2 ⟨records, saved, rfl⟩
    obtain ⟨verified, loop⟩ := proveChecks_iff.2 ⟨plan.distinct, fun _ _ => not_mem_nil,
      fun check member => (passed check member).perm
        (perm_insertionSort (fun first second => runKey first ≤ runKey second) records).symm⟩
    rw [reads]
    dsimp only [bind, Except.bind]
    rw [loop]
    exact ⟨_, rfl⟩

end Main

theorem readRuns_perm {others : List (Option RunEntry)}
    (same : others.Perm entries) (saved : SavedEntries fromSlice receipt entries records)
    (distinct : (records.map fun record => record.run.runId).Nodup) :
    readRuns fromSlice receipt (.listed others) = readRuns fromSlice receipt (.listed entries) := by
  obtain ⟨reordered, savedOthers, perm⟩ := saved.perm same
  have keys : (records.map runKey).Nodup := by
    apply List.Nodup.of_map (fun key => (ofLex key).2)
    rw [map_map]
    exact distinct
  have reads : readRuns fromSlice receipt (.listed entries) = _ :=
    readRuns_eq_ok_iff.2 ⟨records, saved, rfl⟩
  have readsOthers : readRuns fromSlice receipt (.listed others) = _ :=
    readRuns_eq_ok_iff.2 ⟨reordered, savedOthers, rfl⟩
  rw [reads, readsOthers, StableSort.insertionSort_key_eq_of_perm runKey perm.symm keys]

/-- The proof is made exactly for provable plans of a recorded state whose runs can be read, when of
every check the latest runs passed. -/
theorem proof_iff (fromSlice : List UInt8 → Option StoredCheckRun) (receipt : AgentTurnChanges)
    (revision : UInt64) (checks : List VerificationCheck) : (∀ directory,
      (∃ proof, proofFromSavedRuns fromSlice directory receipt revision checks = .ok proof) ↔
        ProvablePlan revision checks ∧ ∃ after records, receipt.after = some after ∧
          SavedRuns fromSlice receipt directory records ∧
          ∀ check ∈ checks, LatestPassed records after.checkpointId revision check) ∧
    (∀ entries others : List (Option RunEntry), others.Perm entries →
      ((∃ proof, proofFromSavedRuns fromSlice (.listed others) receipt revision checks = .ok proof) ↔
        ∃ proof, proofFromSavedRuns fromSlice (.listed entries) receipt revision checks =
          .ok proof) ∧ ∀ records, SavedRuns fromSlice receipt (.listed entries) records →
        (records.map fun record => record.run.runId).Nodup →
        proofFromSavedRuns fromSlice (.listed others) receipt revision checks =
          proofFromSavedRuns fromSlice (.listed entries) receipt revision checks) ∧
    ∀ (entries : List (Option RunEntry)) (entry : RunEntry) (id : Uuid) (record : StoredCheckRun)
      (check : VerificationCheck), check ∈ checks → entry.id = some id →
      readRun fromSlice receipt id entry.node = .ok record → record.run.checkId = check.id →
      (∀ records, SavedRuns fromSlice receipt (.listed entries) records →
        ∀ other ∈ records, other.run.checkId = check.id →
          other.run.startedAtUnixMs.toInt ≤ record.run.startedAtUnixMs.toInt) →
      (∀ after, receipt.after = some after → ¬PassedFor after.checkpointId revision check record) →
      ∀ others : List (Option RunEntry), others.Perm (some entry :: entries) →
        ∀ proof, proofFromSavedRuns fromSlice (.listed others) receipt revision checks ≠
          .ok proof := by
  refine ⟨fun directory => proofFromSavedRuns_iff fromSlice receipt directory revision checks, ?_, ?_⟩
  · intro entries others same
    constructor
    · rw [proofFromSavedRuns_iff, proofFromSavedRuns_iff]
      constructor
      · intro ⟨plan, after, records, isAfter, saved, passed⟩
        obtain ⟨reordered, savedEntries, perm⟩ := SavedEntries.perm saved same.symm
        exact ⟨plan, after, reordered, isAfter, savedEntries, fun check member =>
          (passed check member).perm perm.symm⟩
      · intro ⟨plan, after, records, isAfter, saved, passed⟩
        obtain ⟨reordered, savedOthers, perm⟩ := SavedEntries.perm saved same
        exact ⟨plan, after, reordered, isAfter, savedOthers, fun check member =>
          (passed check member).perm perm.symm⟩
    · intro records saved distinct
      unfold proofFromSavedRuns
      rw [readRuns_perm same saved distinct]
  · intro entries entry id record check member isRun found ofCheck latest notPassed others same proof
      proved
    obtain ⟨_, after, records, isAfter, saved, passed⟩ :=
      (proofFromSavedRuns_iff fromSlice receipt (.listed others) revision checks).1 ⟨proof, proved⟩
    obtain ⟨reordered, savedMore, perm⟩ := SavedEntries.perm saved same.symm
    obtain ⟨first, rest, isReordered, read, savedRest⟩ := savedMore.of_cons isRun
    obtain rfl := Except.ok.inj (found.symm.trans read)
    apply notPassed after isAfter
    apply (passed check member).2 record
    apply IsLatest.perm perm
    rw [isReordered]
    refine ⟨mem_cons_self, ofCheck, ?_⟩
    intro other inside sameCheck
    rcases mem_cons.1 inside with isRecord | earlier
    · rw [isRecord]
    · exact latest rest savedRest other earlier sameCheck

/-! ### A sample turn -/

def sampleReceipt : AgentTurnChanges where
  conversationId := 1
  requestId := 2
  sessionId := 3
  workspaceId := 4
  repositoryId := "api"
  sourceContextSha256 := "context"
  after := some
    { checkpointId := 5
      headCommitOid := "head"
      branchName := "main"
      capturedAtUnixMs := 100
      treeSha256 := "tree"
      indexSha256 := "index" }

def sampleCheck : VerificationCheck where
  id := "unit"
  label := "Unit tests"
  kind := .unit
  repositoryId := some "api"
  workingDirectory := "/work/api"
  executable := "npm"
  args := ["test"]
  timeoutMs := 1000
  outputLimitBytes := 65536
  required := true
  environmentNames := []
  acceptanceFiles := []

def sampleRun (runId : Uuid) (started : Int64) (status : AgentTurnCheckStatus) (exitCode : Int32) :
    StoredCheckRun where
  conversationId := 1
  turnRequestId := 2
  sessionId := 3
  workspaceId := 4
  repositoryId := "api"
  sourceContextSha256 := "context"
  request :=
    { requestId := runId
      checkId := "unit"
      expectedAfterCheckpointId := 5
      expectedPlanRevision := 7 }
  check := sampleCheck
  verificationStartedAtUnixMs := some started
  run :=
    { runId := runId
      checkId := "unit"
      status := status
      startedAtUnixMs := started
      completedAtUnixMs := some 400
      durationMs := some 1
      exitCode := some exitCode
      output := ""
      outputTruncated := false
      detail := "" }

def sampleJson (runId : Uuid) (started : ℕ) (status : String) (exitCode : ℕ) : Json :=
  .object
    [("conversationId", Serde.ofUuid 1), ("turnRequestId", Serde.ofUuid 2),
     ("sessionId", Serde.ofUuid 3), ("workspaceId", Serde.ofUuid 4),
     ("repositoryId", .string "api"), ("sourceContextSha256", .string "context"),
     ("request", .object
       [("requestId", Serde.ofUuid runId), ("checkId", .string "unit"),
        ("expectedAfterCheckpointId", Serde.ofUuid 5), ("expectedPlanRevision", Serde.ofNat 7)]),
     ("check", .object
       [("id", .string "unit"), ("label", .string "Unit tests"), ("kind", .string "unit"),
        ("repositoryId", .string "api"), ("workingDirectory", .string "/work/api"),
        ("executable", .string "npm"), ("args", .array [.string "test"]),
        ("timeoutMs", Serde.ofNat 1000), ("outputLimitBytes", Serde.ofNat 65536),
        ("required", .bool true), ("environmentNames", .array []), ("acceptanceFiles", .array [])]),
     ("verificationStartedAtUnixMs", Serde.ofNat started),
     ("run", .object
       [("runId", Serde.ofUuid runId), ("checkId", .string "unit"), ("status", .string status),
        ("startedAtUnixMs", Serde.ofNat started), ("completedAtUnixMs", Serde.ofNat 400),
        ("durationMs", Serde.ofNat 1), ("exitCode", Serde.ofNat exitCode), ("output", .string ""),
        ("outputTruncated", .bool false), ("detail", .string "")])]

def sampleText (runId : Uuid) (started : ℕ) (status : String) (exitCode : ℕ) : List UInt8 :=
  Text.utf8Bytes (Json.print (sampleJson runId started status exitCode))

def sampleFromSlice (bytes : List UInt8) : Option StoredCheckRun :=
  if bytes = sampleText 8 200 "passed" 0 then some (sampleRun 8 200 .passed 0)
  else if bytes = sampleText 9 300 "failed" 1 then some (sampleRun 9 300 .failed 1)
  else none

def samplePass : RunEntry where
  name := some (recordLeaf 8)
  node := .file (sampleText 8 200 "passed" 0)

def sampleFailure : RunEntry where
  name := some (recordLeaf 9)
  node := .file (sampleText 9 300 "failed" 1)

theorem readRun_samplePass : readRun sampleFromSlice sampleReceipt 8 samplePass.node =
    .ok (sampleRun 8 200 .passed 0) := by
  have short : ¬MAX_RECORD_BYTES < (sampleText 8 200 "passed" 0).length := by
    rw [sampleText, Text.length_utf8Bytes, Json.utf8ByteSize_print]
    decide +kernel
  have read : sampleFromSlice (sampleText 8 200 "passed" 0) = some (sampleRun 8 200 .passed 0) :=
    if_pos rfl
  have ofTurn : belongs sampleReceipt 8 (sampleRun 8 200 .passed 0) = true := by decide +kernel
  rw [samplePass, readRun, if_neg short, read]
  exact if_pos ofTurn

theorem readRun_sampleFailure : readRun sampleFromSlice sampleReceipt 9 sampleFailure.node =
    .ok (sampleRun 9 300 .failed 1) := by
  have short : ¬MAX_RECORD_BYTES < (sampleText 9 300 "failed" 1).length := by
    rw [sampleText, Text.length_utf8Bytes, Json.utf8ByteSize_print]
    decide +kernel
  have other : sampleText 9 300 "failed" 1 ≠ sampleText 8 200 "passed" 0 := by
    intro same
    have values := Json.print_injective (Text.utf8Bytes_injective same)
    simp [sampleJson] at values
  have read : sampleFromSlice (sampleText 9 300 "failed" 1) = some (sampleRun 9 300 .failed 1) := by
    rw [sampleFromSlice, if_neg other]
    exact if_pos rfl
  have ofTurn : belongs sampleReceipt 9 (sampleRun 9 300 .failed 1) = true := by decide +kernel
  rw [sampleFailure, readRun, if_neg short, read]
  exact if_pos ofTurn

theorem savedEntries_samplePass : SavedEntries sampleFromSlice sampleReceipt [some samplePass]
    [sampleRun 8 200 .passed 0] where
  listed := by simp
  read := by
    rw [@runFiles_cons_of_some samplePass 8 (recordId_recordLeaf 8)]
    exact .cons readRun_samplePass .nil
  few := by decide

/-- The passed run of the sample is a proof, and the failed one after it takes the proof back. -/
theorem proof_iff_sample :
    (∃ proof, proofFromSavedRuns sampleFromSlice (.listed [some samplePass]) sampleReceipt 7
      [sampleCheck] = .ok proof) ∧
    ∀ proof, proofFromSavedRuns sampleFromSlice (.listed [some samplePass, some sampleFailure])
      sampleReceipt 7 [sampleCheck] ≠ .ok proof := by
  obtain ⟨proves, _, revokes⟩ := proof_iff sampleFromSlice sampleReceipt 7 [sampleCheck]
  have onlyRun : ∀ records, SavedRuns sampleFromSlice sampleReceipt (.listed [some samplePass])
      records → records = [sampleRun 8 200 .passed 0] := by
    intro records saved
    obtain ⟨record, rest, isRecords, read, savedRest⟩ :=
      @SavedEntries.of_cons _ _ samplePass _ _ 8 (recordId_recordLeaf 8) saved
    obtain rfl := Except.ok.inj (readRun_samplePass.symm.trans read)
    cases savedRest.read
    exact isRecords
  constructor
  · apply (proves (.listed [some samplePass])).2
    refine ⟨⟨by decide, by decide, by decide, by decide⟩, _, _, rfl, savedEntries_samplePass, ?_⟩
    intro check member
    rw [mem_singleton.1 member]
    constructor
    · exact ⟨sampleRun 8 200 .passed 0, mem_singleton.2 rfl, rfl, fun other inside _ => by
        rw [mem_singleton.1 inside]⟩
    · intro record isLatest
      rw [mem_singleton.1 isLatest.saved]
      exact ⟨rfl, rfl, Option.some_ne_none _, rfl, rfl, rfl⟩
  · apply revokes [some samplePass] sampleFailure 9 (sampleRun 9 300 .failed 1) sampleCheck
      mem_cons_self (recordId_recordLeaf 9) readRun_sampleFailure rfl
    · intro records saved other inside _
      rw [onlyRun records saved, mem_singleton] at inside
      rw [inside]
      decide
    · intro after _ passed
      cases passed.status
    · exact List.Perm.swap _ _ _

/-- A plan without checks has no proof, though all of its checks passed. -/
theorem empty_plan_counterexample :
    ¬∀ (fromSlice : List UInt8 → Option StoredCheckRun) (receipt : AgentTurnChanges)
      (directory : RunsDirectory) (records : List StoredCheckRun) (after : AgentTurnCheckpoint)
      (revision : UInt64) (checks : List VerificationCheck), receipt.after = some after →
      SavedRuns fromSlice receipt directory records →
      ((∃ proof, proofFromSavedRuns fromSlice directory receipt revision checks = .ok proof) ↔
        ∀ check ∈ checks, LatestPassed records after.checkpointId revision check) := by
  intro claim
  have all := claim sampleFromSlice sampleReceipt .missing [] _ 7 [] rfl rfl
  obtain ⟨proof, proved⟩ := all.2 fun check member => by cases member
  cases proved

end Wts.TurnChecks
