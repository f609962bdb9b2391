/-
Module: Wts.Proofs.IntegrationJournal
Purpose: What a journal of an integration and the notes of its run say, and what the pure parts of an
  attempt do to them: crediting observed files, opening, closing and recovering a journal.
Trusted boundary: none
Main exports: OwnJournal
-/
import Wts.App.Integration
import Wts.Proofs.FilePlan

namespace Wts.Integration

open Checkpoint Interrupt List

/-- The files that an integration writes. -/
def listedFiles (item : TrustedAgentWorkItem) : List AgentWorkItemIntegrationFile :=
  changedFiles item.baseline.toWorktreeCheckpointCapture item.result.toWorktreeCheckpointCapture

theorem paths_listedFiles (item : TrustedAgentWorkItem) :
    (listedFiles item).map AgentWorkItemIntegrationFile.filePath =
      changedPaths item.baseline.toWorktreeCheckpointCapture
        item.result.toWorktreeCheckpointCapture := by
  unfold listedFiles changedFiles
  rw [map_map]
  exact map_id _

theorem uniquePaths_listedFiles (item : TrustedAgentWorkItem) :
    ((listedFiles item).map AgentWorkItemIntegrationFile.filePath).Nodup := by
  rw [paths_listedFiles]
  exact nodup_changedPaths _ _

theorem nodup_listedFiles (item : TrustedAgentWorkItem) : (listedFiles item).Nodup :=
  (uniquePaths_listedFiles item).of_map

variable {item : TrustedAgentWorkItem}

theorem eq_of_filePath_eq {first second : AgentWorkItemIntegrationFile}
    (left : first ∈ listedFiles item) (right : second ∈ listedFiles item)
    (same : first.filePath = second.filePath) : first = second :=
  inj_on_of_nodup_map (uniquePaths_listedFiles item) left right same

variable {file : AgentWorkItemIntegrationFile}

/-- A file was seen in its desired state, or was given that state by the integration. -/
def Seen (item : TrustedAgentWorkItem) (past : List IntegrationNote)
    (file : AgentWorkItemIntegrationFile) : Prop :=
  (∃ capture, .captured capture ∈ past ∧
      capture.stateAt file.filePath = item.result.stateAt file.filePath) ∨
    ∃ before, .wrote file.filePath before (item.result.stateAt file.filePath) ∈ past

/-- What a note may say after the earlier ones: a file is written from its baseline state and is a
listed one, a journal credits only files that were seen, and it is saved as integrated only while the
worktree is the baseline with the listed files as the candidate has them. -/
def Justified (item : TrustedAgentWorkItem) (past : List IntegrationNote) : IntegrationNote → Prop
  | .captured _ => True
  | .wrote path before _ =>
    before = item.baseline.stateAt path ∧ ∃ file ∈ listedFiles item, file.filePath = path
  | .saved journal worktree =>
    (∀ file ∈ journal.result.files, Seen item past file) ∧
      (journal.result.state = .integrated →
        matchesCapture (finalExpected item (listedFiles item)) worktree.contents)

/-- Every note of the journal was justified when it was made. -/
def SoundNotes (item : TrustedAgentWorkItem) (notes : List IntegrationNote) : Prop :=
  ∀ past note later, notes = past ++ note :: later → Justified item past note

theorem soundNotes_nil (item : TrustedAgentWorkItem) : SoundNotes item [] := by
  intro past note later same
  cases past <;> cases same

variable {notes : List IntegrationNote}

theorem SoundNotes.append
    (sound : SoundNotes item notes) {last : IntegrationNote} (justified : Justified item notes last) :
    SoundNotes item (notes ++ [last]) := by
  intro past note later same
  rcases eq_nil_or_concat later with empty | ⟨init, final, split⟩
  · subst empty
    obtain ⟨prior, single⟩ := append_inj' same rfl
    cases single
    rw [← prior]
    exact justified
  subst split
  have regroup : past ++ note :: init ++ [final] = notes ++ [last] := by
    rw [same]
    simp
  exact sound past note init (append_inj' regroup rfl).1.symm

theorem Seen.append (seen : Seen item notes file)
    (more : List IntegrationNote) : Seen item (notes ++ more) file := by
  rcases seen with ⟨capture, noted, state⟩ | ⟨before, noted⟩
  · exact .inl ⟨capture, mem_append_left _ noted, state⟩
  exact .inr ⟨before, mem_append_left _ noted⟩

/-- The loop of `expected_target` takes a file as the candidate has it. -/
def Credits (item : TrustedAgentWorkItem) (current : WorktreeCheckpointCapture)
    (journal : IntegrationJournal) (file : AgentWorkItemIntegrationFile) : Prop :=
  file ∈ journal.result.files ∨ (journal.pendingFile = some file ∧
    current.stateAt file.filePath = item.result.stateAt file.filePath)

instance (item : TrustedAgentWorkItem) (current : WorktreeCheckpointCapture)
    (journal : IntegrationJournal) (file : AgentWorkItemIntegrationFile) :
    Decidable (Credits item current journal file) :=
  inferInstanceAs (Decidable (_ ∨ _))

def IntegrationJournal.withFiles (journal : IntegrationJournal)
    (files : List AgentWorkItemIntegrationFile) : IntegrationJournal :=
  { journal with result := { journal.result with files := files } }

theorem confirm_eq_withFiles (journal : IntegrationJournal) (file : AgentWorkItemIntegrationFile) :
    journal.confirm file = journal.withFiles (journal.confirm file).result.files := by
  unfold IntegrationJournal.confirm
  split
  · rfl
  rfl

variable {journal : IntegrationJournal}

variable {other : AgentWorkItemIntegrationFile}

theorem files_confirm :
    (journal.confirm file).result.files = FilePlan.confirm journal.result.files file := by
  unfold IntegrationJournal.confirm FilePlan.confirm
  split
  · rfl
  rfl

theorem mem_confirm :
    other ∈ (journal.confirm file).result.files ↔ other ∈ journal.result.files ∨ other = file := by
  rw [files_confirm]
  exact FilePlan.mem_confirm

theorem nodup_confirm (nodup : journal.result.files.Nodup)
    (file : AgentWorkItemIntegrationFile) : (journal.confirm file).result.files.Nodup := by
  unfold IntegrationJournal.confirm
  split
  · exact nodup
  rename_i fresh
  exact List.Nodup.append nodup (nodup_singleton file) (by simpa using fresh)

variable {current : WorktreeCheckpointCapture}

theorem kept_foldl (files : List AgentWorkItemIntegrationFile)
    (state : IntegrationJournal × WorktreeCheckpointCapture) :
    (files.foldl (creditFile item current) state).1 =
        state.1.withFiles (files.foldl (creditFile item current) state).1.result.files ∧
      (state.1.result.files.Nodup →
        (files.foldl (creditFile item current) state).1.result.files.Nodup) := by
  induction files generalizing state with
  | nil => exact ⟨rfl, id⟩
  | cons file rest ih =>
    rw [foldl_cons]
    obtain ⟨kept, nodup⟩ := ih (creditFile item current state file)
    by_cases credits : Credits item current state.1 file
    · have step : creditFile item current state file = (state.1.confirm file,
            state.2.override file.filePath (desiredFile item file.filePath)) := if_pos credits
      rw [step] at kept nodup ⊢
      exact ⟨by rw [kept, confirm_eq_withFiles]; rfl, fun before => nodup (nodup_confirm before file)⟩
    have step : creditFile item current state file = state := if_neg credits
    rw [step] at kept nodup ⊢
    exact ⟨kept, nodup⟩

theorem expectedTarget_kept (item : TrustedAgentWorkItem) (journal : IntegrationJournal)
    (current : WorktreeCheckpointCapture) : (expectedTarget item journal current).1 =
        journal.withFiles (expectedTarget item journal current).1.result.files ∧
      (journal.result.files.Nodup → (expectedTarget item journal current).1.result.files.Nodup) :=
  kept_foldl _ _

/-! ### Journals of an item -/

theorem changes_eq_ok {baseline result : WorktreeCheckpointCapture}
    {files : List AgentWorkItemIntegrationFile} : changes baseline result = .ok files ↔
      baseline.complete ∧ result.complete ∧ (changedFiles baseline result).length ≤ maxFiles ∧
        files = changedFiles baseline result := by
  by_cases left : baseline.complete = true
  · by_cases right : result.complete = true
    · by_cases many : maxFiles < (changedFiles baseline result).length
      · simp [changes, canonicalCapture, left, right, many, Except.bind, bind]
      · simp [changes, canonicalCapture, left, right, many, Except.bind, bind, pure, Except.pure,
          eq_comm, not_lt.1 many]
    · simp [changes, canonicalCapture, left, right, Except.bind, bind]
  simp [changes, canonicalCapture, left, Except.bind, bind]

def AgentWorkItemIntegrationPreflight.base (preflight : AgentWorkItemIntegrationPreflight) :
    AgentWorkItemIntegrationPreflight :=
  { preflight with
    state := .blocked
    effectDigest := ""
    resumeRequestId := none
    checkRunIds := []
    blockers := []
    detail := "Check the isolated candidate and the original workspace before integration." }

/-- The part of a journal that names its request, item, proof and target. -/
structure NamesItem (digest : EffectInput → String) (item : TrustedAgentWorkItem)
    (journal : IntegrationJournal) : Prop where
  requestId : journal.request.requestId ≠ 0
  validDigest : validDigest journal.request.effectDigest
  preflight : journal.preflight.base = preflightOf item (listedFiles item)
  sameDigest : journal.request.effectDigest = journal.preflight.effectDigest
  result : journal.result.schemaVersion = 1 ∧ journal.result.workSetId = item.workSetId ∧
    journal.result.taskId = item.taskId ∧
    journal.result.workspaceId = item.source.receipt.workspaceId ∧
    journal.result.repositoryId = item.source.receipt.repositoryId ∧
    journal.result.integrationRequestId = journal.request.requestId
  checkpoint : journal.proof.afterCheckpointId = item.candidate.receipt.after.checkpointId
  someChecks : journal.proof.checks ≠ []
  fewChecks : journal.proof.checks.length ≤ 64
  effect : ∀ worktree : Worktree,
    worktree.identity = some item.source.expectedTargetIdentity →
      effectDigest digest item worktree (listedFiles item) (some journal.proof) =
        .ok journal.request.effectDigest
  targetIdentity : journal.targetIdentity = item.source.expectedTargetIdentity
  sourceSession : journal.sourceSessionId = item.source.receipt.sessionId
  candidateSession : journal.candidateSessionId = item.candidate.receipt.sessionId
  changes : changes item.baseline.toWorktreeCheckpointCapture
    item.result.toWorktreeCheckpointCapture = .ok (listedFiles item)

/-- The part of a journal that records how far the integration is. -/
structure RecordsProgress (item : TrustedAgentWorkItem) (journal : IntegrationJournal) : Prop where
  listed : ∀ file ∈ journal.result.files, file ∈ listedFiles item
  nodup : journal.result.files.Nodup
  pending : ∀ file, journal.pendingFile = some file → file ∈ listedFiles item
  integrated : journal.result.state = .integrated → journal.finished = true ∧
    journal.result.integratedAtUnixMs.isSome ∧ journal.result.blockers = [] ∧
    ∀ file ∈ listedFiles item, file ∈ journal.result.files

/-- A journal that the integration of the item wrote. -/
structure OwnJournal (digest : EffectInput → String) (item : TrustedAgentWorkItem)
    (journal : IntegrationJournal) : Prop where
  names : NamesItem digest item journal
  progress : RecordsProgress item journal

section Journal

variable {digest : EffectInput → String} {item : TrustedAgentWorkItem} {journal : IntegrationJournal}

theorem NamesItem.update (names : NamesItem digest item journal)
    (files : List AgentWorkItemIntegrationFile) (blockers : List AgentWorkItemIntegrationBlocker)
    (state : AgentWorkItemIntegrationResultState) (detail : String) (time : Option Int64)
    (pending : Option AgentWorkItemIntegrationFile) (finished : Bool) :
    NamesItem digest item { journal with
      result := { journal.result with
        files := files
        blockers := blockers
        state := state
        detail := detail
        integratedAtUnixMs := time }
      pendingFile := pending
      finished := finished } where
  __ := names

theorem NamesItem.preflight_files (names : NamesItem digest item journal) :
    journal.preflight.files = listedFiles item :=
  congrArg AgentWorkItemIntegrationPreflight.files names.preflight

theorem NamesItem.complete (names : NamesItem digest item journal) :
    item.baseline.toWorktreeCheckpointCapture.complete = true ∧
      item.result.toWorktreeCheckpointCapture.complete = true := by
  obtain ⟨baseline, result, _⟩ := changes_eq_ok.1 names.changes
  exact ⟨baseline, result⟩

/-- The plan of a journal's item. -/
def NamesItem.plan (names : NamesItem digest item journal) :
    FilePlan AgentWorkItemIntegrationFile where
  start := item.baseline
  goal := item.result
  identity := item.source.expectedTargetIdentity
  path := AgentWorkItemIntegrationFile.filePath
  files := listedFiles item
  startComplete := names.complete.1
  goalComplete := names.complete.2
  uniquePaths := uniquePaths_listedFiles item
  changed := by
    intro name
    rw [paths_listedFiles]
    exact mem_changedPaths

theorem NamesItem.foldl_creditFile (names : NamesItem digest item journal)
    (files : List AgentWorkItemIntegrationFile)
    (state : List AgentWorkItemIntegrationFile × WorktreeCheckpointCapture) :
    files.foldl (creditFile item current) (journal.withFiles state.1, state.2) = (journal.withFiles
        (files.foldl (names.plan.creditFile current journal.pendingFile) state).1,
        (files.foldl (names.plan.creditFile current journal.pendingFile) state).2) := by
  induction files generalizing state with
  | nil => rfl
  | cons file rest ih =>
    rw [foldl_cons, foldl_cons, ← ih]
    congr 1
    by_cases credits : names.plan.Credits current state.1 journal.pendingFile file
    · have step : names.plan.creditFile current journal.pendingFile state file =
          (FilePlan.confirm state.1 file,
            state.2.override file.filePath (desiredFile item file.filePath)) := if_pos credits
      have confirmed : (journal.withFiles state.1).confirm file =
          journal.withFiles (FilePlan.confirm state.1 file) := by
        rw [confirm_eq_withFiles, files_confirm]
        rfl
      rw [step, ← confirmed]
      exact if_pos credits
    have step : names.plan.creditFile current journal.pendingFile state file = state :=
      if_neg credits
    rw [step]
    exact if_neg credits

theorem NamesItem.expectedTarget (names : NamesItem digest item journal) :
    expectedTarget item journal current = (journal.withFiles
        (names.plan.expectedFrom current journal.result.files journal.pendingFile).1,
        (names.plan.expectedFrom current journal.result.files journal.pendingFile).2) := by
  rw [Integration.expectedTarget, names.preflight_files]
  exact names.foldl_creditFile _ (journal.result.files, item.baseline.toWorktreeCheckpointCapture)

theorem NamesItem.mem_expectedTarget (names : NamesItem digest item journal)
    (current : WorktreeCheckpointCapture) (file : AgentWorkItemIntegrationFile) :
    file ∈ (Integration.expectedTarget item journal current).1.result.files ↔
      file ∈ journal.result.files ∨
        (file ∈ listedFiles item ∧ Credits item current journal file) := by
  rw [names.expectedTarget]
  exact FilePlan.mem_expectedFrom

theorem NamesItem.credits_expectedTarget (names : NamesItem digest item journal) :
    Credits item current (Integration.expectedTarget item journal current).1 file ↔
      Credits item current journal file := by
  unfold Credits
  rw [names.mem_expectedTarget, (expectedTarget_kept item journal current).1]
  constructor
  · rintro ((old | ⟨_, credits⟩) | isPending)
    · exact .inl old
    · exact credits
    · exact .inr isPending
  rintro (old | isPending)
  · exact .inl (.inl old)
  exact .inr isPending

theorem length_eq_of_listed (progress : RecordsProgress item journal)
    (all : ∀ file ∈ listedFiles item, file ∈ journal.result.files) :
    journal.result.files.length = (listedFiles item).length := by
  apply le_antisymm
  · exact (progress.nodup.subperm progress.listed).length_le
  exact ((nodup_listedFiles item).subperm all).length_le

theorem OwnJournal.readable (own : OwnJournal digest item journal)
    (settled : journal.result.state = .integrated → journal.pendingFile = none) :
    ReadableJournal item.workSetId item.taskId journal := by
  obtain ⟨names, progress⟩ := own
  have base := names.preflight
  have files := names.preflight_files
  obtain ⟨baselineComplete, resultComplete, count, _⟩ := changes_eq_ok.1 names.changes
  obtain ⟨version, set, task, workspace, repository, sameRequest⟩ := names.result
  constructor
  case preflightSet => exact congrArg AgentWorkItemIntegrationPreflight.workSetId base
  case preflightTask => exact congrArg AgentWorkItemIntegrationPreflight.taskId base
  case resultSet => exact set
  case resultTask => exact task
  case resultVersion => exact version
  case preflightVersion => exact congrArg AgentWorkItemIntegrationPreflight.schemaVersion base
  case requestId => exact names.requestId
  case sameRequest => exact sameRequest
  case workspace =>
    rw [workspace]
    exact (congrArg AgentWorkItemIntegrationPreflight.workspaceId base).symm
  case repository =>
    rw [repository]
    exact (congrArg AgentWorkItemIntegrationPreflight.repositoryId base).symm
  case digest => exact names.sameDigest
  case preflightFiles =>
    rw [files]
    exact count
  case resultFiles =>
    rw [files]
    exact (progress.nodup.subperm progress.listed).length_le
  case listed =>
    rw [files]
    exact progress.listed
  case pending =>
    rw [files]
    intro file member
    exact progress.pending file (Option.mem_toList.1 member)
  case checkpoint =>
    rw [names.checkpoint]
    exact (congrArg AgentWorkItemIntegrationPreflight.candidateAfterCheckpointId base).symm
  case sourceSession =>
    rw [names.sourceSession]
    exact item.source.receipt.sessionId_ne_zero
  case candidateSession =>
    rw [names.candidateSession]
    exact item.candidate.receipt.sessionId_ne_zero
  case someChecks => exact names.someChecks
  case fewChecks => exact names.fewChecks
  case validDigest => exact names.validDigest
  case validPaths =>
    rw [files]
    intro file member
    apply validFilePath_of_mem_changedPaths baselineComplete resultComplete
    rw [← paths_listedFiles]
    exact mem_map_of_mem member
  case integrated =>
    intro integrated
    obtain ⟨finished, time, blockers, all⟩ := progress.integrated integrated
    constructor
    · exact finished
    · exact time
    · exact blockers
    · exact settled integrated
    rw [files]
    exact length_eq_of_listed progress all
  case uniqueResult =>
    apply progress.nodup.map_on
    intro first left second right same
    exact eq_of_filePath_eq (progress.listed first left) (progress.listed second right) same
  case uniquePreflight =>
    rw [files]
    exact uniquePaths_listedFiles item

theorem OwnJournal.expectedTarget (own : OwnJournal digest item journal)
    (unfinished : journal.result.state ≠ .integrated) (current : WorktreeCheckpointCapture) :
    OwnJournal digest item (expectedTarget item journal current).1 := by
  obtain ⟨same, nodup⟩ := expectedTarget_kept item journal current
  have nodup := nodup own.progress.nodup
  have mem := own.names.mem_expectedTarget current
  generalize (Integration.expectedTarget item journal current).1 = after at same mem nodup ⊢
  have state : after.result.state = journal.result.state := by
    rw [same]
    rfl
  constructor
  · rw [same]
    exact own.names.update _ _ _ _ _ _ _
  constructor
  · intro file member
    rcases (mem file).1 member with old | ⟨inList, _⟩
    · exact own.progress.listed file old
    exact inList
  · exact nodup
  · rw [same]
    exact own.progress.pending
  intro integrated
  rw [state] at integrated
  exact absurd integrated unfinished

end Journal

end Wts.Integration
