/-
Module: Wts.Proofs.TurnRestoreResume
Purpose: A restore whose journal was never left without its marker can be resumed: a recovery succeeds,
  the preflight answers before and after it, and the repeated request ends restored.
Trusted boundary: none
Main exports: succeeds_restoreAgentTurn
-/
import Wts.Proofs.TurnRestoreRun

namespace Wts.TurnRestore

open Checkpoint Interrupt List

/-- Nothing outside objects: locks and leases are free, the records and the saved files can be read,
the workspace has its path and the parent folders are there. -/
structure Opportune (env : RequestEnv) : Prop where
  blobs : ∀ hash, env.savedBlobs hash = true
  operationLease : env.operationLease = .ok ()
  record : env.record = .ok ()
  conversation : env.conversation = .ok ()
  turnLease : env.turnLease = .ok ()
  conversationAgrees : env.conversationAgrees = true
  receipt : env.receipt = .ok ()
  conversations : env.conversations = .ok ()
  sessions : env.sessions = .ok ()
  leases : env.leases = .ok ()
  sourceWorktree : env.sourceWorktree = .ok true
  parents : ∀ path, env.parentIsDir path = true

/-- A request that can be made of the turn. -/
structure Asked (digest : EffectInput → String) (turn : ReadyTurn)
    (request : AgentTurnRestoreRequest) : Prop where
  requestId : request.requestId ≠ 0
  validDigest : validSha256 request.effectDigest
  effect : request.effectDigest = effectDigest digest turn.receipt (actions turn.receipt)

/-- After a recovery the request returns `Restored`, and the preflight does not fail before or after
the recovery. -/
def Resumable (digest : EffectInput → String) (turn : ReadyTurn) (request : AgentTurnRestoreRequest)
    (store : RestoreStore) : Prop :=
  ∀ env, Opportune env →
    (∃ preflight, preflightAgentTurnRestore digest turn.stored env store = .ok preflight) ∧
    ∃ recovered, recoverPendingWorkspace turn.stored digest env.toRecoverEnv [] store =
        { outcome := .value (), fates := [], store := recovered } ∧
      (∃ preflight, preflightAgentTurnRestore digest turn.stored env recovered = .ok preflight) ∧
      ∃ result after, restoreAgentTurn digest turn.stored env request [] recovered =
        { outcome := .value result, fates := [], store := after } ∧ result.state = .restored

section Resume

variable {digest : EffectInput → String} {turn : ReadyTurn} {env : RequestEnv}
  {request : AgentTurnRestoreRequest} {store : RestoreStore} {journal : RestoreJournal}

theorem succeeds_saveJournal {requestId : Uuid} {post : Unit → RestoreStore → Prop}
    (key : requestId = journal.request.requestId) (holds : post () (savedTo store journal)) :
    Succeeds (saveJournal requestId journal) store post := by
  subst key
  exact .change holds

variable {done : List AgentTurnRestoreFile}

theorem succeeds_restore {file : AgentTurnRestoreFile} (shows : turn.plan.Shows store.worktree done)
    (inside : ∀ other ∈ done, other ∈ actions turn.receipt) (listed : file ∈ actions turn.receipt)
    (fresh : file ∉ done) : Succeeds (restoreWorktreeBytesChecked file.filePath
        (savedContent turn.before.toWorktreeCheckpointCapture file.filePath)
        ((turn.before.stateAt file.filePath).map FileState.mode)
        (turn.after.stateAt file.filePath) turn.targetIdentity) store
      (fun success after => success = true ∧ turn.plan.Shows after.worktree (done ++ [file])) := by
  have allowed := shows.writeAllowed inside listed fresh rfl
  have state : writtenState (savedContent turn.before.toWorktreeCheckpointCapture file.filePath)
      ((turn.before.stateAt file.filePath).map FileState.mode) =
      turn.before.stateAt file.filePath := writtenState_saved _
  apply Succeeds.bind_read
  rw [if_pos (show Checkpoint.writeAllowed store.worktree file.filePath
    (savedContent turn.before.toWorktreeCheckpointCapture file.filePath)
    ((turn.before.stateAt file.filePath).map FileState.mode)
    (turn.after.stateAt file.filePath) turn.targetIdentity = true from allowed)]
  apply Succeeds.tryChange
  rw [state]
  exact ⟨rfl, shows.withFile file⟩

/-- The end of a loop in which no write fails. -/
structure Completed (turn : ReadyTurn) (files : List AgentTurnRestoreFile)
    (before after : RestoreJournal) (store : RestoreStore) : Prop where
  blockers : after.result.blockers = before.result.blockers
  shows : turn.plan.Shows store.worktree after.result.files
  kept : ∀ file ∈ before.result.files, file ∈ after.result.files
  all : ∀ file ∈ files, file ∈ after.result.files

theorem succeeds_applyFiles (files : List AgentTurnRestoreFile)
    (listed : ∀ file ∈ files, file ∈ actions turn.receipt)
    (inside : ∀ file ∈ journal.result.files, file ∈ actions turn.receipt)
    (shows : turn.plan.Shows store.worktree journal.result.files) :
    Succeeds (applyFiles turn.stored turn.before.toWorktreeCheckpointCapture
        turn.after.toWorktreeCheckpointCapture files journal) store
      (Completed turn files journal) := by
  induction files generalizing store journal with
  | nil =>
    apply Succeeds.pure
    exact ⟨rfl, shows, fun _ member => member, fun _ member => by cases member⟩
  | cons file rest ih =>
    have restListed : ∀ other ∈ rest, other ∈ actions turn.receipt := fun other member =>
      listed other (mem_cons_of_mem _ member)
    have here := listed file mem_cons_self
    rw [applyFiles]
    split
    · rename_i confirmed
      apply Succeeds.mono (ih restListed inside shows)
      intro after later completed
      refine ⟨completed.blockers, completed.shows, completed.kept, ?_⟩
      intro other member
      rcases mem_cons.1 member with equal | inRest
      · rw [equal]
        exact completed.kept file confirmed
      exact completed.all other inRest
    rename_i fresh
    have begun : turn.plan.Shows
        (savedTo store { journal with pendingFile := some file }).worktree
        journal.result.files := shows
    apply Succeeds.bind
    apply succeeds_saveJournal rfl
    apply Succeeds.bind_mono (succeeds_restore begun inside here fresh)
    rintro success after ⟨yes, shown⟩
    rw [if_pos yes]
    apply Succeeds.bind
    apply succeeds_saveJournal rfl
    apply Succeeds.mono
    · apply ih restListed
      · intro other member
        rcases mem_append.1 member with old | last
        · exact inside other old
        rw [mem_singleton.1 last]
        exact here
      · exact shown
    intro final later completed
    constructor
    · exact completed.blockers
    · exact completed.shows
    · intro other member
      exact completed.kept other (mem_append_left _ member)
    intro other member
    rcases mem_cons.1 member with equal | inRest
    · apply completed.kept
      rw [equal]
      exact mem_append_right _ (mem_singleton.2 rfl)
    exact completed.all other inRest

variable {worktree : Worktree}

theorem targetIdentity_of_shows (shows : turn.plan.Shows worktree done) :
    targetIdentity worktree = .ok turn.targetIdentity :=
  targetIdentity_eq_ok.2 shows.identity

theorem succeeds_applyExpected (opportune : Opportune env)
    {expected : WorktreeCheckpointCapture} (inside : ∀ file ∈ journal.result.files,
      file ∈ actions turn.receipt) (shows : turn.plan.Shows store.worktree journal.result.files)
    (observes : matchesCapture expected store.worktree.contents) :
    Succeeds (applyExpected turn.stored env.toApplyEnv turn.before.toWorktreeCheckpointCapture
        turn.after.toWorktreeCheckpointCapture journal expected store.worktree.contents) store
      (Completed turn (actions turn.receipt) journal) := by
  apply Succeeds.bind_read
  apply Succeeds.bind_ofExcept (targetIdentity_of_shows shows)
  have same : ¬(turn.targetIdentity ≠ turn.stored.targetIdentity ∨
      ¬matchesCapture expected store.worktree.contents = true) := by
    intro either
    rcases either with differs | unmatched
    · exact differs rfl
    exact unmatched observes
  rw [if_neg same, if_neg (by simp [opportune.blobs])]
  exact succeeds_applyFiles _ (fun _ member => member) inside shows

theorem succeeds_checkFinalState (shows : turn.plan.Shows store.worktree journal.result.files)
    (all : ∀ file ∈ actions turn.receipt, file ∈ journal.result.files) :
    Succeeds (checkFinalState turn.stored turn.before.toWorktreeCheckpointCapture journal) store
      (fun checked _ => checked = journal) := by
  have final : matchesCapture turn.before.toWorktreeCheckpointCapture store.worktree.contents :=
    shows.matchesGoal all turn.sameGit
  unfold checkFinalState
  split
  · apply Succeeds.bind_read
    rw [shows.captured]
    dsimp only
    rw [if_pos final]
    apply Succeeds.bind_ofExcept (targetIdentity_of_shows shows)
    apply Succeeds.pure
    rw [if_neg]
    exact not_not.2 rfl
  exact .pure rfl

theorem succeeds_applyRestore (opportune : Opportune env)
    (own : OwnJournal digest turn journal.request.requestId journal)
    (records : turn.plan.Records store.worktree journal.result.files journal.pendingFile) :
    Succeeds (applyRestore turn.stored env.toApplyEnv journal) store
      (fun closed _ => journal.result.blockers = [] → closed.result.state = .restored) := by
  have shows := records.shows own.listed own.pending
  have inside : ∀ file ∈ (turn.plan.expectedFrom store.worktree.contents journal.result.files
      journal.pendingFile).1, file ∈ actions turn.receipt := by
    intro file member
    rcases FilePlan.mem_expectedFrom.1 member with old | ⟨listed, _⟩
    · exact own.listed file old
    exact listed
  have observes := FilePlan.matches_expectedFrom own.listed shows
  apply Succeeds.bind_read
  rw [shows.captured]
  apply Succeeds.bind_ofExcept (mixedExpectedState_eq turn journal store.worktree.contents)
  apply Succeeds.bind_mono (succeeds_applyExpected opportune inside shows observes)
  intro applied later completed
  apply Succeeds.bind_mono (succeeds_checkFinalState completed.shows completed.all)
  intro checked last isApplied
  subst isApplied
  apply Succeeds.bind_change
  apply Succeeds.bind_change
  apply Succeeds.bind_change
  apply Succeeds.pure
  intro unblocked
  have stillUnblocked : checked.result.blockers = [] := completed.blockers.trans unblocked
  unfold closeJournal
  rw [if_pos stillUnblocked]

theorem succeeds_runJournal (opportune : Opportune env)
    (savable : Savable digest turn (some request) store journal)
    (unblocked : journal.result.blockers = []) : Succeeds (runJournal turn.stored env journal) store
      (fun result _ => result.state = .restored) := by
  have records : turn.plan.Records (markedStore turn store journal).worktree
      journal.result.files journal.pendingFile := (savable.tracked request rfl).2
  have applied := succeeds_applyRestore opportune savable.own records
  apply Succeeds.bind
  apply succeeds_saveJournal rfl
  apply Succeeds.bind_change
  apply Succeeds.bind_mono applied
  intro closed after restored
  exact .pure (restored unblocked)

/-! ### Preflights -/

theorem receiptBlockers_eq_nil (turn : ReadyTurn) : receiptBlockers turn.stored = [] := by
  obtain ⟨head, branch, index⟩ := turn.sameCheckpoints
  unfold receiptBlockers ReadyTurn.stored
  simp [turn.state, turn.observation, turn.receiptBefore, turn.receiptAfter, head, branch, index]

section

variable (opportune : Opportune env)
include opportune

theorem loadCheckTarget_of_shows (shows : turn.plan.Shows worktree done) :
    loadCheckTarget turn.stored env worktree = .ok turn.after.toWorktreeCheckpointCapture := by
  have canonical : ∃ capture, canonicalCapture turn.after.toWorktreeCheckpointCapture =
      .ok capture := by
    unfold canonicalCapture
    rw [if_pos turn.afterComplete]
    exact ⟨_, rfl⟩
  obtain ⟨capture, isCapture⟩ := canonical
  have receiptFits : ¬(turn.stored.receipt.state ≠ .ready ∨
      turn.stored.receipt.observation ≠ .normal ∨ turn.stored.receipt.after = none) := by
    push Not
    refine ⟨turn.state, turn.observation, ?_⟩
    intro none
    have some : turn.stored.receipt.after = some turn.afterCheckpoint := turn.receiptAfter
    rw [none] at some
    cases some
  have sameRoot : ¬turn.targetIdentity ≠ turn.stored.targetIdentity := not_not.2 rfl
  apply bind_eq_ok.2
  refine ⟨(), opportune.receipt, ?_⟩
  rw [if_neg receiptFits]
  apply bind_eq_ok.2
  refine ⟨(), opportune.conversation, ?_⟩
  apply bind_eq_ok.2
  refine ⟨true, opportune.sourceWorktree, ?_⟩
  apply bind_eq_ok.2
  refine ⟨(), opportune.record, ?_⟩
  rw [if_pos rfl]
  apply bind_eq_ok.2
  refine ⟨turn.targetIdentity, targetIdentity_of_shows shows, ?_⟩
  rw [if_neg sameRoot]
  exact bind_eq_ok.2 ⟨capture, isCapture, rfl⟩

theorem targetBlockers_of_shows
    (shows : turn.plan.Shows worktree []) : targetBlockers turn.stored env worktree = .ok [] := by
  have matching : matchesCheckTarget turn.stored worktree turn.after.toWorktreeCheckpointCapture =
      .ok true := by
    have sameRoot : ¬turn.targetIdentity ≠ turn.stored.targetIdentity := not_not.2 rfl
    apply bind_eq_ok.2
    refine ⟨turn.targetIdentity, targetIdentity_of_shows shows, ?_⟩
    rw [if_neg sameRoot, shows.captured]
    exact congrArg Except.ok shows.matchesStart
  have noParents : (actions turn.stored.receipt).filter (fun file =>
      file.action = .restore && !env.parentIsDir file.filePath) = [] := by
    apply filter_eq_nil_iff.2
    intro file _
    rw [opportune.parents]
    simp
  unfold targetBlockers
  rw [loadCheckTarget_of_shows opportune shows]
  dsimp only
  rw [matching, noParents]
  rfl

theorem freshPreflight_of_shows (shows : turn.plan.Shows worktree []) :
    freshPreflight digest turn.stored env worktree = .ok (initialPreflight digest turn.stored) := by
  have blockers : freshBlockers turn.stored env worktree = .ok [] := by
    unfold freshBlockers
    rw [if_pos (receiptBlockers_eq_nil turn)]
    exact targetBlockers_of_shows opportune shows
  unfold freshPreflight
  rw [blockers]
  rfl

theorem resumePreflight_of_own (shows : turn.plan.Shows worktree done)
    {id : Uuid} (own : OwnJournal digest turn id journal) (began : journal.result.state ≠ .conflict)
    (begun : AgentTurnRestorePreflight) :
    ∃ preflight, resumePreflight digest turn.stored env worktree journal begun = .ok preflight := by
  have agrees : ¬(journal.result.conversationId ≠ turn.stored.receipt.conversationId ∨
      journal.result.requestId ≠ turn.stored.receipt.requestId ∨
      journal.result.restoreRequestId ≠ journal.request.requestId ∨
      journal.request.effectDigest ≠
        effectDigest digest turn.stored.receipt (actions turn.stored.receipt)) := by
    push Not
    exact ⟨own.conversation, own.turnRequest, own.restoreRequest.trans own.key.symm,
      own.effect began⟩
  unfold resumePreflight
  rw [if_neg agrees]
  simp only [opportune.record, opportune.sourceWorktree, shows.captured, mixedExpectedState_eq,
    bind, Except.bind]
  unfold resumeMatches
  rw [if_pos rfl, targetIdentity_of_shows shows]
  exact ⟨_, rfl⟩

theorem operationLeases_of_unmarked (unmarked : store.marker = none) :
    operationLeases env store = .ok () := by
  unfold operationLeases
  simp only [opportune.conversations, opportune.sessions, opportune.leases, unmarked, bind,
    Except.bind]
  rfl

theorem operationLeases_of_marked {marker : PendingRestore} (marked : store.marker = some marker) :
    operationLeases env store = .error .agentConversationBusy := by
  unfold operationLeases
  simp only [opportune.conversations, opportune.sessions, marked, bind, Except.bind]
  rfl

end

theorem historical_of_own (saved : store.journals request.requestId = some journal)
    (own : OwnJournal digest turn request.requestId journal)
    (began : journal.result.state ≠ .conflict) (finished : journal.finished = true) :
    Historical digest turn store journal.result journal where
  saved := by
    rw [own.restoreRequest]
    exact saved
  __ := own
  key := own.restoreRequest.trans own.key.symm
  same := rfl
  finished := finished
  effect := own.effect began

theorem preflight_of_inv (opportune : Opportune env)
    (inv : Inv digest turn True (some request) store) :
    ∃ preflight, preflightAgentTurnRestore digest turn.stored env store = .ok preflight := by
  have tracked := inv.tracked request rfl
  have covers : Covers (some request) request.requestId := fun other same => by
    cases same
    rfl
  unfold preflightAgentTurnRestore
  simp only [opportune.receipt, opportune.conversation, bind, Except.bind]
  cases marked : store.marker with
  | none =>
    rw [operationLeases_of_unmarked opportune marked]
    dsimp only
    unfold validatePreflight
    cases saved : store.journals request.requestId with
    | none =>
      obtain ⟨_, completed, shows⟩ := tracked.fresh saved
      rw [historicalResult_none completed]
      exact ⟨_, freshPreflight_of_shows opportune shows⟩
    | some journal =>
      obtain ⟨isRequest, began, done, shows, _⟩ := tracked.saved journal saved
      have own := inv.own _ covers journal saved
      rcases inv.settled trivial _ covers journal saved began with isMarked |
        ⟨_, finished, completed⟩
      · rw [marked] at isMarked
        cases isMarked
      rw [historicalResult_some completed (historical_of_own saved own began finished)]
      show ∃ preflight, completedPreflight digest turn.stored env store journal.result =
        .ok preflight
      unfold completedPreflight
      dsimp only
      split
      · rw [own.restoreRequest, readJournal_eq_ok.2 saved]
        exact resumePreflight_of_own opportune shows own began _
      exact ⟨_, rfl⟩
  | some marker =>
    obtain ⟨isOwn, isCovered, journal, saved, began⟩ := inv.marker marker marked
    have here := isCovered request rfl
    have own := inv.own _ isCovered journal saved
    have isSaved : store.journals request.requestId = some journal := by
      rw [← here]
      exact saved
    obtain ⟨_, _, done, shows, _⟩ := tracked.saved journal isSaved
    rw [operationLeases_of_marked opportune marked]
    dsimp only
    unfold busyPreflight
    rw [marked]
    dsimp only
    have sameTurn : marker.sessionId = turn.stored.receipt.sessionId ∧
        marker.workspaceId = turn.stored.receipt.workspaceId := by
      rw [isOwn]
      exact ⟨rfl, rfl⟩
    rw [if_pos sameTurn, readJournal_eq_ok.2 saved]
    simp only [opportune.conversations, opportune.operationLease, opportune.turnLease, bind,
      Except.bind]
    exact resumePreflight_of_own opportune shows own began _

theorem journalAgrees_of_own {id : Uuid} (own : OwnJournal digest turn id journal)
    (began : journal.result.state ≠ .conflict) :
    journalAgrees turn.stored digest id journal = true := by
  have capturesAgree : capturesAgree turn.stored = true := by
    obtain ⟨head, branch, index⟩ := turn.sameGit
    unfold capturesAgree ReadyTurn.stored
    simp [turn.beforeComplete, turn.afterComplete, head, branch, index]
  have listed : journal.result.files.all (fun file => file ∈ actions turn.receipt) = true := by
    apply all_eq_true.2
    intro file member
    exact decide_eq_true (own.listed file member)
  have pending : journal.pendingFile.all (fun file => file ∈ actions turn.receipt) = true := by
    cases isPending : journal.pendingFile with
    | none => rfl
    | some file => exact decide_eq_true (own.pending file isPending)
  unfold journalAgrees
  simp only [Bool.and_eq_true, decide_eq_true_eq]
  exact ⟨⟨⟨⟨⟨⟨⟨⟨⟨own.turnRequest, own.conversation⟩, own.key⟩,
    own.restoreRequest.trans own.key.symm⟩, own.effect began⟩, turn.state⟩, turn.observation⟩,
    capturesAgree⟩, listed⟩, pending⟩

theorem succeeds_recover (opportune : Opportune env)
    (inv : Inv digest turn True (some request) store) :
    Succeeds (recoverPendingWorkspace turn.stored digest env.toRecoverEnv) store
      (fun _ after => Inv digest turn True (some request) after ∧ after.marker = none) := by
  apply Succeeds.bind_read
  cases marked : store.marker with
  | none => exact .pure ⟨inv, marked⟩
  | some marker =>
    obtain ⟨isOwn, covers, journal, saved, began⟩ := inv.marker marker marked
    have own := inv.own _ covers journal saved
    have sameWorkspace : ¬marker.workspaceId ≠ turn.stored.receipt.workspaceId := by
      rw [isOwn]
      exact not_not.2 rfl
    have sameSession : ¬turn.stored.receipt.sessionId ≠ marker.sessionId := by
      rw [isOwn]
      exact not_not.2 rfl
    have agrees : ¬¬(journalAgrees turn.stored digest marker.restoreRequestId journal = true ∧
        env.conversationAgrees = true) :=
      not_not.2 ⟨journalAgrees_of_own own began, opportune.conversationAgrees⟩
    dsimp only
    rw [opportune.operationLease]
    dsimp only
    rw [if_neg sameWorkspace]
    apply Succeeds.bind_ofExcept opportune.record
    apply Succeeds.bind_ofExcept opportune.conversation
    rw [if_neg sameSession, opportune.turnLease]
    dsimp only
    apply Succeeds.bind_ofExcept (readJournal_eq_ok.2 saved)
    rw [if_neg agrees]
    have isMarked : store.marker = some (ownMarker turn journal.request.requestId) := by
      rw [marked, isOwn, own.key]
    have isSaved : store.journals journal.request.requestId = some journal := by
      rw [own.key]
      exact saved
    have isCovered : Covers (some request) journal.request.requestId := by
      rw [own.key]
      exact covers
    have isOwnJournal : OwnJournal digest turn journal.request.requestId journal := by
      rw [own.key]
      exact own
    split
    · rename_i finished
      have completed := inv.complete isOwnJournal isSaved began isMarked
      apply Succeeds.bind_change
      apply Succeeds.change
      exact ⟨completed.unmark isSaved finished rfl isMarked, rfl⟩
    rename_i unfinished
    have incomplete := own.unfinished (Bool.eq_false_of_not_eq_true unfinished)
    have savable := Savable.ofSaved inv isSaved isCovered incomplete
    have records := (savable.tracked request rfl).2
    apply Succeeds.bind_mono
    · apply Succeeds.and_ends (succeeds_applyRestore opportune isOwnJournal records)
      exact ends_applyRestore env.toApplyEnv inv savable incomplete isMarked
    intro closed after ⟨_, rests, _⟩
    exact .pure ⟨rests.inv, rests.unmarked⟩

section

variable (opportune : Opportune env) (asked : Asked digest turn request)
include opportune asked

theorem decideRestore_of_fresh
    (unmarked : store.marker = none) (absent : store.journals request.requestId = none)
    (completed : store.completed = none) (shows : turn.plan.Shows store.worktree []) :
    decideRestore digest turn.stored env store request =
      .ok (.start (startedJournal turn.stored request (initialPreflight digest turn.stored))) := by
  have valid : ¬(request.requestId = 0 ∨ ¬validSha256 request.effectDigest = true) := by
    push Not
    exact ⟨asked.requestId, asked.validDigest⟩
  have goes : ¬((initialPreflight digest turn.stored).state ≠ .ready ∨
      (initialPreflight digest turn.stored).effectDigest ≠ request.effectDigest ∨
      (initialPreflight digest turn.stored).resumeRequestId.any
        (fun id => id ≠ request.requestId) = true) := by
    push Not
    exact ⟨rfl, asked.effect.symm, fun never => by cases never⟩
  unfold decideRestore
  rw [if_neg valid]
  apply bind_eq_ok.2
  refine ⟨(), opportune.receipt, ?_⟩
  rw [absent]
  apply bind_eq_ok.2
  refine ⟨(), opportune.conversation, ?_⟩
  rw [operationLeases_of_unmarked opportune unmarked]
  apply bind_eq_ok.2
  refine ⟨initialPreflight digest turn.stored, ?_, ?_⟩
  · apply bind_eq_ok.2
    exact ⟨none, historicalResult_none completed, freshPreflight_of_shows opportune shows⟩
  rw [if_neg goes]
  exact bind_eq_ok.2 ⟨(), opportune.record, rfl⟩

theorem decideRestore_of_saved
    (unmarked : store.marker = none) (saved : store.journals request.requestId = some journal)
    (isRequest : journal.request = request)
    (own : OwnJournal digest turn request.requestId journal) (finished : journal.finished = true)
    (shows : turn.plan.Shows store.worktree done) :
    decideRestore digest turn.stored env store request =
      .ok (if journal.result.state = .incomplete then .start journal.retried
        else .answer journal.result) := by
  have valid : ¬(request.requestId = 0 ∨ ¬validSha256 request.effectDigest = true) := by
    push Not
    exact ⟨asked.requestId, asked.validDigest⟩
  have same : ¬(journal.request ≠ request ∨
      journal.result.conversationId ≠ turn.stored.receipt.conversationId ∨
      journal.result.requestId ≠ turn.stored.receipt.requestId) := by
    push Not
    exact ⟨isRequest, own.conversation, own.turnRequest⟩
  have sameRoot : ¬turn.targetIdentity ≠ turn.stored.targetIdentity := not_not.2 rfl
  unfold decideRestore
  rw [if_neg valid]
  apply bind_eq_ok.2
  refine ⟨(), opportune.receipt, ?_⟩
  rw [saved]
  dsimp only
  unfold decideSaved
  rw [if_neg same]
  by_cases incomplete : journal.result.state = .incomplete
  · rw [if_pos incomplete, if_neg (fun answered => answered.2 incomplete),
      if_neg (not_not.2 finished)]
    apply bind_eq_ok.2
    refine ⟨(), opportune.conversation, ?_⟩
    apply bind_eq_ok.2
    refine ⟨(), operationLeases_of_unmarked opportune unmarked, ?_⟩
    apply bind_eq_ok.2
    refine ⟨(), opportune.record, ?_⟩
    apply bind_eq_ok.2
    refine ⟨true, opportune.sourceWorktree, ?_⟩
    rw [if_pos rfl]
    apply bind_eq_ok.2
    refine ⟨turn.targetIdentity, targetIdentity_of_shows shows, ?_⟩
    rw [if_neg sameRoot]
    rfl
  rw [if_neg incomplete, if_pos ⟨finished, incomplete⟩]

theorem succeeds_restoreAgentTurn
    (inv : Inv digest turn True (some request) store) (unmarked : store.marker = none) :
    Succeeds (restoreAgentTurn digest turn.stored env request) store
      (fun result _ => result.state = .restored) := by
  have tracked := inv.tracked request rfl
  have covers : Covers (some request) request.requestId := fun other same => by
    cases same
    rfl
  have isTracked : ∀ other, some request = some other → request = other :=
    fun other same => Option.some.inj same
  apply Succeeds.bind_read
  apply Succeeds.bind
  cases saved : store.journals request.requestId with
  | none =>
    obtain ⟨_, completed, shows⟩ := tracked.fresh saved
    apply Succeeds.ofExcept (decideRestore_of_fresh opportune asked unmarked saved completed shows)
    exact succeeds_runJournal opportune
      (savable_startedJournal inv saved _ asked.effect isTracked) rfl
  | some journal =>
    obtain ⟨isRequest, began, done, shows, _⟩ := tracked.saved journal saved
    have own := inv.own _ covers journal saved
    rcases inv.settled trivial _ covers journal saved began with isMarked | ⟨_, finished, _⟩
    · rw [unmarked] at isMarked
      cases isMarked
    have decided := decideRestore_of_saved opportune asked unmarked saved isRequest own finished
      shows
    by_cases incomplete : journal.result.state = .incomplete
    · rw [if_pos incomplete] at decided
      apply Succeeds.ofExcept decided
      exact succeeds_runJournal opportune
        (savable_retried inv saved isRequest incomplete isTracked) rfl
    rw [if_neg incomplete] at decided
    apply Succeeds.ofExcept decided
    apply Succeeds.pure
    cases state : journal.result.state with
    | restored => rfl
    | conflict => exact absurd state began
    | incomplete => exact absurd state incomplete

end

theorem resumable_of_inv (asked : Asked digest turn request)
    (inv : Inv digest turn True (some request) store) : Resumable digest turn request store := by
  intro env opportune
  obtain ⟨_, recovered, ⟨kept, unmarked⟩, isRecovered⟩ :=
    succeeds_iff.1 (succeeds_recover opportune inv)
  obtain ⟨result, after, restored, returned⟩ :=
    succeeds_iff.1 (succeeds_restoreAgentTurn opportune asked kept unmarked)
  exact ⟨preflight_of_inv opportune inv, recovered, isRecovered,
    preflight_of_inv opportune kept, result, after, returned, restored⟩

end Resume

end Wts.TurnRestore
