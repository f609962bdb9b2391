/-
Module: Wts.Proofs.TurnRestoreJournal
Purpose: The invariant of the records of a restore, and what saving a journal, writing a file,
  closing a restore and recovering one do to it, wherever they are cut off.
Trusted boundary: none
Main exports: Savable, ends_recover
-/
import Wts.App.TurnRestore
import Wts.Proofs.FilePlan

namespace Wts.TurnRestore

open Checkpoint Interrupt List
open Integration (AgentTurnCheckpoint)

/-! ### Ready turns -/

def changedFile (before : WorktreeCheckpointCapture) (path : String) : AgentTurnChangedFile where
  filePath := path
  beforeSha256 := (before.stateAt path).map FileState.sha256

/-- A finished turn, with the captures before and after it. -/
structure ReadyTurn where
  receipt : AgentTurnChanges
  target : String
  targetIdentity : String
  before : TakenCapture
  after : TakenCapture
  beforeCheckpoint : AgentTurnCheckpoint
  afterCheckpoint : AgentTurnCheckpoint
  state : receipt.state = .ready
  observation : receipt.observation = .normal
  receiptBefore : receipt.before = some beforeCheckpoint
  receiptAfter : receipt.after = some afterCheckpoint
  sameCheckpoints : beforeCheckpoint.headCommitOid = afterCheckpoint.headCommitOid ∧
    beforeCheckpoint.branchName = afterCheckpoint.branchName ∧
    beforeCheckpoint.indexSha256 = afterCheckpoint.indexSha256
  beforeComplete : before.complete
  afterComplete : after.complete
  sameGit : before.toWorktreeCheckpointCapture.sameGit after.toWorktreeCheckpointCapture
  files : receipt.files = (changedPaths before.toWorktreeCheckpointCapture
    after.toWorktreeCheckpointCapture).map (changedFile before.toWorktreeCheckpointCapture)

namespace ReadyTurn

def stored (turn : ReadyTurn) : StoredTurn where
  receipt := turn.receipt
  target := turn.target
  targetIdentity := turn.targetIdentity
  before := some turn.before
  after := some turn.after

theorem paths_actions (turn : ReadyTurn) :
    (actions turn.receipt).map AgentTurnRestoreFile.filePath =
      changedPaths turn.before.toWorktreeCheckpointCapture
        turn.after.toWorktreeCheckpointCapture := by
  unfold actions
  rw [turn.files, map_map, map_map]
  exact map_id _

/-- A restore goes from the state after the turn to the one before it. -/
def plan (turn : ReadyTurn) : FilePlan AgentTurnRestoreFile where
  start := turn.after
  goal := turn.before
  identity := turn.targetIdentity
  path := AgentTurnRestoreFile.filePath
  files := actions turn.receipt
  startComplete := turn.afterComplete
  goalComplete := turn.beforeComplete
  uniquePaths := by
    rw [turn.paths_actions]
    exact nodup_changedPaths _ _
  changed := by
    intro name
    rw [turn.paths_actions, mem_changedPaths]
    exact ne_comm

end ReadyTurn

def RestoreJournal.withFiles (journal : RestoreJournal) (files : List AgentTurnRestoreFile) :
    RestoreJournal :=
  { journal with result := { journal.result with files := files } }

theorem foldl_restoreFile (turn : ReadyTurn) (current : WorktreeCheckpointCapture)
    (files : List AgentTurnRestoreFile) (journal : RestoreJournal)
    (expected : WorktreeCheckpointCapture) :
    files.foldl (restoreFile turn.before.toWorktreeCheckpointCapture current) (journal, expected) =
      (journal.withFiles (files.foldl (turn.plan.creditFile current journal.pendingFile)
          (journal.result.files, expected)).1,
        (files.foldl (turn.plan.creditFile current journal.pendingFile)
          (journal.result.files, expected)).2) := by
  induction files generalizing journal expected with
  | nil => rfl
  | cons file rest ih =>
    rw [foldl_cons, foldl_cons]
    by_cases credits : turn.plan.Credits current journal.result.files journal.pendingFile file
    · have step : restoreFile turn.before.toWorktreeCheckpointCapture current (journal, expected)
          file = (journal.withFiles (FilePlan.confirm journal.result.files file),
            expected.override file.filePath turn.before.files[file.filePath]?) := by
        have confirmed : journal.confirm file =
            journal.withFiles (FilePlan.confirm journal.result.files file) := by
          unfold RestoreJournal.confirm FilePlan.confirm
          split
          · rfl
          rfl
        rw [← confirmed]
        exact if_pos credits
      have inPlan : turn.plan.creditFile current journal.pendingFile
          (journal.result.files, expected) file =
          (FilePlan.confirm journal.result.files file,
            expected.override file.filePath turn.before.files[file.filePath]?) := if_pos credits
      rw [step, inPlan, ih]
      rfl
    have step : restoreFile turn.before.toWorktreeCheckpointCapture current (journal, expected)
        file = (journal, expected) := if_neg credits
    have inPlan : turn.plan.creditFile current journal.pendingFile
        (journal.result.files, expected) file = (journal.result.files, expected) :=
      if_neg credits
    rw [step, inPlan, ih]

theorem mixedExpectedState_eq (turn : ReadyTurn) (journal : RestoreJournal)
    (current : WorktreeCheckpointCapture) : mixedExpectedState turn.stored journal current =
      .ok (journal.withFiles
          (turn.plan.expectedFrom current journal.result.files journal.pendingFile).1,
        (turn.plan.expectedFrom current journal.result.files journal.pendingFile).2) :=
  congrArg Except.ok (foldl_restoreFile turn current (actions turn.receipt) journal
    turn.after.toWorktreeCheckpointCapture)

/-- What a note may say: a file of the receipt is written from its state after the task, and a journal
is saved as restored only while the worktree is as before the task. -/
def Justified (turn : ReadyTurn) : RestoreNote → Prop
  | .wrote path before _ =>
    before = turn.after.stateAt path ∧ ∃ file ∈ actions turn.receipt, file.filePath = path
  | .saved journal worktree =>
    journal.result.state = .restored →
      matchesCapture turn.before.toWorktreeCheckpointCapture worktree.contents

/-- Every note of the journal was justified when it was made. -/
def SoundNotes (turn : ReadyTurn) (notes : List RestoreNote) : Prop :=
  ∀ note ∈ notes, Justified turn note

theorem SoundNotes.append {turn : ReadyTurn} {notes : List RestoreNote}
    (sound : SoundNotes turn notes) {last : RestoreNote} (justified : Justified turn last) :
    SoundNotes turn (notes ++ [last]) := by
  intro note member
  rcases mem_append.1 member with old | new
  · exact sound note old
  rw [mem_singleton.1 new]
  exact justified

/-- A journal of the turn under its request id. -/
structure OwnJournal (digest : EffectInput → String) (turn : ReadyTurn) (id : Uuid)
    (journal : RestoreJournal) : Prop where
  key : journal.request.requestId = id
  conversation : journal.result.conversationId = turn.receipt.conversationId
  turnRequest : journal.result.requestId = turn.receipt.requestId
  restoreRequest : journal.result.restoreRequestId = id
  effect : journal.result.state ≠ .conflict → journal.request.effectDigest =
    effectDigest digest turn.receipt (actions turn.receipt)
  listed : ∀ file ∈ journal.result.files, file ∈ actions turn.receipt
  pending : ∀ file, journal.pendingFile = some file → file ∈ actions turn.receipt
  unfinished : journal.finished = false → journal.result.state = .incomplete

def ownMarker (turn : ReadyTurn) (id : Uuid) : PendingRestore where
  sessionId := turn.receipt.sessionId
  restoreRequestId := id
  workspaceId := turn.receipt.workspaceId

theorem ownMarker_inj {turn : ReadyTurn} {first second : Uuid}
    (same : ownMarker turn first = ownMarker turn second) : first = second :=
  congrArg PendingRestore.restoreRequestId same

/-- With a tracked request only its journal is looked at. -/
def Covers (track : Option AgentTurnRestoreRequest) (id : Uuid) : Prop :=
  ∀ request, track = some request → id = request.requestId

/-- A restore that began is marked, or it is finished and completed. -/
def Settled (turn : ReadyTurn) (store : RestoreStore) (id : Uuid) (journal : RestoreJournal) :
    Prop :=
  store.marker = some (ownMarker turn id) ∨
    (store.marker = none ∧ journal.finished = true ∧ store.completed = some journal.result)

/-- A store in which only one request was made and nothing was edited from outside. -/
structure Tracked (turn : ReadyTurn) (request : AgentTurnRestoreRequest) (store : RestoreStore) :
    Prop where
  fresh : store.journals request.requestId = none →
    store.marker = none ∧ store.completed = none ∧ turn.plan.Shows store.worktree []
  saved : ∀ journal, store.journals request.requestId = some journal →
    journal.request = request ∧ journal.result.state ≠ .conflict ∧
      turn.plan.Records store.worktree journal.result.files journal.pendingFile

section Invariant

variable (digest : EffectInput → String) (turn : ReadyTurn) (clean : Prop)
  (track : Option AgentTurnRestoreRequest)

structure Inv (store : RestoreStore) : Prop where
  notes : track = none → SoundNotes turn store.notes
  noted : track = none → ∀ id journal, store.journals id = some journal →
    ∃ worktree, .saved journal worktree ∈ store.notes
  own : ∀ id, Covers track id → ∀ journal, store.journals id = some journal →
    OwnJournal digest turn id journal
  marker : ∀ marker, store.marker = some marker →
    marker = ownMarker turn marker.restoreRequestId ∧ Covers track marker.restoreRequestId ∧
      ∃ journal, store.journals marker.restoreRequestId = some journal ∧
        journal.result.state ≠ .conflict
  completed : clean → track = none → ∀ result, store.completed = some result →
    ∃ journal, store.journals result.restoreRequestId = some journal ∧
      journal.result.state ≠ .conflict
  settled : clean → ∀ id, Covers track id → ∀ journal, store.journals id = some journal →
    journal.result.state ≠ .conflict → Settled turn store id journal
  tracked : ∀ request, track = some request → Tracked turn request store

/-- A journal in memory, of a restore that began, that can be saved to a marked store. -/
structure Savable (store : RestoreStore) (journal : RestoreJournal) : Prop where
  own : OwnJournal digest turn journal.request.requestId journal
  covers : Covers track journal.request.requestId
  began : journal.result.state ≠ .conflict
  final : journal.result.state = .restored →
    matchesCapture turn.before.toWorktreeCheckpointCapture store.worktree.contents
  tracked : ∀ request, track = some request → journal.request = request ∧
    turn.plan.Records store.worktree journal.result.files journal.pendingFile

/-- A journal in memory during the loop: what it confirms is what the worktree shows. -/
structure Working (store : RestoreStore) (journal : RestoreJournal) : Prop where
  own : OwnJournal digest turn journal.request.requestId journal
  covers : Covers track journal.request.requestId
  incomplete : journal.result.state = .incomplete
  shows : ∀ request, track = some request → journal.request = request ∧
    turn.plan.Shows store.worktree journal.result.files

end Invariant

def savedTo (store : RestoreStore) (journal : RestoreJournal) : RestoreStore :=
  { store with
    journals := Function.update store.journals journal.request.requestId (some journal)
    notes := store.notes ++ [.saved journal store.worktree] }

@[simp] theorem journals_savedTo_self (store : RestoreStore) (journal : RestoreJournal) :
    (savedTo store journal).journals journal.request.requestId = some journal :=
  Function.update_self _ _ _

theorem journals_savedTo_of_ne (store : RestoreStore) (journal : RestoreJournal) {id : Uuid}
    (other : id ≠ journal.request.requestId) :
    (savedTo store journal).journals id = store.journals id :=
  Function.update_of_ne other _ _

section Steps

variable {digest : EffectInput → String} {turn : ReadyTurn} {clean : Prop}
  {track : Option AgentTurnRestoreRequest} {store : RestoreStore} {journal : RestoreJournal}
  {fates : List Fate}

theorem Savable.noted (savable : Savable digest turn track store journal)
    (inv : Inv digest turn clean track store) (isAll : track = none) :
    SoundNotes turn (savedTo store journal).notes :=
  (inv.notes isAll).append savable.final

theorem noted_savedTo (noted : ∀ id journal, store.journals id = some journal →
      ∃ worktree, .saved journal worktree ∈ store.notes) :
    ∀ id other, (savedTo store journal).journals id = some other →
      ∃ worktree, .saved other worktree ∈ (savedTo store journal).notes := by
  intro id other saved
  by_cases here : id = journal.request.requestId
  · subst here
    rw [journals_savedTo_self] at saved
    cases saved
    exact ⟨store.worktree, mem_append_right _ (mem_singleton.2 rfl)⟩
  rw [journals_savedTo_of_ne store journal here] at saved
  obtain ⟨worktree, isNoted⟩ := noted id other saved
  exact ⟨worktree, mem_append_left _ isNoted⟩

theorem Savable.stays (savable : Savable digest turn track store journal) {id : Uuid}
    (began : ∃ other, store.journals id = some other ∧ other.result.state ≠ .conflict) :
    ∃ other, (savedTo store journal).journals id = some other ∧ other.result.state ≠ .conflict := by
  obtain ⟨other, saved, began⟩ := began
  by_cases here : id = journal.request.requestId
  · rw [here]
    exact ⟨journal, journals_savedTo_self store journal, savable.began⟩
  exact ⟨other, (journals_savedTo_of_ne store journal here).trans saved, began⟩

theorem Savable.saves_own (savable : Savable digest turn track store journal)
    (inv : Inv digest turn clean track store) (id : Uuid) (covers : Covers track id)
    (other : RestoreJournal) (saved : (savedTo store journal).journals id = some other) :
    OwnJournal digest turn id other := by
  by_cases here : id = journal.request.requestId
  · subst here
    rw [journals_savedTo_self] at saved
    cases saved
    exact savable.own
  rw [journals_savedTo_of_ne store journal here] at saved
  exact inv.own id covers other saved

theorem Savable.save (savable : Savable digest turn track store journal)
    (inv : Inv digest turn clean track store) (settled : clean → ∀ id, Covers track id → ∀ other,
      (savedTo store journal).journals id = some other → other.result.state ≠ .conflict →
        Settled turn (savedTo store journal) id other) :
    Inv digest turn clean track (savedTo store journal) where
  notes := savable.noted inv
  noted := fun isAll => noted_savedTo (inv.noted isAll)
  own := savable.saves_own inv
  marker := by
    intro marker same
    obtain ⟨own, covers, began⟩ := inv.marker marker same
    exact ⟨own, covers, savable.stays began⟩
  completed := fun isClean isAll result completed =>
    savable.stays (inv.completed isClean isAll result completed)
  settled := settled
  tracked := by
    intro request same
    have here := savable.covers request same
    obtain ⟨isRequest, records⟩ := savable.tracked request same
    constructor
    · intro none
      rw [← here, journals_savedTo_self] at none
      cases none
    intro other saved
    rw [← here, journals_savedTo_self] at saved
    cases saved
    exact ⟨isRequest, savable.began, records⟩

theorem Savable.saved (savable : Savable digest turn track store journal)
    (inv : Inv digest turn clean track store)
    (marked : store.marker = some (ownMarker turn journal.request.requestId)) :
    Inv digest turn clean track (savedTo store journal) := by
  apply savable.save inv
  intro isClean id covers other saved began
  by_cases here : id = journal.request.requestId
  · subst here
    exact .inl marked
  rw [journals_savedTo_of_ne store journal here] at saved
  rcases inv.settled isClean id covers other saved began with isMarked | ⟨unmarked, _⟩
  · exact .inl isMarked
  rw [unmarked] at marked
  cases marked

theorem Working.savable (working : Working digest turn track store journal) :
    Savable digest turn track store journal where
  __ := working
  began := by
    rw [working.incomplete]
    exact fun conflict => by cases conflict
  final := by
    rw [working.incomplete]
    exact fun restored => by cases restored
  tracked := by
    intro request same
    obtain ⟨isRequest, shows⟩ := working.shows request same
    exact ⟨isRequest, shows.records _⟩

theorem ends_saveJournal (inv : Inv digest turn clean track store)
    (savable : Savable digest turn track store journal)
    (marked : store.marker = some (ownMarker turn journal.request.requestId))
    {post : Unit → List Fate → RestoreStore → Prop}
    (holds : ∀ left, post () left (savedTo store journal)) :
    Ends (saveJournal journal.request.requestId journal) fates store post
      fun _ after => Inv digest turn clean track after := by
  apply Ends.change
  · exact holds
  · intro _
    exact inv
  intro _
  exact savable.saved inv marked

/-! ### Writing a file -/

theorem Working.afterSave (working : Working digest turn track store journal)
    (other : RestoreJournal) : Working digest turn track (savedTo store other) journal where
  __ := working

theorem Working.pending (working : Working digest turn track store journal)
    {file : AgentTurnRestoreFile} (listed : file ∈ actions turn.receipt) :
    Working digest turn track store { journal with pendingFile := some file } where
  own :=
    { working.own with
      key := rfl
      pending := by
        intro other same
        cases same
        exact listed }
  __ := working

def wroteFile (turn : ReadyTurn) (store : RestoreStore) (file : AgentTurnRestoreFile) :
    RestoreStore :=
  { store with
    worktree := store.worktree.withFile file.filePath (turn.before.stateAt file.filePath)
    notes := store.notes ++ [.wrote file.filePath (store.worktree.contents.stateAt file.filePath)
      (turn.before.stateAt file.filePath)] }

section Write

variable {file : AgentTurnRestoreFile}

theorem Inv.wrote (inv : Inv digest turn clean track store)
    (working : Working digest turn track store journal) (listed : file ∈ actions turn.receipt)
    (saved : store.journals journal.request.requestId = some journal)
    (pending : journal.pendingFile = some file)
    (before : store.worktree.contents.stateAt file.filePath = turn.after.stateAt file.filePath) :
    Inv digest turn clean track (wroteFile turn store file) where
  notes := fun isAll => (inv.notes isAll).append ⟨before, file, listed, rfl⟩
  noted := by
    intro isAll id other same
    obtain ⟨worktree, isNoted⟩ := inv.noted isAll id other same
    exact ⟨worktree, mem_append_left _ isNoted⟩
  __ := inv
  tracked := by
    intro request same
    have here := working.covers request same
    constructor
    · intro none
      rw [wroteFile, ← here, saved] at none
      cases none
    intro other isSaved
    rw [wroteFile, ← here, saved] at isSaved
    cases isSaved
    obtain ⟨isRequest, shows⟩ := working.shows request same
    refine ⟨isRequest, working.savable.began, ?_⟩
    refine ⟨journal.result.files ++ [file], shows.withFile file, ?_, ?_⟩
    · intro other member
      exact mem_append_left _ member
    intro other member
    rcases mem_append.1 member with old | last
    · exact .inl old
    rw [mem_singleton.1 last]
    exact .inr pending

theorem Working.wrote (working : Working digest turn track store journal)
    (listed : file ∈ actions turn.receipt) : Working digest turn track (wroteFile turn store file)
      { journal with
        result := { journal.result with files := journal.result.files ++ [file] }
        pendingFile := none } where
  own :=
    { working.own with
      key := rfl
      listed := by
        intro other member
        rcases mem_append.1 member with old | last
        · exact working.own.listed other old
        rw [mem_singleton.1 last]
        exact listed
      pending := fun other none => by cases none }
  __ := working
  shows := by
    intro request same
    obtain ⟨isRequest, shows⟩ := working.shows request same
    exact ⟨isRequest, shows.withFile file⟩

theorem Savable.ofSaved (inv : Inv digest turn clean track store)
    (saved : store.journals journal.request.requestId = some journal)
    (covers : Covers track journal.request.requestId)
    (incomplete : journal.result.state = .incomplete) :
    Savable digest turn track store journal where
  own := inv.own _ covers journal saved
  covers := covers
  began := by
    rw [incomplete]
    exact fun conflict => by cases conflict
  final := by
    rw [incomplete]
    exact fun restored => by cases restored
  tracked := by
    intro request same
    have isSaved : store.journals request.requestId = some journal := by
      rw [← covers request same]
      exact saved
    obtain ⟨isRequest, _, records⟩ := (inv.tracked request same).saved journal isSaved
    exact ⟨isRequest, records⟩

theorem ends_restore (inv : Inv digest turn clean track store)
    (working : Working digest turn track store journal) (listed : file ∈ actions turn.receipt)
    (saved : store.journals journal.request.requestId = some journal)
    (pending : journal.pendingFile = some file) : Ends (restoreWorktreeBytesChecked file.filePath
        (savedContent turn.before.toWorktreeCheckpointCapture file.filePath)
        ((turn.before.stateAt file.filePath).map FileState.mode)
        (turn.after.stateAt file.filePath) turn.targetIdentity) fates store
      (fun success _ after => Inv digest turn clean track after ∧
        after.journals journal.request.requestId = some journal ∧ after.marker = store.marker ∧
        (success = true → after = wroteFile turn store file))
      (fun _ after => Inv digest turn clean track after) := by
  apply Ends.bind_read
  apply Ends.ite
  · intro allowed
    have before : store.worktree.contents.stateAt file.filePath =
        turn.after.stateAt file.filePath := by
      simp only [writeAllowed, Bool.and_eq_true, decide_eq_true_eq] at allowed
      exact allowed.2
    have wrote := inv.wrote working listed saved pending before
    have state : writtenState (savedContent turn.before.toWorktreeCheckpointCapture file.filePath)
        ((turn.before.stateAt file.filePath).map FileState.mode) =
        turn.before.stateAt file.filePath := writtenState_saved _
    rw [state]
    apply Ends.tryChange
    · intro _
      exact ⟨wrote, saved, rfl, fun _ => rfl⟩
    · intro _
      exact ⟨inv, saved, rfl, fun no => by cases no⟩
    · intro _
      exact ⟨wrote, saved, rfl, fun no => by cases no⟩
    · exact inv
    exact wrote
  intro _
  exact .pure ⟨inv, saved, rfl, fun no => by cases no⟩

end Write

theorem OwnJournal.block {id : Uuid} (own : OwnJournal digest turn id journal)
    (blocker : AgentTurnRestoreBlocker) : OwnJournal digest turn id (journal.block blocker) where
  __ := own

theorem Savable.block (savable : Savable digest turn track store journal)
    (blocker : AgentTurnRestoreBlocker) :
    Savable digest turn track store (journal.block blocker) where
  own := savable.own.block blocker
  __ := savable

/-- The journal in memory at the end of the loop. -/
structure Applied (digest : EffectInput → String) (turn : ReadyTurn) (clean : Prop)
    (track : Option AgentTurnRestoreRequest) (request : AgentTurnRestoreRequest)
    (store : RestoreStore) (journal : RestoreJournal) : Prop where
  inv : Inv digest turn clean track store
  marked : store.marker = some (ownMarker turn journal.request.requestId)
  savable : Savable digest turn track store journal
  incomplete : journal.result.state = .incomplete
  request : journal.request = request

theorem Applied.block {request : AgentTurnRestoreRequest}
    (applied : Applied digest turn clean track request store journal)
    (blocker : AgentTurnRestoreBlocker) :
    Applied digest turn clean track request store (journal.block blocker) where
  __ := applied
  savable := applied.savable.block blocker

theorem ends_applyFiles (files : List AgentTurnRestoreFile)
    (listed : ∀ file ∈ files, file ∈ actions turn.receipt) (inv : Inv digest turn clean track store)
    (working : Working digest turn track store journal)
    (marked : store.marker = some (ownMarker turn journal.request.requestId)) :
    Ends (applyFiles turn.stored turn.before.toWorktreeCheckpointCapture
        turn.after.toWorktreeCheckpointCapture files journal) fates store
      (fun after _ store => Applied digest turn clean track journal.request store after)
      (fun _ after => Inv digest turn clean track after) := by
  induction files generalizing fates store journal with
  | nil => exact .pure ⟨inv, marked, working.savable, working.incomplete, rfl⟩
  | cons file rest ih =>
    have restListed : ∀ other ∈ rest, other ∈ actions turn.receipt := fun other member =>
      listed other (mem_cons_of_mem _ member)
    have here := listed file mem_cons_self
    rw [applyFiles]
    apply Ends.ite
    · intro _
      exact ih restListed inv working marked
    intro _
    have pending := working.pending here
    have saved := pending.savable.saved inv marked
    have stillWorking := pending.afterSave { journal with pendingFile := some file }
    apply Ends.bind
    apply ends_saveJournal inv pending.savable marked
    intro left
    apply Ends.bind
    apply Ends.mono (ends_restore saved stillWorking here (journals_savedTo_self store _) rfl)
    · intro success left after ⟨kept, isSaved, sameMarker, wrote⟩
      apply Ends.ite
      · intro yes
        -- The file is confirmed, and the loop goes on without a pending file.
        have confirmed := stillWorking.wrote here
        rw [wrote yes] at kept ⊢
        apply Ends.bind
        apply ends_saveJournal kept confirmed.savable marked
        intro left
        exact ih restListed (confirmed.savable.saved kept marked) (confirmed.afterSave _) marked
      intro _
      have blocked := Savable.ofSaved kept isSaved working.covers working.incomplete
      have applied : Applied digest turn clean track journal.request after
          { journal with pendingFile := some file } :=
        ⟨kept, sameMarker.trans marked, blocked, working.incomplete, rfl⟩
      exact .pure (applied.block _)
    exact fun _ _ holds => holds

/-! ### Closing a restore -/

theorem Savable.credited (savable : Savable digest turn track store journal)
    (incomplete : journal.result.state = .incomplete) :
    Working digest turn track store (journal.withFiles
      (turn.plan.expectedFrom store.worktree.contents journal.result.files
        journal.pendingFile).1) where
  own :=
    { savable.own with
      key := rfl
      listed := by
        intro file member
        rcases FilePlan.mem_expectedFrom.1 member with old | ⟨listed, _⟩
        · exact savable.own.listed file old
        exact listed }
  covers := savable.covers
  incomplete := incomplete
  shows := by
    intro request same
    obtain ⟨isRequest, records⟩ := savable.tracked request same
    exact ⟨isRequest, records.shows savable.own.listed savable.own.pending⟩

/-- The journal in memory after the check of the final state. -/
structure Checked (digest : EffectInput → String) (turn : ReadyTurn) (clean : Prop)
    (track : Option AgentTurnRestoreRequest) (request : AgentTurnRestoreRequest)
    (store : RestoreStore) (journal : RestoreJournal) : Prop where
  applied : Applied digest turn clean track request store journal
  final : journal.result.blockers = [] →
    matchesCapture turn.before.toWorktreeCheckpointCapture store.worktree.contents

theorem Applied.checked_block {request : AgentTurnRestoreRequest}
    (applied : Applied digest turn clean track request store journal)
    (blocker : AgentTurnRestoreBlocker) :
    Checked digest turn clean track request store (journal.block blocker) where
  applied := applied.block blocker
  final := fun none => absurd none (append_ne_nil_of_right_ne_nil _ (cons_ne_nil _ _))

theorem ends_checkFinalState {request : AgentTurnRestoreRequest}
    (applied : Applied digest turn clean track request store journal) :
    Ends (checkFinalState turn.stored turn.before.toWorktreeCheckpointCapture journal) fates store
      (fun checked _ after => Checked digest turn clean track request after checked)
      (fun _ after => Inv digest turn clean track after) := by
  apply Ends.ite
  · intro _
    apply Ends.bind_read
    split
    · exact .pure (applied.checked_block _)
    rename_i current seen
    have same : current = store.worktree.contents := (captureWorktreeCheckpoint_eq_some.1 seen).2
    apply Ends.ite
    · intro matching
      rw [same] at matching
      apply Ends.bind_ofExcept
      · intro error _
        exact applied.inv
      intro identity _
      apply Ends.pure
      split
      · exact applied.checked_block _
      exact ⟨applied, fun _ => matching⟩
    intro _
    exact .pure (applied.checked_block _)
  intro blocked
  exact .pure ⟨applied, fun none => absurd none blocked⟩

theorem Checked.close {request : AgentTurnRestoreRequest}
    (checked : Checked digest turn clean track request store journal) (clock : Int64) :
    Savable digest turn track store (closeJournal clock journal) := by
  have savable := checked.applied.savable
  have incomplete := checked.applied.incomplete
  unfold closeJournal
  split
  · rename_i unblocked
    exact
      { own :=
          { savable.own with
            key := rfl
            effect := fun _ => savable.own.effect savable.began
            unfinished := fun unfinished => by cases unfinished }
        covers := savable.covers
        began := fun conflict => by cases conflict
        final := fun _ => checked.final unblocked
        tracked := savable.tracked }
  exact
    { own :=
        { savable.own with
          key := rfl
          effect := fun _ => savable.own.effect savable.began
          unfinished := fun unfinished => by cases unfinished }
      covers := savable.covers
      began := fun conflict => by cases conflict
      final := fun restored => by cases restored
      tracked := savable.tracked }

theorem finished_closeJournal (clock : Int64) (journal : RestoreJournal) :
    (closeJournal clock journal).finished = true := by
  unfold closeJournal
  split
  · rfl
  rfl

theorem request_closeJournal (clock : Int64) (journal : RestoreJournal) :
    (closeJournal clock journal).request = journal.request := by
  unfold closeJournal
  split
  · rfl
  rfl

theorem Inv.complete (inv : Inv digest turn clean track store)
    (own : OwnJournal digest turn journal.request.requestId journal)
    (saved : store.journals journal.request.requestId = some journal)
    (began : journal.result.state ≠ .conflict)
    (marked : store.marker = some (ownMarker turn journal.request.requestId)) :
    Inv digest turn clean track { store with completed := some journal.result } where
  __ := inv
  completed := by
    intro _ _ result same
    cases same
    rw [own.restoreRequest]
    exact ⟨journal, saved, began⟩
  settled := by
    intro isClean id covers other same otherBegan
    rcases inv.settled isClean id covers other same otherBegan with isMarked | ⟨unmarked, _⟩
    · exact .inl isMarked
    rw [unmarked] at marked
    cases marked
  tracked := by
    intro request same
    have kept := inv.tracked request same
    constructor
    · intro none
      have unmarked := (kept.fresh none).1
      rw [unmarked] at marked
      cases marked
    exact kept.saved

theorem Inv.unmark (inv : Inv digest turn clean track store)
    (saved : store.journals journal.request.requestId = some journal)
    (finished : journal.finished = true) (completed : store.completed = some journal.result)
    (marked : store.marker = some (ownMarker turn journal.request.requestId)) :
    Inv digest turn clean track { store with marker := none } where
  __ := inv
  marker := fun marker none => by cases none
  settled := by
    intro isClean id covers other same otherBegan
    rcases inv.settled isClean id covers other same otherBegan with isMarked | ⟨unmarked, _⟩
    · have here : id = journal.request.requestId :=
        ownMarker_inj (Option.some.inj (isMarked.symm.trans marked))
      subst here
      have isJournal : other = journal := Option.some.inj (same.symm.trans saved)
      subst isJournal
      exact .inr ⟨rfl, finished, completed⟩
    rw [unmarked] at marked
    cases marked
  tracked := by
    intro request same
    have kept := inv.tracked request same
    constructor
    · intro none
      have unmarked := (kept.fresh none).1
      rw [unmarked] at marked
      cases marked
    exact kept.saved

/-- A restore at rest: its journal is finished and completed, and no marker stands. -/
structure Rests (digest : EffectInput → String) (turn : ReadyTurn) (clean : Prop)
    (track : Option AgentTurnRestoreRequest) (store : RestoreStore) (journal : RestoreJournal) :
    Prop where
  inv : Inv digest turn clean track store
  saved : store.journals journal.request.requestId = some journal
  finished : journal.finished = true
  completed : store.completed = some journal.result
  unmarked : store.marker = none

theorem ends_close {α : Type} {result : α} (inv : Inv digest turn clean track store)
    (own : OwnJournal digest turn journal.request.requestId journal)
    (saved : store.journals journal.request.requestId = some journal)
    (began : journal.result.state ≠ .conflict) (finished : journal.finished = true)
    (marked : store.marker = some (ownMarker turn journal.request.requestId)) :
    Ends (do
        saveCompleted journal.result
        removeMarker
        return result) fates store
      (fun returned _ after => returned = result ∧ Rests digest turn clean track after journal)
      (fun _ after => Inv digest turn clean track after) := by
  have completed := inv.complete own saved began marked
  have unmarked := completed.unmark saved finished rfl marked
  apply Ends.bind_change
  · intro _
    exact inv
  · intro _
    exact completed
  intro left
  apply Ends.bind_change
  · intro _
    exact completed
  · intro _
    exact unmarked
  intro left
  exact .pure ⟨rfl, unmarked, saved, finished, rfl, rfl⟩

theorem ends_applyExpected (env : ApplyEnv) (expected current : WorktreeCheckpointCapture)
    (inv : Inv digest turn clean track store) (working : Working digest turn track store journal)
    (marked : store.marker = some (ownMarker turn journal.request.requestId)) :
    Ends (applyExpected turn.stored env turn.before.toWorktreeCheckpointCapture
        turn.after.toWorktreeCheckpointCapture journal expected current) fates store
      (fun after _ store => Applied digest turn clean track journal.request store after)
      (fun _ after => Inv digest turn clean track after) := by
  have applied : Applied digest turn clean track journal.request store journal :=
    ⟨inv, marked, working.savable, working.incomplete, rfl⟩
  apply Ends.bind_read
  apply Ends.bind_ofExcept
  · intro error _
    exact inv
  intro identity _
  apply Ends.ite
  · intro _
    exact .pure (applied.block _)
  intro _
  refine Ends.guard inv fun _ => ?_
  exact ends_applyFiles _ (fun _ member => member) inv working marked

theorem ends_applyRestore (env : ApplyEnv) (inv : Inv digest turn clean track store)
    (savable : Savable digest turn track store journal)
    (incomplete : journal.result.state = .incomplete)
    (marked : store.marker = some (ownMarker turn journal.request.requestId)) :
    Ends (applyRestore turn.stored env journal) fates store
      (fun closed _ after => Rests digest turn clean track after closed ∧
        closed.request = journal.request) (fun _ after => Inv digest turn clean track after) := by
  apply Ends.bind_read
  split
  · exact .fail inv
  rename_i current seen
  have same : current = store.worktree.contents := (captureWorktreeCheckpoint_eq_some.1 seen).2
  subst same
  have working := savable.credited incomplete
  rw [mixedExpectedState_eq]
  apply Ends.bind_ofExcept
  · exact fun error none => by cases none
  intro pair isPair
  cases isPair
  apply Ends.bind_mono (ends_applyExpected env _ _ inv working marked)
  · exact fun _ _ holds => holds
  intro applied left after isApplied
  apply Ends.bind_mono (ends_checkFinalState isApplied)
  · exact fun _ _ holds => holds
  intro checked left later isChecked
  have closed := isChecked.close env.clock
  have stillMarked : later.marker =
      some (ownMarker turn (closeJournal env.clock checked).request.requestId) := by
    rw [request_closeJournal]
    exact isChecked.applied.marked
  have saved := closed.saved isChecked.applied.inv stillMarked
  apply Ends.bind
  apply ends_saveJournal isChecked.applied.inv closed stillMarked
  intro left
  apply Ends.mono (ends_close saved closed.own (journals_savedTo_self later _) closed.began
    (finished_closeJournal _ _) stillMarked)
  · intro returned left last ⟨isClosed, rests⟩
    rw [isClosed]
    refine ⟨rests, ?_⟩
    rw [request_closeJournal, isChecked.applied.request]
    rfl
  exact fun _ _ holds => holds

/-- The write may have been cut off on its way. -/
def torn : List Fate → Bool
  | .uncertain :: _ => true
  | .cutAfter :: _ => true
  | .done :: .refused :: _ => true
  | .done :: .cutBefore :: _ => true
  | _ => false

def markedStore (turn : ReadyTurn) (store : RestoreStore) (journal : RestoreJournal) :
    RestoreStore :=
  { savedTo store journal with marker := some (ownMarker turn journal.request.requestId) }

/-- No other restore began. -/
def Sole (track : Option AgentTurnRestoreRequest) (store : RestoreStore) (id : Uuid) : Prop :=
  ∀ other, Covers track other → ∀ journal, store.journals other = some journal →
    journal.result.state ≠ .conflict → other = id

theorem Savable.marked (savable : Savable digest turn track store journal)
    (inv : Inv digest turn clean track store)
    (sole : clean → Sole track store journal.request.requestId) :
    Inv digest turn clean track (markedStore turn store journal) where
  notes := savable.noted inv
  noted := fun isAll => noted_savedTo (inv.noted isAll)
  own := fun id covers other saved => savable.saves_own inv id covers other saved
  marker := by
    intro marker same
    cases same
    exact ⟨rfl, savable.covers, journal, journals_savedTo_self store journal, savable.began⟩
  completed := fun isClean isAll result completed =>
    savable.stays (inv.completed isClean isAll result completed)
  settled := by
    intro isClean id covers other saved began
    by_cases here : id = journal.request.requestId
    · rw [here]
      exact .inl rfl
    rw [markedStore, journals_savedTo_of_ne store journal here] at saved
    exact absurd (sole isClean id covers other saved began) here
  tracked := by
    intro request same
    have here := savable.covers request same
    obtain ⟨isRequest, records⟩ := savable.tracked request same
    constructor
    · intro none
      rw [markedStore, ← here, journals_savedTo_self] at none
      cases none
    intro other saved
    rw [markedStore, ← here, journals_savedTo_self] at saved
    cases saved
    exact ⟨isRequest, savable.began, records⟩

theorem ends_runJournal (env : RequestEnv) (inv : Inv digest turn clean track store)
    (savable : Savable digest turn track store journal)
    (incomplete : journal.result.state = .incomplete)
    (sole : clean → Sole track store journal.request.requestId)
    (whole : clean → torn fates = false) : Ends (runJournal turn.stored env journal) fates store
      (fun result _ after => ∃ closed, Rests digest turn clean track after closed ∧
        closed.request = journal.request ∧ closed.result = result)
      (fun _ after => Inv digest turn clean track after) := by
  have marked := savable.marked inv sole
  have isSavable : Savable digest turn track (markedStore turn store journal) journal :=
    ⟨savable.own, savable.covers, savable.began, savable.final, savable.tracked⟩
  have tornStore (isTorn : torn fates = true) :
      Inv digest turn clean track (savedTo store journal) := by
    apply savable.save inv
    intro isClean
    rw [whole isClean] at isTorn
    cases isTorn
  apply Ends.bind
  apply Ends.change_of_fate
  · intro left begins
    apply Ends.bind
    apply Ends.change_of_fate
    · intro later _
      apply Ends.bind_mono (ends_applyRestore env.toApplyEnv marked isSavable incomplete rfl)
      · exact fun _ _ holds => holds
      intro closed rest after ⟨rests, request⟩
      exact .pure ⟨closed, rests, request, rfl⟩
    · intro later stops _
      apply tornStore
      rcases begins with ⟨_, none⟩ | done
      · rw [none] at stops
        rcases stops with refused | cut
        · cases refused
        cases cut
      rcases stops with refused | cut
      · rw [done, refused]
        rfl
      rw [done, cut]
      rfl
    intro _ _ _
    exact marked
  · intro _ _ _
    exact inv
  intro left stops _
  apply tornStore
  rcases stops with uncertain | cut
  · rw [uncertain]
    rfl
  rw [cut]
  rfl

theorem ends_recoverJournal {marker : PendingRestore} (env : RecoverEnv)
    (inv : Inv digest turn clean track store) (own : marker = ownMarker turn marker.restoreRequestId)
    (covers : Covers track marker.restoreRequestId)
    (saved : store.journals marker.restoreRequestId = some journal)
    (began : journal.result.state ≠ .conflict) (marked : store.marker = some marker) :
    Ends (if ¬(journalAgrees turn.stored digest marker.restoreRequestId journal ∧
          env.conversationAgrees) then
        Proc.fail .agentConversationUnavailable
      else if journal.finished then do
        saveCompleted journal.result
        removeMarker
      else do
        let _ ← applyRestore turn.stored env.toApplyEnv journal
        return () : RestoreProc Unit) fates store
      (fun _ _ after => Inv digest turn clean track after)
      (fun _ after => Inv digest turn clean track after) := by
  have isOwn := inv.own _ covers journal saved
  have key := isOwn.key
  rw [own, ← key] at marked
  rw [← key] at saved covers isOwn
  refine Ends.guard inv fun _ => ?_
  apply Ends.ite
  · intro finished
    have completed := inv.complete isOwn saved began marked
    have unmarked := completed.unmark saved finished rfl marked
    apply Ends.bind_change
    · exact fun _ => inv
    · exact fun _ => completed
    intro left
    apply Ends.change
    · exact fun _ => unmarked
    · exact fun _ => completed
    exact fun _ => unmarked
  intro unfinished
  have incomplete := isOwn.unfinished (Bool.eq_false_of_not_eq_true unfinished)
  have savable := Savable.ofSaved inv saved covers incomplete
  apply Ends.bind_mono (ends_applyRestore env.toApplyEnv inv savable incomplete marked)
  · exact fun _ _ holds => holds
  intro closed left after ⟨rests, _⟩
  exact .pure rests.inv

theorem ends_recover (env : RecoverEnv) (inv : Inv digest turn clean track store) :
    Ends (recoverPendingWorkspace turn.stored digest env) fates store
      (fun _ _ after => Inv digest turn clean track after)
      (fun _ after => Inv digest turn clean track after) := by
  apply Ends.bind_read
  split
  · exact .pure inv
  rename_i marker marked
  obtain ⟨own, covers, saved, isSaved, began⟩ := inv.marker marker marked
  split
  · exact .pure inv
  · exact .fail inv
  refine Ends.guard inv fun _ => ?_
  apply Ends.bind_ofExcept
  · intro _ _
    exact inv
  intro _ _
  apply Ends.bind_ofExcept
  · intro _ _
    exact inv
  intro _ _
  refine Ends.guard inv fun _ => ?_
  split
  · exact .pure inv
  · exact .fail inv
  apply Ends.bind_ofExcept
  · intro _ _
    exact inv
  intro journal read
  have same : store.journals marker.restoreRequestId = some journal := by
    unfold readJournal at read
    split at read
    · rename_i found
      cases read
      exact found
    cases read
  have isJournal : saved = journal := Option.some.inj (isSaved.symm.trans same)
  subst isJournal
  exact ends_recoverJournal env inv own covers isSaved began marked

end Steps

end Wts.TurnRestore
