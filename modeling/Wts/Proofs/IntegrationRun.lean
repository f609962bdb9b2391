/-
Module: Wts.Proofs.IntegrationRun
Purpose: The invariant of the store of an integration.
Trusted boundary: none
Main exports: Savable, Accepted
-/
import Wts.Proofs.IntegrationJournal

namespace Wts.Integration

open Checkpoint Interrupt List Option

/-- The worktree is the baseline, with some files as the candidate has them. -/
structure Shows (item : TrustedAgentWorkItem) (worktree : Worktree)
    (credited : List AgentWorkItemIntegrationFile) : Prop where
  identity : worktree.identity = some item.source.expectedTargetIdentity
  git : worktree.gitAnswers = true
  complete : worktree.contents.complete
  sameGit : worktree.contents.sameGit item.baseline.toWorktreeCheckpointCapture
  stateAt : ∀ path, worktree.contents.stateAt path =
    if ∃ file ∈ credited, file.filePath = path then item.result.stateAt path
    else item.baseline.stateAt path

/-- A journal tells which files the worktree shows, up to its pending file. -/
def Records (item : TrustedAgentWorkItem) (worktree : Worktree) (journal : IntegrationJournal) :
    Prop :=
  ∃ credited, Shows item worktree credited ∧
    (∀ file ∈ journal.result.files, file ∈ credited) ∧
    ∀ file ∈ credited, file ∈ journal.result.files ∨ journal.pendingFile = some file

/-- A store in which only one request was made and nothing was edited from outside. -/
structure Tracked (item : TrustedAgentWorkItem) (request : IntegrateAgentWorkItemRequest)
    (store : IntegrationStore) : Prop where
  fresh : store.journal = none → Shows item store.worktree []
  saved : ∀ journal, store.journal = some journal →
    journal.request = request ∧ Records item store.worktree journal

def ownMarker (item : TrustedAgentWorkItem) (requestId : Uuid) : PendingIntegration where
  workSetId := item.workSetId
  taskId := item.taskId
  workspaceId := item.source.receipt.workspaceId
  requestId := requestId

section Invariant

variable (digest : EffectInput → String) (item : TrustedAgentWorkItem) (clean : Prop)
  (track : Option IntegrateAgentWorkItemRequest)

structure Inv (store : IntegrationStore) : Prop where
  notes : SoundNotes item store.notes
  own : ∀ journal, store.journal = some journal → OwnJournal digest item journal
  seen : ∀ journal, store.journal = some journal →
    ∀ file ∈ journal.result.files, Seen item store.notes file
  settled : clean → ∀ journal, store.journal = some journal →
    journal.result.state = .integrated → journal.pendingFile = none
  marker : ∀ marker, store.marker = some marker →
    ∃ journal, store.journal = some journal ∧ marker = ownMarker item journal.request.requestId
  tracked : ∀ request, track = some request → Tracked item request store

/-- A journal in memory that can be saved to a store. -/
structure Savable (store : IntegrationStore) (journal : IntegrationJournal) : Prop where
  own : OwnJournal digest item journal
  seen : ∀ file ∈ journal.result.files, Seen item store.notes file
  final : journal.result.state = .integrated →
    matchesCapture (finalExpected item (listedFiles item)) store.worktree.contents
  settled : clean → journal.result.state = .integrated → journal.pendingFile = none
  marker : ∀ marker, store.marker = some marker →
    marker = ownMarker item journal.request.requestId
  tracked : ∀ request, track = some request →
    journal.request = request ∧ Records item store.worktree journal

end Invariant

/-- The next attempt would credit every listed file by what it sees, while one is still pending: its
loop would not clear the pending file. -/
def Stuck (item : TrustedAgentWorkItem) (store : IntegrationStore) : Prop :=
  ∃ journal, store.journal = some journal ∧ journal.pendingFile ≠ none ∧
    ∀ file ∈ listedFiles item, Credits item store.worktree.contents journal file

section Steps

variable {digest : EffectInput → String} {item : TrustedAgentWorkItem} {clean : Prop}
  {track : Option IntegrateAgentWorkItemRequest} {store : IntegrationStore}
  {journal : IntegrationJournal} {fates : List Fate}

theorem Inv.noted (inv : Inv digest item clean track store) {note : IntegrationNote}
    (justified : Justified item store.notes note) :
    Inv digest item clean track { store with notes := store.notes ++ [note] } where
  notes := inv.notes.append justified
  __ := inv
  seen := fun journal saved file member => (inv.seen journal saved file member).append [note]
  tracked := fun request same => ⟨(inv.tracked request same).fresh, (inv.tracked request same).saved⟩

theorem Savable.noted (savable : Savable digest item clean track store journal)
    (note : IntegrationNote) :
    Savable digest item clean track { store with notes := store.notes ++ [note] } journal where
  __ := savable
  seen := fun file member => (savable.seen file member).append [note]

def captured (store : IntegrationStore) : IntegrationStore :=
  { store with notes := store.notes ++ [.captured store.worktree.contents] }

theorem Inv.captured (inv : Inv digest item clean track store) :
    Inv digest item clean track (captured store) :=
  inv.noted trivial

theorem Savable.captured (savable : Savable digest item clean track store journal) :
    Savable digest item clean track (captured store) journal :=
  savable.noted _

theorem ends_capture {post : Option WorktreeCheckpointCapture → List Fate → IntegrationStore → Prop}
    {stop : Option LocalWtsError → IntegrationStore → Prop}
    (holds : post (captureWorktreeCheckpoint store.worktree) fates (captured store)) :
    Ends capture fates store post stop := by
  apply Ends.bind_read
  apply Ends.bind_note
  exact .pure holds

def savedTo (store : IntegrationStore) (journal : IntegrationJournal) : IntegrationStore :=
  { store with
    journal := some journal
    notes := store.notes ++ [.saved journal store.worktree] }

theorem Savable.saved (savable : Savable digest item clean track store journal)
    (inv : Inv digest item clean track store) :
    Inv digest item clean track (savedTo store journal) where
  notes := inv.notes.append ⟨savable.seen, savable.final⟩
  own := by
    intro other same
    cases same
    exact savable.own
  seen := by
    intro other same file member
    cases same
    exact (savable.seen file member).append _
  settled := by
    intro isClean other same
    cases same
    exact savable.settled isClean
  marker := fun marker same => ⟨journal, rfl, savable.marker marker same⟩
  tracked := by
    intro request same
    constructor
    · intro none
      cases none
    intro other isSaved
    cases isSaved
    exact savable.tracked request same

theorem Savable.afterSave (savable : Savable digest item clean track store journal) :
    Savable digest item clean track (savedTo store journal) journal where
  __ := savable
  seen := fun file member => (savable.seen file member).append _

theorem ends_saveJournal (inv : Inv digest item clean track store)
    (savable : Savable digest item clean track store journal)
    {post : Unit → List Fate → IntegrationStore → Prop}
    (holds : ∀ left, post () left (savedTo store journal)) :
    Ends (saveJournal journal) fates store post
      fun _ after => Inv digest item clean track after := by
  apply Ends.change
  · exact holds
  · intro _
    exact inv
  intro _
  exact savable.saved inv

/-! ### Writing a file -/

/-- A journal in memory during the loop: what it confirms is what the worktree shows. -/
structure Working (digest : EffectInput → String) (item : TrustedAgentWorkItem)
    (track : Option IntegrateAgentWorkItemRequest) (store : IntegrationStore)
    (journal : IntegrationJournal) : Prop where
  own : OwnJournal digest item journal
  seen : ∀ file ∈ journal.result.files, Seen item store.notes file
  unfinished : journal.result.state ≠ .integrated
  marker : ∀ marker, store.marker = some marker →
    marker = ownMarker item journal.request.requestId
  shows : ∀ request, track = some request →
    journal.request = request ∧ Shows item store.worktree journal.result.files

variable {worktree : Worktree}

theorem Shows.records (shows : Shows item worktree journal.result.files) :
    Records item worktree journal :=
  ⟨journal.result.files, shows, fun _ member => member, fun _ member => .inl member⟩

theorem Working.savable (working : Working digest item track store journal) :
    Savable digest item clean track store journal where
  __ := working
  final := fun integrated => absurd integrated working.unfinished
  settled := fun _ integrated => absurd integrated working.unfinished
  tracked := by
    intro request same
    obtain ⟨isRequest, shows⟩ := working.shows request same
    exact ⟨isRequest, shows.records⟩

theorem Working.afterSave (working : Working digest item track store journal)
    (other : IntegrationJournal) : Working digest item track (savedTo store other) journal where
  __ := working
  seen := fun file member => (working.seen file member).append _

variable {file : AgentWorkItemIntegrationFile}

theorem Working.pending (working : Working digest item track store journal)
    (listed : file ∈ listedFiles item) :
    Working digest item track store { journal with pendingFile := some file } where
  own :=
    { names := working.own.names.update _ _ _ _ _ _ _
      progress :=
        { working.own.progress with
          pending := by
            intro other same
            cases same
            exact listed
          integrated := working.own.progress.integrated } }
  __ := working

theorem NamesItem.shows_iff {credited : List AgentWorkItemIntegrationFile}
    (names : NamesItem digest item journal) :
    Shows item worktree credited ↔ names.plan.Shows worktree credited :=
  ⟨fun shows => { shows with }, fun shows => { shows with }⟩

theorem NamesItem.withFile {credited : List AgentWorkItemIntegrationFile}
    (names : NamesItem digest item journal) (shows : Shows item worktree credited)
    (file : AgentWorkItemIntegrationFile) :
    Shows item (worktree.withFile file.filePath (item.result.stateAt file.filePath))
      (credited ++ [file]) :=
  names.shows_iff.2 ((names.shows_iff.1 shows).withFile file)

theorem writtenState_saved (capture : WorktreeCheckpointCapture) (path : String) :
    writtenState (savedContent capture path) ((capture.stateAt path).map FileState.mode) =
      capture.stateAt path := by
  unfold savedContent writtenState
  cases capture.stateAt path <;> rfl

def wroteFile (item : TrustedAgentWorkItem) (store : IntegrationStore)
    (file : AgentWorkItemIntegrationFile) : IntegrationStore :=
  { store with
    worktree := store.worktree.withFile file.filePath (item.result.stateAt file.filePath)
    notes := store.notes ++ [.wrote file.filePath (store.worktree.contents.stateAt file.filePath)
      (item.result.stateAt file.filePath)] }

section Write

variable {file : AgentWorkItemIntegrationFile}

theorem Inv.wrote (inv : Inv digest item clean track store)
    (working : Working digest item track store journal) (listed : file ∈ listedFiles item)
    (saved : store.journal = some journal) (pending : journal.pendingFile = some file)
    (before : store.worktree.contents.stateAt file.filePath = item.baseline.stateAt file.filePath) :
    Inv digest item clean track (wroteFile item store file) where
  notes := inv.notes.append ⟨before, file, listed, rfl⟩
  __ := inv
  seen := fun other same member inFiles => (inv.seen other same member inFiles).append _
  tracked := by
    intro request same
    constructor
    · intro none
      rw [wroteFile, saved] at none
      cases none
    intro other isSaved
    rw [wroteFile, saved] at isSaved
    cases isSaved
    obtain ⟨isRequest, shows⟩ := working.shows request same
    refine ⟨isRequest, journal.result.files ++ [file],
      working.own.names.withFile shows file, ?_, ?_⟩
    · intro other member
      exact mem_append_left _ member
    intro other member
    rcases mem_append.1 member with old | last
    · exact .inl old
    rw [mem_singleton.1 last]
    exact .inr pending

theorem Working.wrote (working : Working digest item track store journal)
    (listed : file ∈ listedFiles item) (fresh : file ∉ journal.result.files) :
    Working digest item track (wroteFile item store file) { journal with
        result := { journal.result with files := journal.result.files ++ [file] }
        pendingFile := none } where
  own :=
    { names := working.own.names.update _ _ _ _ _ _ _
      progress :=
        { listed := by
            intro other member
            rcases mem_append.1 member with old | last
            · exact working.own.progress.listed other old
            rw [mem_singleton.1 last]
            exact listed
          nodup := List.Nodup.append working.own.progress.nodup (nodup_singleton file)
            (by simpa using fresh)
          pending := fun other none => by cases none
          integrated := fun integrated => absurd integrated working.unfinished } }
  seen := by
    intro other member
    rcases mem_append.1 member with old | last
    · exact (working.seen other old).append _
    rw [mem_singleton.1 last]
    exact .inr ⟨_, mem_append_right _ (mem_singleton.2 rfl)⟩
  __ := working
  shows := by
    intro request same
    obtain ⟨isRequest, shows⟩ := working.shows request same
    exact ⟨isRequest, working.own.names.withFile shows file⟩

theorem Savable.ofSaved (inv : Inv digest item clean track store)
    (saved : store.journal = some journal) (unfinished : journal.result.state ≠ .integrated) :
    Savable digest item clean track store journal where
  own := inv.own journal saved
  seen := inv.seen journal saved
  final := fun integrated => absurd integrated unfinished
  settled := fun _ integrated => absurd integrated unfinished
  marker := by
    intro marker same
    obtain ⟨other, isSaved, own⟩ := inv.marker marker same
    rw [saved] at isSaved
    cases isSaved
    exact own
  tracked := fun request same => (inv.tracked request same).saved journal saved

theorem ends_restore (inv : Inv digest item clean track store)
    (working : Working digest item track store journal) (listed : file ∈ listedFiles item)
    (saved : store.journal = some journal) (pending : journal.pendingFile = some file) :
    Ends (restoreWorktreeBytesChecked file.filePath
        (savedContent item.result.toWorktreeCheckpointCapture file.filePath)
        ((item.result.stateAt file.filePath).map FileState.mode)
        (item.baseline.stateAt file.filePath) journal.targetIdentity) fates store
      (fun success _ after => Inv digest item clean track after ∧ after.journal = some journal ∧
        (success = true → after = wroteFile item store file))
      (fun _ after => Inv digest item clean track after) := by
  apply Ends.bind_read
  apply Ends.ite
  · intro allowed
    have before : store.worktree.contents.stateAt file.filePath =
        item.baseline.stateAt file.filePath := by
      simp only [writeAllowed, Bool.and_eq_true, decide_eq_true_eq] at allowed
      exact allowed.2
    have wrote := inv.wrote working listed saved pending before
    rw [wroteFile, ← writtenState_saved] at wrote
    have same : wroteFile item store file = { store with
        worktree := store.worktree.withFile file.filePath
          (writtenState (savedContent item.result.toWorktreeCheckpointCapture file.filePath)
            ((item.result.stateAt file.filePath).map FileState.mode))
        notes := store.notes ++ [.wrote file.filePath
          (store.worktree.contents.stateAt file.filePath)
          (writtenState (savedContent item.result.toWorktreeCheckpointCapture file.filePath)
            ((item.result.stateAt file.filePath).map FileState.mode))] } := by
      rw [writtenState_saved]
      rfl
    apply Ends.tryChange
    · intro _
      exact ⟨wrote, saved, fun _ => same.symm⟩
    · intro _
      exact ⟨inv, saved, fun no => by cases no⟩
    · intro _
      exact ⟨wrote, saved, fun no => by cases no⟩
    · exact inv
    exact wrote
  intro _
  exact .pure ⟨inv, saved, fun no => by cases no⟩

end Write

theorem Savable.block (savable : Savable digest item clean track store journal)
    (unfinished : journal.result.state ≠ .integrated) (blocker : AgentWorkItemIntegrationBlocker) :
    Savable digest item clean track store (journal.block blocker) where
  own :=
    { names := savable.own.names.update _ _ _ _ _ _ _
      progress :=
        { savable.own.progress with
          integrated := fun integrated => absurd integrated unfinished } }
  __ := savable
  final := fun integrated => absurd integrated unfinished
  settled := fun _ integrated => absurd integrated unfinished

/-- The loop over the files leaves no pending file, unless it is blocked. -/
def Clears (files : List AgentWorkItemIntegrationFile) (journal : IntegrationJournal) : Prop :=
  journal.pendingFile = none ∨ ∃ file ∈ files, file ∉ journal.result.files

/-- The end of the loop over some files. -/
structure Applied (digest : EffectInput → String) (item : TrustedAgentWorkItem) (clean : Prop)
    (track : Option IntegrateAgentWorkItemRequest) (files : List AgentWorkItemIntegrationFile)
    (before : IntegrationJournal) (store : IntegrationStore) (after : IntegrationJournal) : Prop where
  inv : Inv digest item clean track store
  savable : Savable digest item clean track store after
  unfinished : after.result.state ≠ .integrated
  request : after.request = before.request
  kept : ∀ file ∈ before.result.files, file ∈ after.result.files
  all : after.result.blockers = [] → ∀ file ∈ files, file ∈ after.result.files
  cleared : after.result.blockers = [] → Clears files before → after.pendingFile = none

theorem applied_blocked (files : List AgentWorkItemIntegrationFile) (before : IntegrationJournal)
    (inv : Inv digest item clean track store)
    (savable : Savable digest item clean track store journal)
    (unfinished : journal.result.state ≠ .integrated) (request : journal.request = before.request)
    (kept : ∀ file ∈ before.result.files, file ∈ journal.result.files)
    (blocker : AgentWorkItemIntegrationBlocker) :
    Applied digest item clean track files before store (journal.block blocker) where
  inv := inv
  savable := savable.block unfinished blocker
  unfinished := unfinished
  request := request
  kept := kept
  all := fun none => absurd none (append_ne_nil_of_right_ne_nil _ (cons_ne_nil _ _))
  cleared := fun none => absurd none (append_ne_nil_of_right_ne_nil _ (cons_ne_nil _ _))

theorem ends_applyFiles (env : AttemptEnv item) (files : List AgentWorkItemIntegrationFile)
    (listed : ∀ file ∈ files, file ∈ listedFiles item) (inv : Inv digest item clean track store)
    (working : Working digest item track store journal) :
    Ends (applyFiles item env files journal) fates store
      (fun after _ store => Applied digest item clean track files journal store after)
      (fun _ after => Inv digest item clean track after) := by
  induction files generalizing fates store journal with
  | nil =>
    apply Ends.pure
    constructor
    · exact inv
    · exact working.savable
    · exact working.unfinished
    · rfl
    · exact fun _ member => member
    · intro _ file member
      cases member
    rintro _ (none | ⟨_, member, _⟩)
    · exact none
    cases member
  | cons file rest ih =>
    have restListed : ∀ other ∈ rest, other ∈ listedFiles item := fun other member =>
      listed other (mem_cons_of_mem _ member)
    have here := listed file mem_cons_self
    rw [applyFiles]
    apply Ends.ite
    · intro confirmed
      apply Ends.mono (ih restListed inv working)
      · intro after left later applied
        refine { applied with all := ?_, cleared := ?_ }
        · intro unblocked other member
          rcases mem_cons.1 member with equal | inRest
          · rw [equal]
            exact applied.kept file confirmed
          exact applied.all unblocked other inRest
        intro unblocked clears
        apply applied.cleared unblocked
        rcases clears with none | ⟨other, member, missing⟩
        · exact .inl none
        rcases mem_cons.1 member with equal | inRest
        · rw [equal] at missing
          exact absurd confirmed missing
        exact .inr ⟨other, inRest, missing⟩
      exact fun _ _ holds => holds
    intro fresh
    apply Ends.bind_read
    apply Ends.bind_ofExcept
    · intro error _
      exact inv
    intro identity _
    refine Ends.guard inv fun _ => ?_
    have pending := working.pending here
    apply Ends.bind
    apply ends_saveJournal inv pending.savable
    intro left
    have saved := pending.savable.saved inv
    have stillWorking := pending.afterSave { journal with pendingFile := some file }
    apply Ends.ite
    · intro _
      apply Ends.pure
      exact applied_blocked (file :: rest) journal saved stillWorking.savable working.unfinished rfl
        (fun _ member => member) _
    intro _
    apply Ends.bind_mono (ends_restore saved stillWorking here rfl rfl)
    · exact fun _ _ holds => holds
    intro success left after ⟨kept, isSaved, written⟩
    apply Ends.ite
    · intro yes
      -- The file is confirmed, and the loop goes on without a pending file.
      have confirmed := stillWorking.wrote here fresh
      rw [written yes] at kept ⊢
      apply Ends.bind
      apply ends_saveJournal kept confirmed.savable
      intro left
      apply Ends.mono (ih restListed (confirmed.savable.saved kept) (confirmed.afterSave _))
      · intro after left later applied
        refine { applied with kept := ?_, all := ?_, cleared := ?_ }
        · intro other member
          exact applied.kept other (mem_append_left _ member)
        · intro unblocked other member
          rcases mem_cons.1 member with equal | inRest
          · apply applied.kept
            rw [equal]
            exact mem_append_right _ (mem_singleton.2 rfl)
          exact applied.all unblocked other inRest
        intro unblocked _
        exact applied.cleared unblocked (.inl rfl)
      exact fun _ _ holds => holds
    intro _
    apply Ends.pure
    exact applied_blocked (file :: rest) journal kept (Savable.ofSaved kept isSaved working.unfinished)
      working.unfinished rfl (fun _ member => member) _

/-! ### Applying a journal -/

theorem Records.shows (records : Records item worktree journal)
    (names : NamesItem digest item journal) (progress : RecordsProgress item journal) :
    Shows item worktree (expectedTarget item journal worktree.contents).1.result.files := by
  obtain ⟨confirmed, shows, inside, onlyPending⟩ := records
  have planned : names.plan.Records worktree journal.result.files journal.pendingFile :=
    ⟨confirmed, names.shows_iff.1 shows, inside, onlyPending⟩
  rw [names.expectedTarget]
  exact names.shows_iff.2 (planned.shows progress.listed progress.pending)

theorem captured_noted (store : IntegrationStore) :
    .captured (captured store).worktree.contents ∈ (captured store).notes :=
  mem_append_right _ (mem_singleton.2 rfl)

theorem Savable.credited (savable : Savable digest item clean track store journal)
    (unfinished : journal.result.state ≠ .integrated)
    (noted : .captured store.worktree.contents ∈ store.notes) : Working digest item track store
      (expectedTarget item journal store.worktree.contents).1 := by
  have own := savable.own.expectedTarget unfinished store.worktree.contents
  have same := (expectedTarget_kept item journal store.worktree.contents).1
  have mem := savable.own.names.mem_expectedTarget store.worktree.contents
  constructor
  · exact own
  · intro file member
    rcases (mem file).1 member with old | ⟨_, old | ⟨_, observed⟩⟩
    · exact savable.seen file old
    · exact savable.seen file old
    exact .inl ⟨_, noted, observed⟩
  · rw [same]
    exact unfinished
  · rw [same]
    exact savable.marker
  intro request tracks
  obtain ⟨isRequest, records⟩ := savable.tracked request tracks
  constructor
  · rw [same]
    exact isRequest
  exact records.shows savable.own.names savable.own.progress

/-- The attempt on a journal clears its pending file, unless it is blocked. -/
def Unstuck (item : TrustedAgentWorkItem) (worktree : Worktree) (journal : IntegrationJournal) :
    Prop :=
  journal.pendingFile = none ∨
    ∃ file ∈ listedFiles item, ¬Credits item worktree.contents journal file

theorem unstuck_of_not_stuck (free : ¬Stuck item store) (saved : store.journal = some journal) :
    Unstuck item store.worktree journal := by
  by_contra stuck
  unfold Unstuck at stuck
  push Not at stuck
  exact free ⟨journal, saved, stuck.1, stuck.2⟩

theorem Unstuck.expectedTarget (unstuck : Unstuck item worktree journal)
    (names : NamesItem digest item journal) :
    Unstuck item worktree (expectedTarget item journal worktree.contents).1 := by
  rcases unstuck with none | ⟨file, listed, uncredited⟩
  · apply Or.inl
    rw [(expectedTarget_kept item journal worktree.contents).1]
    exact none
  exact .inr ⟨file, listed, fun credits => uncredited (names.credits_expectedTarget.1 credits)⟩

theorem Unstuck.clears (unstuck : Unstuck item worktree journal) :
    Clears (listedFiles item) journal := by
  rcases unstuck with none | ⟨file, listed, uncredited⟩
  · exact .inl none
  exact .inr ⟨file, listed, fun member => uncredited (.inl member)⟩

/-- The end of the part of an attempt before the journal is closed. -/
structure Checked (digest : EffectInput → String) (item : TrustedAgentWorkItem) (clean : Prop)
    (track : Option IntegrateAgentWorkItemRequest) (request : IntegrateAgentWorkItemRequest)
    (store : IntegrationStore) (journal : IntegrationJournal) : Prop where
  inv : Inv digest item clean track store
  savable : Savable digest item clean track store journal
  unfinished : journal.result.state ≠ .integrated
  request : journal.request = request
  final : journal.result.blockers = [] →
    matchesCapture (finalExpected item (listedFiles item)) store.worktree.contents
  all : journal.result.blockers = [] → ∀ file ∈ listedFiles item, file ∈ journal.result.files
  cleared : journal.result.blockers = [] → clean → journal.pendingFile = none

variable {request : IntegrateAgentWorkItemRequest}

theorem checked_blocked (inv : Inv digest item clean track store)
    (savable : Savable digest item clean track store journal)
    (unfinished : journal.result.state ≠ .integrated) (isRequest : journal.request = request)
    (blocker : AgentWorkItemIntegrationBlocker) :
    Checked digest item clean track request store (journal.block blocker) where
  inv := inv
  savable := savable.block unfinished blocker
  unfinished := unfinished
  request := isRequest
  final := fun none => absurd none (append_ne_nil_of_right_ne_nil _ (cons_ne_nil _ _))
  all := fun none => absurd none (append_ne_nil_of_right_ne_nil _ (cons_ne_nil _ _))
  cleared := fun none => absurd none (append_ne_nil_of_right_ne_nil _ (cons_ne_nil _ _))

theorem ends_checkFinalState {before : IntegrationJournal}
    (applied : Applied digest item clean track (listedFiles item) before store journal)
    (clears : clean → Clears (listedFiles item) before) :
    Ends (checkFinalState item journal) fates store
      (fun checked _ after => Checked digest item clean track before.request after checked)
      (fun _ after => Inv digest item clean track after) := by
  have inv := applied.inv.captured
  have savable := applied.savable.captured
  have files := savable.own.names.preflight_files
  apply Ends.ite
  · intro unblocked
    apply Ends.bind
    apply ends_capture
    split
    · exact .pure (checked_blocked inv savable applied.unfinished applied.request _)
    rename_i current seen
    have same : current = (captured store).worktree.contents := by
      unfold captureWorktreeCheckpoint at seen
      split at seen
      · cases seen
        rfl
      cases seen
    apply Ends.ite
    · intro matching
      rw [files, same] at matching
      apply Ends.bind_read
      apply Ends.bind_ofExcept
      · intro error _
        exact inv
      intro identity _
      apply Ends.pure
      split
      · exact checked_blocked inv savable applied.unfinished applied.request _
      constructor
      · exact inv
      · exact savable
      · exact applied.unfinished
      · exact applied.request
      · exact fun _ => matching
      · exact applied.all
      exact fun _ isClean => applied.cleared unblocked (clears isClean)
    intro _
    exact .pure (checked_blocked inv savable applied.unfinished applied.request _)
  intro blocked
  apply Ends.pure
  exact { applied with
      final := fun unblocked => absurd unblocked blocked
      all := fun unblocked => absurd unblocked blocked
      cleared := fun unblocked => absurd unblocked blocked }

theorem Checked.close
    (checked : Checked digest item clean track request store journal) (clock : Int64) :
    Savable digest item clean track store (closeJournal clock journal) := by
  have savable := checked.savable
  unfold closeJournal
  split
  · rename_i unblocked
    exact
      { own :=
          { names := savable.own.names.update _ _ _ _ _ _ _
            progress :=
              { savable.own.progress with
                integrated := fun _ => ⟨rfl, rfl, unblocked, checked.all unblocked⟩ } }
        seen := savable.seen
        final := fun _ => checked.final unblocked
        settled := fun isClean _ => checked.cleared unblocked isClean
        marker := savable.marker
        tracked := savable.tracked }
  exact
    { own :=
        { names := savable.own.names.update _ _ _ _ _ _ _
          progress :=
            { savable.own.progress with
              integrated := fun integrated => by cases integrated } }
      seen := savable.seen
      final := fun integrated => by cases integrated
      settled := fun _ integrated => by cases integrated
      marker := savable.marker
      tracked := savable.tracked }

theorem finished_closeJournal (clock : Int64) (journal : IntegrationJournal) :
    (closeJournal clock journal).finished = true := by
  unfold closeJournal
  split
  · rfl
  rfl

theorem request_closeJournal (clock : Int64) (journal : IntegrationJournal) :
    (closeJournal clock journal).request = journal.request := by
  unfold closeJournal
  split
  · rfl
  rfl

theorem Inv.removeMarker (inv : Inv digest item clean track store) :
    Inv digest item clean track { store with marker := none } where
  __ := inv
  marker := fun marker none => by cases none
  tracked := fun request same => ⟨(inv.tracked request same).fresh, (inv.tracked request same).saved⟩

theorem ends_applyExpected (env : AttemptEnv item) (expected current : WorktreeCheckpointCapture)
    (inv : Inv digest item clean track store) (working : Working digest item track store journal) :
    Ends (applyExpected item env journal expected current) fates store (fun after _ store =>
        Applied digest item clean track (listedFiles item) journal store after)
      (fun _ after => Inv digest item clean track after) := by
  have files := working.own.names.preflight_files
  have changed := applied_blocked (listedFiles item) journal inv working.savable
    working.unfinished rfl fun _ member => member
  apply Ends.ite
  · intro _
    apply Ends.bind_read
    apply Ends.bind_ofExcept
    · intro error _
      exact inv
    intro identity _
    apply Ends.ite
    · intro _
      exact .pure (changed _)
    intro _
    refine Ends.guard inv fun _ => ?_
    rw [files]
    exact ends_applyFiles env (listedFiles item) (fun _ member => member) inv working
  intro _
  exact .pure (changed _)

theorem ends_applyIntegration (env : AttemptEnv item) (inv : Inv digest item clean track store)
    (savable : Savable digest item clean track store journal)
    (unfinished : journal.result.state ≠ .integrated)
    (unstuck : clean → Unstuck item store.worktree journal) :
    Ends (applyIntegration item env journal) fates store
      (fun closed _ after => Inv digest item clean track after ∧ after.journal = some closed ∧
        closed.request = journal.request ∧ closed.finished = true)
      (fun _ after => Inv digest item clean track after) := by
  apply Ends.bind
  apply ends_capture
  split
  · exact .fail inv.captured
  rename_i current seen
  have same : current = (captured store).worktree.contents := by
    unfold captureWorktreeCheckpoint at seen
    split at seen
    · cases seen
      rfl
    cases seen
  subst same
  have working := savable.captured.credited unfinished (captured_noted store)
  have request : (expectedTarget item journal (captured store).worktree.contents).1.request =
      journal.request := by
    rw [(expectedTarget_kept item journal (captured store).worktree.contents).1]
    rfl
  have clears : clean → Clears (listedFiles item)
      (expectedTarget item journal (captured store).worktree.contents).1 :=
    fun isClean => ((unstuck isClean).expectedTarget savable.own.names).clears
  apply Ends.bind_mono (ends_applyExpected env _ _ inv.captured working)
  · exact fun _ _ holds => holds
  intro applied left after isApplied
  apply Ends.bind_mono (ends_checkFinalState isApplied clears)
  · exact fun _ _ holds => holds
  intro checked left later isChecked
  have closed := isChecked.close env.clock
  apply Ends.bind
  apply ends_saveJournal isChecked.inv closed
  intro left
  have saved := closed.saved isChecked.inv
  apply Ends.bind_change
  · intro _
    exact saved
  · intro _
    exact saved.removeMarker
  intro left
  apply Ends.pure
  refine ⟨saved.removeMarker, rfl, ?_, finished_closeJournal _ _⟩
  rw [request_closeJournal, isChecked.request]
  exact request

/-- The outcome of an attempt: an integrated result is the one that the journal keeps. -/
structure Attempted (digest : EffectInput → String) (item : TrustedAgentWorkItem) (clean : Prop)
    (track : Option IntegrateAgentWorkItemRequest) (request : IntegrateAgentWorkItemRequest)
    (store : IntegrationStore) (result : AgentWorkItemIntegrationResult) : Prop where
  inv : Inv digest item clean track store
  seen : ∀ file ∈ result.files, Seen item store.notes file
  kept : result.state = .integrated → ∃ journal, store.journal = some journal ∧
    journal.request = request ∧ journal.finished = true ∧ journal.result = result

def markedStore (item : TrustedAgentWorkItem) (store : IntegrationStore)
    (journal : IntegrationJournal) : IntegrationStore :=
  { savedTo store journal with marker := some (ownMarker item journal.request.requestId) }

theorem Savable.marked (savable : Savable digest item clean track store journal) :
    Savable digest item clean track (markedStore item store journal) journal where
  __ := savable
  seen := savable.afterSave.seen
  marker := by
    intro marker same
    cases same
    rfl

theorem Savable.invMarked (savable : Savable digest item clean track store journal)
    (inv : Inv digest item clean track store) :
    Inv digest item clean track (markedStore item store journal) where
  __ := (savable.saved inv)
  marker := by
    intro marker same
    cases same
    exact ⟨journal, rfl, rfl⟩
  tracked := fun request same => ⟨((savable.saved inv).tracked request same).fresh,
    ((savable.saved inv).tracked request same).saved⟩

theorem ends_runJournal (env : AttemptEnv item) (inv : Inv digest item clean track store)
    (savable : Savable digest item clean track store journal)
    (unfinished : journal.result.state ≠ .integrated)
    (unstuck : clean → Unstuck item store.worktree journal) :
    Ends (runJournal item env journal) fates store
      (fun result _ after => Attempted digest item clean track journal.request after result)
      (fun _ after => Inv digest item clean track after) := by
  have saved := savable.saved inv
  have marked := savable.invMarked inv
  apply Ends.bind
  apply ends_saveJournal inv savable
  intro left
  apply Ends.bind_change
  · intro _
    exact saved
  · intro _
    exact marked
  intro left
  apply Ends.bind_mono (ends_applyIntegration env marked savable.marked unfinished unstuck)
  · exact fun _ _ holds => holds
  intro closed left after ⟨kept, isSaved, request, finished⟩
  apply Ends.pure
  exact ⟨kept, kept.seen closed isSaved, fun _ => ⟨closed, isSaved, request, finished, rfl⟩⟩

variable {initial : AgentWorkItemIntegrationPreflight}

theorem initialPreflight_eq_ok : initialPreflight item = .ok initial ↔
      changes item.baseline.toWorktreeCheckpointCapture item.result.toWorktreeCheckpointCapture =
        .ok (listedFiles item) ∧ initial = preflightOf item (listedFiles item) := by
  unfold initialPreflight
  cases found : changes item.baseline.toWorktreeCheckpointCapture
      item.result.toWorktreeCheckpointCapture with
  | error error => simp [bind, Except.bind]
  | ok files =>
    have same := (changes_eq_ok.1 found).2.2.2
    simp [bind, Except.bind, pure, Except.pure, same, listedFiles, eq_comm]

theorem effectDigest_congr {first second : Worktree} (same : first.identity = second.identity)
    (files : List AgentWorkItemIntegrationFile) (proof : Option VerifiedTurnChecks) :
    effectDigest digest item first files proof = effectDigest digest item second files proof := by
  unfold effectDigest targetIdentity
  rw [same]

theorem targetIdentity_of_validated
    (valid : validateJournalIdentity digest item worktree journal = .ok ()) :
    worktree.identity = some journal.targetIdentity := by
  unfold validateJournalIdentity at valid
  cases initial : initialPreflight item with
  | error error => simp [initial, bind, Except.bind] at valid
  | ok current =>
    cases identity : targetIdentity worktree with
    | error error => simp [initial, identity, bind, Except.bind] at valid
    | ok observed =>
      cases effect : effectDigest digest item worktree current.files (some journal.proof) with
      | error error => simp [initial, identity, effect, bind, Except.bind] at valid
      | ok expected =>
        simp only [initial, identity, effect, bind, Except.bind] at valid
        split at valid
        · cases valid
        rename_i agrees
        push Not at agrees
        rw [agrees.2.2.2.2.2.2.2.2.2.2.1]
        exact targetIdentity_eq_ok.1 identity

/-- What an assessment gives. -/
structure Assessed (digest : EffectInput → String) (item : TrustedAgentWorkItem)
    (env : AttemptEnv item) (journal : Option IntegrationJournal) (worktree : Worktree)
    (preflight : AgentWorkItemIntegrationPreflight) (credited : Option IntegrationJournal) :
    Prop where
  changes : changes item.baseline.toWorktreeCheckpointCapture
    item.result.toWorktreeCheckpointCapture = .ok (listedFiles item)
  validated : validatePrevious digest item worktree journal = .ok ()
  effect : effectDigest digest item worktree (listedFiles item)
    (env.proof.toOption.map CheckProof.checks) = .ok preflight.effectDigest
  preflight : preflight = assessedPreflight item env (preflightOf item (listedFiles item))
    (journal.map fun journal => journal.request.requestId)
    (preflightBlockers item env (listedFiles item) journal.isSome
      (expectedCapture item worktree.contents journal) worktree) preflight.effectDigest
  credited : credited = journal.map fun journal => (expectedTarget item journal worktree.contents).1

variable {credited previous : Option IntegrationJournal}
  {preflight : AgentWorkItemIntegrationPreflight}

variable {env : AttemptEnv item}

theorem assessed_of_eq_ok (begins : initialPreflight item = .ok initial)
    (assessed : assessPreflight digest item env initial previous worktree =
      .ok (preflight, credited)) :
    Assessed digest item env previous worktree preflight credited := by
  obtain ⟨changed, same⟩ := initialPreflight_eq_ok.1 begins
  subst same
  unfold assessPreflight at assessed
  cases validated : validatePrevious digest item worktree previous with
  | error error => simp [validated, bind, Except.bind] at assessed
  | ok _ =>
    cases effect : effectDigest digest item worktree (preflightOf item (listedFiles item)).files
        (env.proof.toOption.map CheckProof.checks) with
    | error error => simp [validated, effect, bind, Except.bind] at assessed
    | ok expected =>
      simp only [validated, effect, bind, Except.bind, pure, Except.pure, Except.ok.injEq,
        Prod.mk.injEq] at assessed
      obtain ⟨isPreflight, isCredited⟩ := assessed
      subst isPreflight
      constructor
      · exact changed
      · exact validated
      · exact effect
      · rfl
      exact isCredited.symm

theorem ends_currentPreflight (env : AttemptEnv item) (previous : Option IntegrationJournal)
    (inv : Inv digest item clean track store) :
    Ends (currentPreflight digest item env previous) fates store
      (fun result _ after => after = captured store ∧
        Assessed digest item env previous store.worktree result.1 result.2)
      (fun _ after => Inv digest item clean track after) := by
  apply Ends.bind_ofExcept
  · intro error _
    exact inv
  intro initial begins
  apply Ends.bind
  apply ends_capture
  split
  · exact .fail inv.captured
  apply Ends.bind_read
  apply Ends.ofExcept
  · intro result assessed
    exact ⟨rfl, assessed_of_eq_ok begins assessed⟩
  intro error _
  exact inv.captured

theorem sourceMatches_of_ready
    (assessed : Assessed digest item env none worktree preflight credited)
    (ready : preflight.state = .ready) : sourceMatches item worktree = true := by
  rw [assessed.preflight] at ready
  unfold assessedPreflight at ready
  dsimp only at ready
  split at ready
  · rename_i empty
    unfold preflightBlockers at empty
    simp only [append_eq_nil_iff, isSome_none] at empty
    have target := empty.1.1.2
    by_contra differs
    simp [differs] at target
  cases ready

/-- What an attempt is asked and checked before it opens a journal. -/
structure Accepted (item : TrustedAgentWorkItem) (track : Option IntegrateAgentWorkItemRequest)
    (request : IntegrateAgentWorkItemRequest) : Prop where
  requestId : request.requestId ≠ 0
  validDigest : validDigest request.effectDigest
  tracked : ∀ tracked, track = some tracked → request = tracked

theorem savable_openJournal_none
    {proof : CheckProof item} {identity : String} (inv : Inv digest item clean track store)
    (absent : store.journal = none) (accepted : Accepted item track request)
    (assessed : Assessed digest item env none store.worktree preflight credited)
    (ready : preflight.state = .ready) (sameDigest : preflight.effectDigest = request.effectDigest)
    (passed : env.proof = .ok proof) (observed : store.worktree.identity = some identity) :
    Savable digest item clean track (captured store)
      (openJournal item request preflight proof.checks identity none) := by
  have onSource := sourceMatches_of_ready assessed ready
  have expected : store.worktree.identity = some item.source.expectedTargetIdentity := by
    simp only [sourceMatches, Bool.and_eq_true, decide_eq_true_eq] at onSource
    exact onSource.1.1
  have base : preflight.base = preflightOf item (listedFiles item) := by
    rw [assessed.preflight]
    rfl
  have effect := assessed.effect
  rw [passed, sameDigest] at effect
  constructor
  case own =>
    exact
      { names :=
          { accepted with
            preflight := base
            sameDigest := sameDigest.symm
            result := by
              refine ⟨rfl, ?_, ?_, ?_, ?_, rfl⟩
              · exact congrArg AgentWorkItemIntegrationPreflight.workSetId base
              · exact congrArg AgentWorkItemIntegrationPreflight.taskId base
              · exact congrArg AgentWorkItemIntegrationPreflight.workspaceId base
              exact congrArg AgentWorkItemIntegrationPreflight.repositoryId base
            checkpoint := proof.checkpoint
            someChecks := proof.nonempty
            fewChecks := proof.count
            effect := by
              intro worktree same
              rw [effectDigest_congr (same.trans expected.symm)]
              exact effect
            targetIdentity := by
              rw [expected] at observed
              exact (Option.some.inj observed).symm
            sourceSession := rfl
            candidateSession := rfl
            changes := assessed.changes }
        progress :=
          { listed := fun file member => by cases member
            nodup := nodup_nil
            pending := fun file none => by cases none
            integrated := fun integrated => by cases integrated } }
  case seen =>
    intro file member
    cases member
  case final =>
    intro integrated
    cases integrated
  case settled =>
    intro _ integrated
    cases integrated
  case marker =>
    intro marker same
    obtain ⟨journal, saved, _⟩ := inv.marker marker same
    rw [absent] at saved
    cases saved
  case tracked =>
    intro tracked same
    refine ⟨accepted.tracked tracked same, [], (inv.tracked tracked same).fresh absent, ?_, ?_⟩
    · intro file member
      cases member
    intro file member
    cases member

theorem savable_openJournal_some
    {proof : CheckProof item} (identity : String) (inv : Inv digest item clean track store)
    (saved : store.journal = some journal) (unfinished : journal.result.state ≠ .integrated)
    (isRequest : journal.request = request)
    (assessed : Assessed digest item env (some journal) store.worktree preflight credited)
    (sameDigest : preflight.effectDigest = request.effectDigest) (passed : env.proof = .ok proof) :
    Savable digest item clean track (captured store)
      (openJournal item request preflight proof.checks identity
        (some (expectedTarget item journal store.worktree.contents).1)) := by
  have savable := Savable.ofSaved inv saved unfinished
  have working := savable.captured.credited unfinished (captured_noted store)
  have expected : store.worktree.identity = some item.source.expectedTargetIdentity := by
    rw [targetIdentity_of_validated assessed.validated,
      (inv.own journal saved).names.targetIdentity]
  have effect := assessed.effect
  rw [passed, sameDigest, ← isRequest] at effect
  have same := (expectedTarget_kept item journal store.worktree.contents).1
  have savable : Savable digest item clean track _ _ := working.savable
  have names := savable.own.names
  have request_eq : (expectedTarget item journal store.worktree.contents).1.request =
      journal.request := by
    rw [same]
    rfl
  constructor
  case own =>
    exact
      { names :=
          { names with
            checkpoint := proof.checkpoint
            someChecks := proof.nonempty
            fewChecks := proof.count
            effect := by
              intro worktree here
              rw [effectDigest_congr (here.trans expected.symm)]
              show _ = Except.ok
                (expectedTarget item journal store.worktree.contents).1.request.effectDigest
              rw [request_eq]
              exact effect }
        progress :=
          { savable.own.progress with
            integrated := fun integrated => absurd integrated working.unfinished } }
  case seen => exact savable.seen
  case final => exact fun integrated => absurd integrated working.unfinished
  case settled => exact fun _ integrated => absurd integrated working.unfinished
  case marker => exact savable.marker
  case tracked => exact savable.tracked

/-! ### An attempt -/

variable {saved : Option IntegrationJournal}

theorem readJournal_eq_ok {workSetId taskId : Uuid}
    (read : readJournal workSetId taskId saved = .ok previous) :
    previous = saved ∧ ∀ journal, saved = some journal → ReadableJournal workSetId taskId journal := by
  unfold readJournal at read
  split at read
  · cases read
  split at read
  · cases read
    exact ⟨rfl, fun journal none => by cases none⟩
  split at read
  · rename_i readable
    cases read
    refine ⟨rfl, ?_⟩
    intro journal same
    cases same
    exact readable
  cases read

theorem savedAnswer_eq_some {result : AgentWorkItemIntegrationResult}
    (answer : savedAnswer request saved = .ok (some result)) :
    ∃ journal, saved = some journal ∧ journal.request = request ∧ journal.finished = true ∧
      journal.result = result := by
  unfold savedAnswer at answer
  split at answer
  · cases answer
  rename_i journal
  split at answer
  · cases answer
  rename_i same
  split at answer
  · rename_i finished
    cases answer
    exact ⟨journal, rfl, not_not.1 same, finished.1, rfl⟩
  cases answer

theorem savedAnswer_eq_none (answer : savedAnswer request (some journal) = .ok none) :
    journal.request = request ∧
      ¬(journal.finished = true ∧ journal.result.state = .integrated) := by
  simp only [savedAnswer] at answer
  split at answer
  · cases answer
  rename_i same
  split at answer
  · cases answer
  rename_i unfinished
  exact ⟨not_not.1 same, unfinished⟩

theorem notStarted_ne_integrated (preflight : AgentWorkItemIntegrationPreflight) (requestId : Uuid)
    (previous : Option IntegrationJournal) :
    (notStarted (resultFor preflight requestId) previous).state ≠ .integrated := by
  unfold notStarted
  cases previous with
  | none =>
    dsimp only
    split
    · exact fun integrated => by cases integrated
    exact fun integrated => by cases integrated
  | some journal => exact fun integrated => by cases integrated

theorem seen_notStarted (requestId : Uuid)
    (inv : Inv digest item clean track store) (same : previous = store.journal)
    (unfinished : ∀ journal, store.journal = some journal → journal.result.state ≠ .integrated)
    (assessed : Assessed digest item env previous store.worktree preflight credited) :
    ∀ file ∈ (notStarted (resultFor preflight requestId) credited).files,
      Seen item (captured store).notes file := by
  have isCredited := assessed.credited
  cases saved : store.journal with
  | none =>
    rw [saved] at same
    subst same
    dsimp only [map_none] at isCredited
    subst isCredited
    intro file member
    unfold notStarted at member
    dsimp only at member
    split at member
    · cases member
    cases member
  | some journal =>
    rw [saved] at same
    subst same
    dsimp only [map_some] at isCredited
    subst isCredited
    have isOpen := unfinished journal saved
    exact ((Savable.ofSaved inv saved isOpen).captured.credited isOpen (captured_noted store)).seen

theorem ends_continueIntegration (env : AttemptEnv item) (inv : Inv digest item clean track store)
    (accepted : Accepted item track request) (same : previous = store.journal)
    (resumes : ∀ journal, store.journal = some journal →
      journal.request = request ∧ journal.result.state ≠ .integrated)
    (free : clean → ¬Stuck item store) :
    Ends (continueIntegration digest item env request previous) fates store
      (fun result _ after => Attempted digest item clean track request after result)
      (fun _ after => Inv digest item clean track after) := by
  apply Ends.bind_read
  apply Ends.bind_ofExcept
  · intro error _
    exact inv
  intro _ _
  apply Ends.bind_mono (ends_currentPreflight env previous inv)
  · exact fun _ _ holds => holds
  rintro ⟨preflight, credited⟩ left after ⟨isCaptured, assessed⟩
  subst isCaptured
  apply Ends.ite
  · intro _
    apply Ends.pure
    refine ⟨inv.captured, ?_, fun integrated =>
      absurd integrated (notStarted_ne_integrated preflight request.requestId credited)⟩
    exact seen_notStarted request.requestId inv same
      (fun journal saved => (resumes journal saved).2) assessed
  intro goes
  push Not at goes
  obtain ⟨ready, sameDigest⟩ := goes
  split
  · exact .fail inv.captured
  rename_i proof passed
  apply Ends.bind_read
  apply Ends.bind_ofExcept
  · intro error _
    exact inv.captured
  intro identity observed
  cases saved : store.journal with
  | none =>
    rw [saved] at same
    subst same
    have none := assessed.credited
    dsimp only at none
    subst none
    have savable := savable_openJournal_none inv saved accepted assessed ready
      sameDigest passed (targetIdentity_eq_ok.1 observed)
    exact ends_runJournal env inv.captured savable (fun integrated => by cases integrated)
      fun _ => .inl rfl
  | some journal =>
    rw [saved] at same
    subst same
    have isCredited := assessed.credited
    dsimp only [map_some] at isCredited
    subst isCredited
    obtain ⟨isRequest, unfinished⟩ := resumes journal saved
    have savable := savable_openJournal_some identity inv saved unfinished isRequest
      assessed sameDigest passed
    have request_eq : (openJournal item request preflight proof.checks identity
        (some (expectedTarget item journal store.worktree.contents).1)).request =
        request := by
      show (expectedTarget item journal store.worktree.contents).1.request = request
      rw [(expectedTarget_kept item journal store.worktree.contents).1]
      exact isRequest
    have state_eq : (expectedTarget item journal store.worktree.contents).1.result.state =
        journal.result.state := by
      rw [(expectedTarget_kept item journal store.worktree.contents).1]
      rfl
    have opened : (openJournal item request preflight proof.checks identity
        (some (expectedTarget item journal store.worktree.contents).1)).result.state ≠
        .integrated := by
      show (expectedTarget item journal store.worktree.contents).1.result.state ≠ _
      rw [state_eq]
      exact unfinished
    apply Ends.mono (ends_runJournal env inv.captured savable opened
      fun isClean => (unstuck_of_not_stuck (free isClean) saved).expectedTarget
        (inv.own journal saved).names)
    · intro result left after attempted
      rw [request_eq] at attempted
      exact attempted
    exact fun _ _ holds => holds

theorem ends_integrate (env : AttemptEnv item) (inv : Inv digest item clean track store)
    (tracked : ∀ tracked, track = some tracked → request = tracked)
    (free : clean → ¬Stuck item store) :
    Ends (integrateAgentWorkItem digest item env request) fates store
      (fun result _ after => Attempted digest item clean track request after result)
      (fun _ after => Inv digest item clean track after) := by
  have replayed : ∀ previous result,
      readJournal item.workSetId item.taskId store.journal = .ok previous →
      savedAnswer request previous = .ok (some result) →
      Attempted digest item clean track request store result := by
    intro previous result read answer
    obtain ⟨same, _⟩ := readJournal_eq_ok read
    obtain ⟨journal, saved, isRequest, finished, isResult⟩ := savedAnswer_eq_some answer
    have here : store.journal = some journal := same.symm.trans saved
    refine ⟨inv, ?_, fun _ => ⟨journal, here, isRequest, finished, isResult⟩⟩
    rw [← isResult]
    exact inv.seen journal here
  refine Ends.guard inv fun valid => ?_
  push Not at valid
  have accepted : Accepted item track request := ⟨valid.1, valid.2, tracked⟩
  apply Ends.bind_read
  apply Ends.bind_ofExcept
  · intro error _
    exact inv
  intro previous read
  apply Ends.bind_ofExcept
  · intro error _
    exact inv
  intro answer answered
  cases answer with
  | some result => exact .pure (replayed previous result read answered)
  | none =>
    apply Ends.bind_ofExcept
    · intro error _
      exact inv
    intro _ _
    apply Ends.bind_ofExcept
    · intro error _
      exact inv
    intro _ _
    apply Ends.bind_read
    apply Ends.bind_ofExcept
    · intro error _
      exact inv
    intro again reread
    apply Ends.bind_ofExcept
    · intro error _
      exact inv
    intro answer answered
    cases answer with
    | some result => exact .pure (replayed again result reread answered)
    | none =>
      obtain ⟨same, readable⟩ := readJournal_eq_ok reread
      apply ends_continueIntegration env inv accepted same
      · intro journal saved
        rw [same, saved] at answered
        obtain ⟨isRequest, unfinished⟩ := savedAnswer_eq_none answered
        refine ⟨isRequest, fun integrated => unfinished ⟨?_, integrated⟩⟩
        exact ((readable journal saved).integrated integrated).finished
      exact free

/-! ### A recovery -/

theorem Savable.rewrite (savable : Savable digest item clean track store journal)
    {files : List AgentWorkItemIntegrationFile} {blockers : List AgentWorkItemIntegrationBlocker}
    {state : AgentWorkItemIntegrationResultState} {detail : String} {time : Option Int64}
    {pending : Option AgentWorkItemIntegrationFile} {finished : Bool}
    (unfinished : state ≠ .integrated) (listed : ∀ file ∈ files, file ∈ listedFiles item)
    (nodup : files.Nodup) (isListed : ∀ file, pending = some file → file ∈ listedFiles item)
    (seen : ∀ file ∈ files, Seen item store.notes file)
    (records : ∀ request, track = some request → Records item store.worktree { journal with
      result := { journal.result with
        files := files
        blockers := blockers
        state := state
        detail := detail
        integratedAtUnixMs := time }
      pendingFile := pending
      finished := finished }) :
    Savable digest item clean track store { journal with
      result := { journal.result with
        files := files
        blockers := blockers
        state := state
        detail := detail
        integratedAtUnixMs := time }
      pendingFile := pending
      finished := finished } where
  own :=
    { names := savable.own.names.update _ _ _ _ _ _ _
      progress :=
        { listed := listed
          nodup := nodup
          pending := isListed
          integrated := fun integrated => absurd integrated unfinished } }
  seen := seen
  final := fun integrated => absurd integrated unfinished
  settled := fun _ integrated => absurd integrated unfinished
  marker := savable.marker
  tracked := fun request same => ⟨(savable.tracked request same).1, records request same⟩

variable {current : Option WorktreeCheckpointCapture}

theorem Savable.settlePending (savable : Savable digest item clean track store journal)
    (unfinished : journal.result.state ≠ .integrated) (noted : ∀ capture, current = some capture →
      capture = store.worktree.contents ∧ .captured capture ∈ store.notes) :
    Savable digest item clean track store (settlePending item current journal) := by
  have progress := savable.own.progress
  unfold Integration.settlePending
  split
  · exact savable
  rename_i file pending
  have here := progress.pending file pending
  dsimp only
  split
  · rename_i desired
    obtain ⟨capture, isCurrent, observed⟩ := (Option.any_eq_true _ _).1 desired
    obtain ⟨same, isNoted⟩ := noted capture isCurrent
    have shown : capture.stateAt file.filePath = item.result.stateAt file.filePath := by
      simpa using observed
    have mem : ∀ other, other ∈ (journal.confirm file).result.files ↔
        other ∈ journal.result.files ∨ other = file := fun other => mem_confirm
    have nodup := nodup_confirm progress.nodup file
    rw [confirm_eq_withFiles]
    generalize (journal.confirm file).result.files = files at mem nodup
    apply savable.rewrite
    · exact unfinished
    · intro other member
      rcases (mem other).1 member with old | equal
      · exact progress.listed other old
      rw [equal]
      exact here
    · exact nodup
    · intro other none
      cases none
    · intro other member
      rcases (mem other).1 member with old | equal
      · exact savable.seen other old
      rw [equal]
      exact .inl ⟨capture, isNoted, shown⟩
    intro request tracks
    obtain ⟨credited, shows, inside, onlyPending⟩ := (savable.tracked request tracks).2
    have listed : ∀ other ∈ credited, other ∈ listedFiles item := by
      intro other member
      rcases onlyPending other member with old | isPending
      · exact progress.listed other old
      exact progress.pending other isPending
    refine ⟨credited, shows, ?_, ?_⟩
    · intro other member
      rcases (mem other).1 member with old | equal
      · exact inside other old
      rw [equal]
      rw [same] at shown
      exact ((savable.own.names.shows_iff.1 shows).mem_iff listed here).2 shown
    intro other member
    rcases onlyPending other member with old | isPending
    · exact .inl ((mem other).2 (.inl old))
    rw [pending] at isPending
    cases isPending
    exact .inl ((mem file).2 (.inr rfl))
  rename_i notDesired
  split
  · rename_i atBaseline
    obtain ⟨capture, isCurrent, observed⟩ := (Option.any_eq_true _ _).1 atBaseline
    obtain ⟨same, _⟩ := noted capture isCurrent
    apply savable.rewrite
    · exact unfinished
    · exact progress.listed
    · exact progress.nodup
    · intro other none
      cases none
    · exact savable.seen
    intro request tracks
    obtain ⟨credited, shows, inside, onlyPending⟩ := (savable.tracked request tracks).2
    refine ⟨credited, shows, inside, ?_⟩
    intro other member
    rcases onlyPending other member with old | isPending
    · exact .inl old
    rw [pending] at isPending
    cases isPending
    have shown := shows.stateAt file.filePath
    rw [if_pos ⟨file, member, rfl⟩, ← same] at shown
    exfalso
    apply notDesired
    rw [isCurrent, any_some]
    exact decide_eq_true shown
  exact savable.block unfinished _

theorem state_settlePending (item : TrustedAgentWorkItem) (journal : IntegrationJournal)
    (current : Option WorktreeCheckpointCapture) :
    (settlePending item current journal).result.state = journal.result.state := by
  unfold settlePending
  split
  · rfl
  dsimp only
  split
  · rw [confirm_eq_withFiles]
    rfl
  split
  · rfl
  rfl

theorem savable_recoveredJournal (savable : Savable digest item clean track store journal)
    (unfinished : journal.result.state ≠ .integrated) (noted : ∀ capture, current = some capture →
      capture = store.worktree.contents ∧ .captured capture ∈ store.notes) :
    Savable digest item clean track store (recoveredJournal item current journal) := by
  have cleared : Savable digest item clean track store
      { journal with result := { journal.result with blockers := [] } } := by
    apply savable.rewrite
    · exact unfinished
    · exact savable.own.progress.listed
    · exact savable.own.progress.nodup
    · exact savable.own.progress.pending
    · exact savable.seen
    exact fun request tracks => (savable.tracked request tracks).2
  have settled := cleared.settlePending unfinished noted
  have same := state_settlePending item
    { journal with result := { journal.result with blockers := [] } } current
  unfold recoveredJournal
  generalize settlePending item current
    { journal with result := { journal.result with blockers := [] } } = after at settled same ⊢
  apply settled.rewrite
  · exact fun integrated => by cases integrated
  · exact settled.own.progress.listed
  · exact settled.own.progress.nodup
  · exact settled.own.progress.pending
  · exact settled.seen
  exact fun request tracks => (settled.tracked request tracks).2

theorem ends_captureForRecovery (inv : Inv digest item clean track store)
    (savable : Savable digest item clean track store journal) :
    Ends (captureForRecovery journal) fates store
      (fun current _ after => Inv digest item clean track after ∧
        Savable digest item clean track after journal ∧ ∀ capture, current = some capture →
          capture = after.worktree.contents ∧ .captured capture ∈ after.notes)
      (fun _ after => Inv digest item clean track after) := by
  apply Ends.bind_read
  apply Ends.ite
  · intro _
    apply ends_capture
    refine ⟨inv.captured, savable.captured, ?_⟩
    intro capture seen
    unfold captureWorktreeCheckpoint at seen
    split at seen
    · cases seen
      exact ⟨rfl, mem_append_right _ (mem_singleton.2 rfl)⟩
    cases seen
  intro _
  apply Ends.pure
  exact ⟨inv, savable, fun capture none => by cases none⟩

theorem ends_recover (env : RecoverEnv) (inv : Inv digest item clean track store) :
    Ends (recoverPendingWorkspace item env) fates store
      (fun _ _ after => Inv digest item clean track after)
      (fun _ after => Inv digest item clean track after) := by
  apply Ends.bind_read
  split
  · exact .pure inv
  refine Ends.guard inv fun _ => ?_
  apply Ends.bind_ofExcept
  · intro error _
    exact inv
  intro previous read
  obtain ⟨same, readable⟩ := readJournal_eq_ok read
  cases previous with
  | none => exact .fail inv
  | some journal =>
    have saved := same.symm
    refine Ends.guard inv fun _ => ?_
    apply Ends.bind_ofExcept
    · intro error _
      exact inv
    intro _ _
    apply Ends.ite
    · intro _
      apply Ends.change
      · intro _
        exact inv.removeMarker
      · intro _
        exact inv
      intro _
      exact inv.removeMarker
    intro unfinished
    have stillOpen : journal.result.state ≠ .integrated := fun integrated =>
      unfinished (((inv.own journal saved).progress.integrated integrated).1)
    apply Ends.bind_ofExcept
    · intro error _
      exact inv
    intro _ _
    refine Ends.guard inv fun _ => ?_
    apply Ends.bind_ofExcept
    · intro error _
      exact inv
    intro files _
    refine Ends.guard inv fun _ => ?_
    apply Ends.bind
    apply Ends.mono (ends_captureForRecovery inv (Savable.ofSaved inv saved stillOpen))
    · intro current left after ⟨kept, savable, noted⟩
      have recovered := savable_recoveredJournal savable stillOpen noted
      apply Ends.bind
      apply ends_saveJournal kept recovered
      intro left
      have afterSave := recovered.saved kept
      apply Ends.change
      · intro _
        exact afterSave.removeMarker
      · intro _
        exact afterSave
      intro _
      exact afterSave.removeMarker
    exact fun _ _ holds => holds

end Steps

end Wts.Integration
