/-
Module: Wts.Proofs.IntegrationResume
Purpose: An integration can be resumed.
Trusted boundary: none
Main exports: succeeds_integrate
-/
import Wts.Proofs.IntegrationRun

namespace Wts.Integration

open Checkpoint Interrupt List AgentWorkItemIntegrationPreflight

/-- Nothing outside objects to the request: the candidate loads and still matches its capture, locks
and leases are free, the saved files can be read, parent folders can be prepared, and the checks pass
with the digest of the request. -/
structure Opportune (digest : EffectInput → String) (item : TrustedAgentWorkItem)
    (env : AttemptEnv item) (request : IntegrateAgentWorkItemRequest) : Prop where
  workSetId : item.workSetId ≠ 0
  taskId : item.taskId ≠ 0
  requestId : request.requestId ≠ 0
  validDigest : validDigest request.effectDigest
  changes : changes item.baseline.toWorktreeCheckpointCapture
    item.result.toWorktreeCheckpointCapture = .ok (listedFiles item)
  someFiles : listedFiles item ≠ []
  candidate : env.candidate = .ok ()
  verificationLock : env.verificationLock = .ok ()
  leases : env.leases = .ok ()
  noRestore : env.restorePending = false
  blobs : ∀ hash, env.savedBlobs hash = true
  candidateMatches : env.candidateMatches = true
  parents : ∀ path, env.parentReady path = true
  proof : ∃ proof, env.proof = .ok proof ∧ ∀ worktree : Worktree,
    worktree.identity = some item.source.expectedTargetIdentity →
      effectDigest digest item worktree (listedFiles item) (some proof.checks) =
        .ok request.effectDigest

section Resume

variable {digest : EffectInput → String} {item : TrustedAgentWorkItem} {env : AttemptEnv item}
  {request : IntegrateAgentWorkItemRequest} {store : IntegrationStore}
  {journal : IntegrationJournal} {worktree : Worktree}

variable {credited : List AgentWorkItemIntegrationFile}

theorem matches_expectedTarget (names : NamesItem digest item journal)
    (progress : RecordsProgress item journal)
    (shows : Shows item worktree (expectedTarget item journal worktree.contents).1.result.files) :
    matchesCapture (expectedTarget item journal worktree.contents).2 worktree.contents := by
  rw [names.expectedTarget] at shows ⊢
  exact FilePlan.matches_expectedFrom progress.listed (names.shows_iff.1 shows)

theorem complete_finalExpected (resultComplete : item.result.complete)
    (files : List AgentWorkItemIntegrationFile) (capture : WorktreeCheckpointCapture)
    (complete : capture.complete) : (files.foldl (fun expected file =>
      expected.override file.filePath (desiredFile item file.filePath)) capture).complete := by
  induction files generalizing capture with
  | nil => exact complete
  | cons file rest ih => exact ih _ (FilePlan.complete_override complete resultComplete _)

theorem sameGit_finalExpected (files : List AgentWorkItemIntegrationFile)
    (capture : WorktreeCheckpointCapture) : (files.foldl (fun expected file =>
      expected.override file.filePath (desiredFile item file.filePath)) capture).sameGit capture := by
  induction files generalizing capture with
  | nil => exact ⟨rfl, rfl, rfl⟩
  | cons file rest ih => exact ih _

theorem stateAt_finalExpected (files : List AgentWorkItemIntegrationFile)
    (capture : WorktreeCheckpointCapture) (path : String) : (files.foldl (fun expected file =>
      expected.override file.filePath (desiredFile item file.filePath)) capture).stateAt path =
      if ∃ file ∈ files, file.filePath = path then item.result.stateAt path
      else capture.stateAt path := by
  induction files generalizing capture with
  | nil => simp
  | cons file rest ih =>
    rw [foldl_cons, ih, stateAt_override]
    simp only [mem_cons, exists_eq_or_imp]
    by_cases here : file.filePath = path
    · subst here
      simp only [true_or, if_true]
      split
      · rfl
      rfl
    simp only [here, false_or, if_false]

theorem matches_finalExpected (names : NamesItem digest item journal)
    (shows : Shows item worktree credited)
    (all : ∀ file, file ∈ credited ↔ file ∈ listedFiles item) :
    matchesCapture (finalExpected item (listedFiles item)) worktree.contents := by
  apply (names.shows_iff.1 shows).matchesCapture
  · exact complete_finalExpected names.complete.2 _ _ names.complete.1
  · exact sameGit_finalExpected _ _
  intro path
  unfold finalExpected
  rw [stateAt_finalExpected]
  simp only [all]
  rfl

theorem succeeds_capture {post : Option WorktreeCheckpointCapture → IntegrationStore → Prop}
    (holds : post (captureWorktreeCheckpoint store.worktree) (captured store)) :
    Succeeds capture store post := by
  apply Succeeds.bind_read
  apply Succeeds.bind
  apply Succeeds.note
  exact .pure holds

theorem succeeds_saveJournal {post : Unit → IntegrationStore → Prop}
    (holds : post () (savedTo store journal)) : Succeeds (saveJournal journal) store post :=
  Succeeds.change holds

variable {file : AgentWorkItemIntegrationFile}

theorem succeeds_restore (names : NamesItem digest item journal)
    {target : String} (identity : target = item.source.expectedTargetIdentity)
    (shows : Shows item store.worktree credited)
    (inside : ∀ other ∈ credited, other ∈ listedFiles item) (listed : file ∈ listedFiles item)
    (fresh : file ∉ credited) : Succeeds (restoreWorktreeBytesChecked file.filePath
        (savedContent item.result.toWorktreeCheckpointCapture file.filePath)
        ((item.result.stateAt file.filePath).map FileState.mode)
        (item.baseline.stateAt file.filePath) target) store
      (fun success after => success = true ∧ Shows item after.worktree (credited ++ [file])) := by
  have allowed : writeAllowed store.worktree file.filePath
      (savedContent item.result.toWorktreeCheckpointCapture file.filePath)
      ((item.result.stateAt file.filePath).map FileState.mode)
      (item.baseline.stateAt file.filePath) target :=
    (names.shows_iff.1 shows).writeAllowed inside listed fresh identity
  apply Succeeds.bind_read
  rw [if_pos allowed]
  apply Succeeds.tryChange
  refine ⟨rfl, ?_⟩
  rw [writtenState_saved]
  exact names.withFile shows file

/-- The end of a loop in which no write fails. -/
structure Completed (digest : EffectInput → String) (item : TrustedAgentWorkItem)
    (files : List AgentWorkItemIntegrationFile) (before : IntegrationJournal)
    (after : IntegrationJournal) (store : IntegrationStore) : Prop where
  names : NamesItem digest item after
  blockers : after.result.blockers = before.result.blockers
  shows : Shows item store.worktree after.result.files
  inside : ∀ file ∈ after.result.files, file ∈ listedFiles item
  kept : ∀ file ∈ before.result.files, file ∈ after.result.files
  all : ∀ file ∈ files, file ∈ after.result.files

theorem succeeds_applyFiles (parents : ∀ path, env.parentReady path = true)
    (files : List AgentWorkItemIntegrationFile) (listed : ∀ file ∈ files, file ∈ listedFiles item)
    (names : NamesItem digest item journal)
    (inside : ∀ file ∈ journal.result.files, file ∈ listedFiles item)
    (shows : Shows item store.worktree journal.result.files) :
    Succeeds (applyFiles item env files journal) store (Completed digest item files journal) := by
  induction files generalizing store journal with
  | nil =>
    apply Succeeds.pure
    exact ⟨names, rfl, shows, inside, fun _ member => member, fun _ member => by cases member⟩
  | cons file rest ih =>
    have restListed : ∀ other ∈ rest, other ∈ listedFiles item := fun other member =>
      listed other (mem_cons_of_mem _ member)
    have here := listed file mem_cons_self
    rw [applyFiles]
    split
    · rename_i confirmed
      apply Succeeds.mono (ih restListed names inside shows)
      intro after later completed
      refine ⟨completed.names, completed.blockers, completed.shows, completed.inside, completed.kept, ?_⟩
      intro other member
      rcases mem_cons.1 member with equal | inRest
      · rw [equal]
        exact completed.kept file confirmed
      exact completed.all other inRest
    rename_i fresh
    apply Succeeds.bind_read
    apply Succeeds.bind_ofExcept (targetIdentity_eq_ok.2 shows.identity)
    rw [if_neg (not_not.2 names.targetIdentity.symm)]
    apply Succeeds.bind
    apply succeeds_saveJournal
    rw [if_neg (by simp [parents])]
    apply Succeeds.bind
    have begun : Shows item (savedTo store { journal with pendingFile := some file }).worktree
        journal.result.files := shows
    apply Succeeds.mono (succeeds_restore names names.targetIdentity begun inside here fresh)
    rintro success after ⟨yes, shown⟩
    rw [if_pos yes]
    apply Succeeds.bind
    apply succeeds_saveJournal
    apply Succeeds.mono
    · apply ih restListed
      · exact names.update _ _ _ _ _ _ _
      · intro other member
        rcases mem_append.1 member with old | last
        · exact inside other old
        rw [mem_singleton.1 last]
        exact here
      · exact shown
    intro final later completed
    refine { completed with kept := ?_, all := ?_ }
    · intro other member
      exact completed.kept other (mem_append_left _ member)
    intro other member
    rcases mem_cons.1 member with equal | inRest
    · apply completed.kept
      rw [equal]
      exact mem_append_right _ (mem_singleton.2 rfl)
    exact completed.all other inRest

/-! ### An attempt -/

theorem succeeds_applyExpected
    (opportune : Opportune digest item env request) (names : NamesItem digest item journal)
    (inside : ∀ file ∈ journal.result.files, file ∈ listedFiles item)
    (shows : Shows item store.worktree journal.result.files)
    (observes : matchesCapture expected worktree.contents) :
    Succeeds (applyExpected item env journal expected worktree.contents) store
      (Completed digest item (listedFiles item) journal) := by
  unfold applyExpected
  dsimp only
  rw [if_pos observes]
  apply Succeeds.bind_read
  apply Succeeds.bind_ofExcept (targetIdentity_eq_ok.2 shows.identity)
  rw [if_neg (not_not.2 names.targetIdentity.symm), if_neg (by simp [opportune.blobs]),
    names.preflight_files]
  apply succeeds_applyFiles opportune.parents
  · exact fun _ member => member
  · exact names
  · exact inside
  exact shows

theorem succeeds_checkFinalState (names : NamesItem digest item journal)
    (shows : Shows item store.worktree journal.result.files)
    (all : ∀ file, file ∈ journal.result.files ↔ file ∈ listedFiles item)
    (unblocked : journal.result.blockers = []) :
    Succeeds (checkFinalState item journal) store (fun checked _ => checked = journal) := by
  have answers : captureWorktreeCheckpoint store.worktree = some store.worktree.contents :=
    if_pos shows.git
  have finalMatches := matches_finalExpected names shows all
  unfold checkFinalState
  rw [if_pos unblocked]
  apply Succeeds.bind
  apply succeeds_capture
  rw [answers]
  dsimp only
  rw [names.preflight_files, if_pos finalMatches]
  apply Succeeds.bind_read
  apply Succeeds.bind_ofExcept (targetIdentity_eq_ok.2 shows.identity)
  apply Succeeds.pure
  rw [if_neg (not_not.2 names.targetIdentity.symm)]

variable {track : Option IntegrateAgentWorkItemRequest}

variable {clean : Prop}

theorem succeeds_applyIntegration
    (opportune : Opportune digest item env request) (tracks : track = some request)
    (savable : Savable digest item clean track store journal)
    (unfinished : journal.result.state ≠ .integrated) (unblocked : journal.result.blockers = []) :
    Succeeds (applyIntegration item env journal) store
      (fun closed _ => closed.result.state = .integrated) := by
  obtain ⟨_, credited, shown, _⟩ := savable.tracked request tracks
  have working : Working digest item track (captured store)
      (expectedTarget item journal store.worktree.contents).1 :=
    savable.captured.credited unfinished (captured_noted store)
  have shows : Shows item store.worktree
      (expectedTarget item journal store.worktree.contents).1.result.files :=
    (working.shows request tracks).2
  have observes := matches_expectedTarget savable.own.names savable.own.progress shows
  have answers : captureWorktreeCheckpoint store.worktree = some store.worktree.contents :=
    if_pos shown.git
  apply Succeeds.bind
  apply succeeds_capture
  rw [answers]
  apply Succeeds.bind
  have applied : Succeeds (applyExpected item env
      (expectedTarget item journal store.worktree.contents).1
      (expectedTarget item journal store.worktree.contents).2 store.worktree.contents)
      (Integration.captured store) _ :=
    succeeds_applyExpected opportune working.own.names working.own.progress.listed shows observes
  apply Succeeds.mono applied
  intro applied later completed
  have same := (expectedTarget_kept item journal store.worktree.contents).1
  have stillUnblocked : applied.result.blockers = [] := by
    rw [completed.blockers, same]
    exact unblocked
  apply Succeeds.bind_mono (succeeds_checkFinalState completed.names completed.shows
    (fun file => ⟨completed.inside file, completed.all file⟩) stillUnblocked)
  intro checked last isApplied
  subst isApplied
  apply Succeeds.bind
  apply succeeds_saveJournal
  apply Succeeds.bind_change
  apply Succeeds.pure
  unfold closeJournal
  rw [if_pos stillUnblocked]

theorem succeeds_runJournal
    (opportune : Opportune digest item env request) (tracks : track = some request)
    (savable : Savable digest item clean track store journal)
    (unfinished : journal.result.state ≠ .integrated) (unblocked : journal.result.blockers = []) :
    Succeeds (runJournal item env journal) store (fun result _ => result.state = .integrated) := by
  apply Succeeds.bind
  apply succeeds_saveJournal
  apply Succeeds.bind_change
  apply Succeeds.bind_mono
    (succeeds_applyIntegration opportune tracks savable.marked unfinished unblocked)
  intro closed after integrated
  exact .pure integrated

theorem validateJournalIdentity_eq_ok (names : NamesItem digest item journal)
    (identity : worktree.identity = some item.source.expectedTargetIdentity) :
    validateJournalIdentity digest item worktree journal = .ok () := by
  have initial := initialPreflight_eq_ok.2 ⟨names.changes, rfl⟩
  have effect := names.effect worktree identity
  have observed := targetIdentity_eq_ok.2 identity
  have base := names.preflight
  have field {α : Type} (get : AgentWorkItemIntegrationPreflight → α) :
      get journal.preflight.base = get (preflightOf item (listedFiles item)) :=
    congrArg get base
  unfold validateJournalIdentity
  simp only [initial, observed, bind, Except.bind]
  rw [show (preflightOf item (listedFiles item)).files = listedFiles item from rfl, effect]
  dsimp only
  rw [if_neg]
  · rfl
  push Not
  refine ⟨?_, ?_, ?_, ?_, ?_, ?_, ?_, ?_, ?_, ?_, names.targetIdentity, names.sourceSession,
    names.candidateSession, rfl⟩
  · exact field workspaceId
  · exact field repositoryId
  · exact field sourceConversationId
  · exact field sourceRequestId
  · exact field sourceAfterCheckpointId
  · exact field candidateWorkspaceId
  · exact field candidateConversationId
  · exact field candidateRequestId
  · exact field candidateAfterCheckpointId
  exact field AgentWorkItemIntegrationPreflight.files

theorem preflightBlockers_eq_nil (opportune : Opportune digest item env request) {resumed : Bool}
    (identity : worktree.identity = some item.source.expectedTargetIdentity)
    (observes : matchesCapture expected worktree.contents)
    (fresh : resumed = false → sourceMatches item worktree = true) :
    preflightBlockers item env (listedFiles item) resumed expected worktree = [] := by
  obtain ⟨proof, passed, _⟩ := opportune.proof
  have blobs : ∀ hash, (!env.savedBlobs hash) = false := fun hash => by
    rw [opportune.blobs]
    rfl
  have target : (!resumed && !sourceMatches item worktree) = false := by
    cases resumed with
    | false =>
      rw [fresh rfl]
      rfl
    | true => rfl
  unfold preflightBlockers
  simp [blobs, passed, observes, identity, target, opportune.candidateMatches, opportune.someFiles]

/-- A preflight that lets the attempt go on. -/
structure Ready (request : IntegrateAgentWorkItemRequest)
    (preflight : AgentWorkItemIntegrationPreflight) : Prop where
  state : preflight.state = .ready
  effectDigest : preflight.effectDigest = request.effectDigest
  blockers : preflight.blockers = []

theorem Ready.goes {preflight : AgentWorkItemIntegrationPreflight} (ready : Ready request preflight) :
    ¬(preflight.state ≠ .ready ∨ preflight.effectDigest ≠ request.effectDigest) := by
  intro stops
  rcases stops with notReady | differs
  · exact notReady ready.state
  exact differs ready.effectDigest

variable {previous : Option IntegrationJournal}

theorem assessPreflight_ready (opportune : Opportune digest item env request)
    (identity : worktree.identity = some item.source.expectedTargetIdentity)
    (validated : validatePrevious digest item worktree previous = .ok ())
    (observes : matchesCapture (expectedCapture item worktree.contents previous) worktree.contents)
    (fresh : previous = none → sourceMatches item worktree = true) :
    ∃ preflight, assessPreflight digest item env (preflightOf item (listedFiles item)) previous
        worktree = .ok (preflight, previous.map fun journal =>
          (expectedTarget item journal worktree.contents).1) ∧ Ready request preflight := by
  obtain ⟨proof, passed, sameDigest⟩ := opportune.proof
  have effect := sameDigest worktree identity
  have noBlockers : preflightBlockers item env (listedFiles item) previous.isSome
      (expectedCapture item worktree.contents previous) worktree = [] := by
    apply preflightBlockers_eq_nil opportune identity observes
    intro absent
    cases previous with
    | none => exact fresh rfl
    | some journal => cases absent
  exists assessedPreflight item env (preflightOf item (listedFiles item))
    (previous.map fun journal => journal.request.requestId) [] request.effectDigest
  refine ⟨?_, ⟨rfl, rfl, rfl⟩⟩
  unfold assessPreflight
  simp only [validated, passed, Except.toOption, Option.map_some, bind, Except.bind]
  rw [show (preflightOf item (listedFiles item)).files = listedFiles item from rfl, effect,
    noBlockers]
  rfl

theorem openJournal_unblocked (preflight : AgentWorkItemIntegrationPreflight)
    (proof : VerifiedTurnChecks) (identity : String) (previous : Option IntegrationJournal)
    (ready : preflight.blockers = []) :
    (openJournal item request preflight proof identity previous).result.blockers = [] := by
  cases previous with
  | none => exact ready
  | some journal => rfl

section

variable (opportune : Opportune digest item env request)
include opportune

theorem operationLeases_eq_ok (inv : Inv digest item True (some request) store) :
    operationLeases item env store.journal store.marker = .ok () := by
  unfold operationLeases
  simp only [opportune.leases, opportune.noRestore, bind, Except.bind]
  cases marked : store.marker with
  | none => rfl
  | some marker =>
    obtain ⟨journal, saved, own⟩ := inv.marker marker marked
    rw [saved, own]
    simp [ownMarker]
    rfl

theorem succeeds_currentPreflight (shows : Shows item store.worktree credited)
    (validated : validatePrevious digest item store.worktree previous = .ok ())
    (observes : matchesCapture (expectedCapture item store.worktree.contents previous)
      store.worktree.contents)
    (fresh : previous = none → sourceMatches item store.worktree = true) :
    Succeeds (currentPreflight digest item env previous) store
      (fun result after => after = captured store ∧ Ready request result.1 ∧
        Assessed digest item env previous store.worktree result.1 result.2) := by
  have begins := initialPreflight_eq_ok.2 ⟨opportune.changes, rfl⟩
  have answers : captureWorktreeCheckpoint store.worktree = some store.worktree.contents :=
    if_pos shows.git
  obtain ⟨preflight, assessed, ready⟩ :=
    assessPreflight_ready opportune shows.identity validated observes fresh
  apply Succeeds.bind_ofExcept begins
  apply Succeeds.bind
  apply succeeds_capture
  rw [answers]
  apply Succeeds.bind_read
  apply Succeeds.ofExcept assessed
  exact ⟨rfl, ready, assessed_of_eq_ok begins assessed⟩

theorem sourceMatches_of_shows
    (shows : Shows item worktree []) : sourceMatches item worktree = true := by
  have matched : matchesCapture item.baseline.toWorktreeCheckpointCapture worktree.contents := by
    obtain ⟨head, branch, index⟩ := shows.sameGit
    apply matchesCapture_iff.2
    refine ⟨(changes_eq_ok.1 opportune.changes).1, shows.complete,
      ⟨head.symm, branch.symm, index.symm⟩, ?_⟩
    intro path
    rw [shows.stateAt, if_neg]
    intro ⟨file, member, _⟩
    cases member
  simp [sourceMatches, shows.identity, shows.git, matched]

theorem succeeds_firstAttempt
    (inv : Inv digest item True (some request) store) (absent : store.journal = none) :
    Succeeds (continueIntegration digest item env request none) store
      (fun result _ => result.state = .integrated) := by
  have shows := (inv.tracked request rfl).fresh absent
  have onSource := sourceMatches_of_shows opportune shows
  have observes : matchesCapture (expectedCapture item store.worktree.contents none)
      store.worktree.contents := by
    simp only [sourceMatches, Bool.and_eq_true] at onSource
    exact onSource.2
  have accepted : Accepted item (some request) request :=
    ⟨opportune.requestId, opportune.validDigest, fun other same => Option.some.inj same⟩
  have leases := operationLeases_eq_ok opportune inv
  rw [absent] at leases
  obtain ⟨proof, passed, _⟩ := opportune.proof
  apply Succeeds.bind_read
  apply Succeeds.bind_ofExcept leases
  apply Succeeds.bind_mono
    (succeeds_currentPreflight opportune shows rfl observes fun _ => onSource)
  rintro ⟨preflight, credited⟩ after ⟨isCaptured, ready, assessed⟩
  subst isCaptured
  have none := assessed.credited
  dsimp only at none
  subst none
  have savable := savable_openJournal_none inv absent accepted assessed ready.state
    ready.effectDigest passed shows.identity
  dsimp only
  rw [if_neg ready.goes, passed]
  apply Succeeds.bind_read
  apply Succeeds.bind_ofExcept (targetIdentity_eq_ok.2 shows.identity)
  apply succeeds_runJournal opportune rfl savable
  · exact fun integrated => by cases integrated
  exact openJournal_unblocked preflight proof.checks _ _ ready.blockers

theorem succeeds_laterAttempt
    (inv : Inv digest item True (some request) store) (saved : store.journal = some journal)
    (unfinished : journal.result.state ≠ .integrated) :
    Succeeds (continueIntegration digest item env request (some journal)) store
      (fun result _ => result.state = .integrated) := by
  obtain ⟨isRequest, _, shown, _⟩ := (inv.tracked request rfl).saved journal saved
  have own := inv.own journal saved
  have working : Working digest item (some request) (captured store)
      (expectedTarget item journal store.worktree.contents).1 :=
    (Savable.ofSaved inv saved unfinished).captured.credited unfinished (captured_noted store)
  have shows : Shows item store.worktree
      (expectedTarget item journal store.worktree.contents).1.result.files :=
    (working.shows request rfl).2
  have observes := matches_expectedTarget own.names own.progress shows
  have validated : validatePrevious digest item store.worktree (some journal) = .ok () :=
    validateJournalIdentity_eq_ok own.names shows.identity
  have leases := operationLeases_eq_ok opportune inv
  rw [saved] at leases
  obtain ⟨proof, passed, _⟩ := opportune.proof
  apply Succeeds.bind_read
  apply Succeeds.bind_ofExcept leases
  apply Succeeds.bind_mono
    (succeeds_currentPreflight opportune shows validated observes fun none => by cases none)
  rintro ⟨preflight, credited⟩ after ⟨isCaptured, ready, assessed⟩
  subst isCaptured
  have isCredited := assessed.credited
  dsimp only [Option.map_some] at isCredited
  subst isCredited
  have savable := savable_openJournal_some journal.targetIdentity inv saved unfinished isRequest
    assessed ready.effectDigest passed
  dsimp only
  rw [if_neg ready.goes, passed]
  apply Succeeds.bind_read
  apply Succeeds.bind_ofExcept rfl
  apply succeeds_runJournal opportune rfl savable
  · exact working.unfinished
  rfl

end

theorem Inv.readJournal (inv : Inv digest item True track store) (workSetId : item.workSetId ≠ 0)
    (taskId : item.taskId ≠ 0) :
    Integration.readJournal item.workSetId item.taskId store.journal = .ok store.journal := by
  unfold Integration.readJournal
  rw [if_neg (not_or.2 ⟨workSetId, taskId⟩)]
  cases saved : store.journal with
  | none => rfl
  | some journal =>
    have readable := (inv.own journal saved).readable (inv.settled trivial journal saved)
    dsimp only
    rw [if_pos readable]

theorem savedAnswer_of_tracked (inv : Inv digest item True (some request) store) :
    (∃ result, savedAnswer request store.journal = .ok (some result) ∧ result.state = .integrated) ∨
    (savedAnswer request store.journal = .ok none ∧
      ∀ journal, store.journal = some journal → journal.result.state ≠ .integrated) := by
  cases saved : store.journal with
  | none =>
    right
    exact ⟨rfl, fun journal none => by cases none⟩
  | some journal =>
    have isRequest := ((inv.tracked request rfl).saved journal saved).1
    have finished := fun integrated =>
      ((inv.own journal saved).progress.integrated integrated).1
    by_cases integrated : journal.result.state = .integrated
    · left
      refine ⟨journal.result, ?_, integrated⟩
      simp only [savedAnswer]
      rw [if_neg (not_not.2 isRequest), if_pos ⟨finished integrated, integrated⟩]
    right
    constructor
    · simp only [savedAnswer]
      rw [if_neg (not_not.2 isRequest), if_neg fun both => integrated both.2]
    intro other same
    cases same
    exact integrated

/-- In an opportune state an integration ends. -/
theorem succeeds_integrate (opportune : Opportune digest item env request)
    (inv : Inv digest item True (some request) store) :
    Succeeds (integrateAgentWorkItem digest item env request) store
      (fun result _ => result.state = .integrated) := by
  have reads := inv.readJournal opportune.workSetId opportune.taskId
  have valid : ¬(request.requestId = 0 ∨ ¬validDigest request.effectDigest) := by
    intro stops
    rcases stops with noId | noDigest
    · exact opportune.requestId noId
    exact noDigest opportune.validDigest
  unfold integrateAgentWorkItem
  rw [if_neg valid]
  apply Succeeds.bind_read
  apply Succeeds.bind_ofExcept reads
  apply Succeeds.bind
  rcases savedAnswer_of_tracked inv with ⟨result, answer, integrated⟩ | ⟨answer, unfinished⟩
  · apply Succeeds.ofExcept answer
    exact .pure integrated
  apply Succeeds.ofExcept answer
  apply Succeeds.bind_ofExcept opportune.candidate
  apply Succeeds.bind_ofExcept opportune.verificationLock
  apply Succeeds.bind_read
  apply Succeeds.bind_ofExcept reads
  apply Succeeds.bind_ofExcept answer
  cases saved : store.journal with
  | none => exact succeeds_firstAttempt opportune inv saved
  | some journal => exact succeeds_laterAttempt opportune inv saved (unfinished journal saved)

end Resume

end Wts.Integration
