/-
Module: Wts.Proofs.IntegrationHistory
Purpose: Runs of attempts, recoveries and outside edits for one work item.
Trusted boundary: none
Main exports: journal_stays_readable, integration_keeps_foreign_work
-/
import Wts.Proofs.IntegrationResume

namespace Wts.Integration

open Checkpoint Interrupt

/-- No attempt of the run begins where its loop would leave a pending file behind. -/
def NeverStuck (digest : EffectInput → String) (item : TrustedAgentWorkItem) :
    IntegrationStore → List (IntegrationEvent item) → Prop
  | _, [] => True
  | store, .attempt env request fates :: later =>
    ¬Stuck item store ∧
      NeverStuck digest item (integrationStep digest item store (.attempt env request fates)) later
  | store, event :: later => NeverStuck digest item (integrationStep digest item store event) later

/-- Only one request is attempted, and nothing is edited from outside. -/
def Repeats {item : TrustedAgentWorkItem} (request : IntegrateAgentWorkItemRequest) :
    IntegrationEvent item → Prop
  | .attempt _ other _ => other = request
  | .recover _ _ => True
  | .edit _ => False

section Runs

variable {digest : EffectInput → String} {item : TrustedAgentWorkItem} {clean : Prop}
  {track : Option IntegrateAgentWorkItemRequest} {store : IntegrationStore}

variable {request : IntegrateAgentWorkItemRequest}

theorem Inv.attempt (inv : Inv digest item clean track store) (env : AttemptEnv item)
    (fates : List Fate) (tracked : ∀ tracked, track = some tracked → request = tracked)
    (free : clean → ¬Stuck item store) : Inv digest item clean track
      (integrationStep digest item store (.attempt env request fates)) := by
  apply Ends.after
  apply Ends.mono (ends_integrate env inv tracked free)
  · exact fun _ _ _ attempted => attempted.inv
  exact fun _ _ kept => kept

theorem Inv.recover (inv : Inv digest item clean track store) (env : RecoverEnv)
    (fates : List Fate) :
    Inv digest item clean track (integrationStep digest item store (.recover env fates)) :=
  Ends.after _ (ends_recover env inv)

theorem Inv.edit (inv : Inv digest item clean none store) (worktree : Worktree) :
    Inv digest item clean none (integrationStep digest item store (.edit worktree)) where
  __ := inv
  tracked := fun request none => by cases none

theorem inv_integrationRun (events : List (IntegrationEvent item))
    (inv : Inv digest item clean track store)
    (repeats : ∀ request, track = some request → ∀ event ∈ events, Repeats request event)
    (free : clean → NeverStuck digest item store events) :
    Inv digest item clean track (integrationRun digest item store events) := by
  induction events generalizing store with
  | nil => exact inv
  | cons event later ih =>
    have restRepeats : ∀ request, track = some request → ∀ other ∈ later, Repeats request other :=
      fun request same other member => repeats request same other (List.mem_cons_of_mem _ member)
    cases event with
    | attempt env request fates =>
      apply ih _ restRepeats fun isClean => (free isClean).2
      apply inv.attempt
      · intro tracked same
        exact repeats tracked same _ List.mem_cons_self
      exact fun isClean => (free isClean).1
    | recover env fates =>
      apply ih _ restRepeats fun isClean => free isClean
      exact inv.recover env fates
    | edit worktree =>
      apply ih _ restRepeats fun isClean => free isClean
      cases track with
      | none => exact inv.edit worktree
      | some request => exact (repeats request rfl _ List.mem_cons_self).elim

variable {worktree : Worktree}

theorem inv_initial (shows : ∀ request, track = some request → Shows item worktree []) :
    Inv digest item clean track (.initial worktree) where
  notes := soundNotes_nil item
  own := fun journal none => by cases none
  seen := fun journal none => by cases none
  settled := fun _ journal none => by cases none
  marker := fun marker none => by cases none
  tracked := fun request same => ⟨fun _ => shows request same, fun journal none => by cases none⟩

theorem neverStuck_append (earlier later : List (IntegrationEvent item)) :
    NeverStuck digest item store (earlier ++ later) ↔ NeverStuck digest item store earlier ∧
        NeverStuck digest item (integrationRun digest item store earlier) later := by
  induction earlier generalizing store with
  | nil => exact ⟨fun free => ⟨trivial, free⟩, fun both => both.2⟩
  | cons event rest ih =>
    cases event with
    | attempt env request fates =>
      show (¬Stuck item store ∧ NeverStuck digest item _ (rest ++ later)) ↔
        (¬Stuck item store ∧ NeverStuck digest item _ rest) ∧ _
      rw [ih, and_assoc]
      rfl
    | recover env fates => exact ih
    | edit worktree => exact ih

theorem neverStuck_first (env : AttemptEnv item)
    (request : IntegrateAgentWorkItemRequest) (fates : List Fate) :
    NeverStuck digest item (.initial worktree) [.attempt env request fates] := by
  refine ⟨?_, trivial⟩
  intro ⟨journal, saved, _⟩
  cases saved

/-! ### An integrated journal stays -/

/-- The journal of a finished integration. -/
structure Finished (journal : IntegrationJournal) (store : IntegrationStore) : Prop where
  saved : store.journal = some journal
  finished : journal.finished = true
  integrated : journal.result.state = .integrated

variable {journal : IntegrationJournal}

section

variable (kept : Finished journal store)
include kept

theorem Finished.attempt
    (env : AttemptEnv item) (request : IntegrateAgentWorkItemRequest) (fates : List Fate) :
    (integrateAgentWorkItem digest item env request fates store).store = store := by
  have answered : ∀ answer, savedAnswer request (some journal) = .ok answer →
      answer = some journal.result := by
    intro answer isAnswer
    simp only [savedAnswer] at isAnswer
    split at isAnswer
    · cases isAnswer
    rw [if_pos ⟨kept.finished, kept.integrated⟩] at isAnswer
    exact (Except.ok.inj isAnswer).symm
  have ends : Ends (integrateAgentWorkItem digest item env request) fates store
      (fun _ _ after => after = store) (fun _ after => after = store) := by
    refine Ends.guard rfl fun _ => ?_
    apply Ends.bind_read
    apply Ends.bind_ofExcept
    · exact fun _ _ => rfl
    intro previous read
    have same : previous = some journal := (readJournal_eq_ok read).1.trans kept.saved
    apply Ends.bind_ofExcept
    · exact fun _ _ => rfl
    intro answer isAnswer
    rw [same] at isAnswer
    rw [answered answer isAnswer]
    exact .pure rfl
  exact Ends.after (fun after => after = store) ends

theorem Finished.recover (env : RecoverEnv) (fates : List Fate) :
    Finished journal (recoverPendingWorkspace item env fates store).store := by
  have ends : Ends (recoverPendingWorkspace item env) fates store
      (fun _ _ after => Finished journal after) (fun _ after => Finished journal after) := by
    have unmarked : Finished journal { store with marker := none } :=
      ⟨kept.saved, kept.finished, kept.integrated⟩
    apply Ends.bind_read
    split
    · exact .pure kept
    refine Ends.guard kept fun _ => ?_
    apply Ends.bind_ofExcept
    · exact fun _ _ => kept
    intro previous read
    have same : previous = some journal := (readJournal_eq_ok read).1.trans kept.saved
    rw [same]
    refine Ends.guard kept fun _ => ?_
    apply Ends.bind_ofExcept
    · exact fun _ _ => kept
    intro _ _
    apply Ends.ite
    · intro _
      apply Ends.change
      · exact fun _ => unmarked
      · exact fun _ => kept
      exact fun _ => unmarked
    intro unfinished
    exact absurd kept.finished unfinished
  exact Ends.after (fun after => Finished journal after) ends

theorem integrated_journal_stays (events : List (IntegrationEvent item)) :
    Finished journal (integrationRun digest item store events) := by
  induction events generalizing store with
  | nil => exact kept
  | cons event later ih =>
    apply ih
    cases event with
    | attempt env request fates =>
      rw [integrationStep, kept.attempt]
      exact kept
    | recover env fates => exact kept.recover env fates
    | edit worktree => exact ⟨kept.saved, kept.finished, kept.integrated⟩

theorem Finished.replays (workSetId : item.workSetId ≠ 0) (taskId : item.taskId ≠ 0)
    (readable : ReadableJournal item.workSetId item.taskId journal) (env : AttemptEnv item)
    (fates : List Fate) : integrateAgentWorkItem digest item env journal.request fates store =
      { outcome := .value journal.result, fates := fates, store := store } := by
  have reads : readJournal item.workSetId item.taskId store.journal = .ok (some journal) := by
    rw [kept.saved]
    unfold readJournal
    rw [if_neg (not_or.2 ⟨workSetId, taskId⟩)]
    exact if_pos readable
  have answers : savedAnswer journal.request (some journal) = .ok (some journal.result) := by
    simp only [savedAnswer]
    rw [if_neg (not_not.2 rfl), if_pos ⟨kept.finished, kept.integrated⟩]
  have valid : ¬(journal.request.requestId = 0 ∨ ¬validDigest journal.request.effectDigest) := by
    intro stops
    rcases stops with noId | noDigest
    · exact readable.requestId noId
    exact noDigest readable.validDigest
  have ends : Ends (integrateAgentWorkItem digest item env journal.request) fates store
      (fun result left after => result = journal.result ∧ left = fates ∧ after = store)
      (fun _ _ => False) := by
    unfold integrateAgentWorkItem
    rw [if_neg valid]
    apply Ends.bind_read
    rw [reads]
    apply Ends.bind_ofExcept
    · exact fun error none => by cases none
    intro previous same
    cases same
    rw [answers]
    apply Ends.bind_ofExcept
    · exact fun error none => by cases none
    intro answer isAnswer
    cases isAnswer
    exact .pure ⟨rfl, rfl, rfl⟩
  obtain ⟨result, left, after, ⟨isResult, sameFates, sameStore⟩, returned⟩ := ends.returns
  rw [returned, isResult, sameFates, sameStore]

end

theorem ids_of_value {env : AttemptEnv item}
    {fates left : List Fate} {result : AgentWorkItemIntegrationResult} {after : IntegrationStore}
    (returned : integrateAgentWorkItem digest item env request fates store =
      { outcome := .value result, fates := left, store := after }) :
    item.workSetId ≠ 0 ∧ item.taskId ≠ 0 := by
  have ends : Ends (integrateAgentWorkItem digest item env request) fates store
      (fun _ _ _ => item.workSetId ≠ 0 ∧ item.taskId ≠ 0) (fun _ _ => True) := by
    refine Ends.guard trivial fun _ => ?_
    apply Ends.bind_read
    apply Ends.bind_ofExcept
    · exact fun _ _ => trivial
    intro previous read
    have ids : item.workSetId ≠ 0 ∧ item.taskId ≠ 0 := by
      unfold readJournal at read
      split at read
      · cases read
      rename_i nonzero
      exact not_or.1 nonzero
    exact .always (fun _ _ _ => ids) fun _ _ => trivial
  exact (ends_iff.1 ends).1 result left after returned

end Runs

def sampleReceipt (workspaceId sessionId : Uuid) (nonzero : sessionId ≠ 0) : TurnReceipt where
  workspaceId := workspaceId
  repositoryId := "orders"
  sessionId := sessionId
  sourceContextSha256 := "context"
  after :=
    { checkpointId := 5
      headCommitOid := "head"
      branchName := "main"
      capturedAtUnixMs := 0
      treeSha256 := "tree"
      indexSha256 := "index" }
  sessionId_ne_zero := nonzero

def sampleItem : TrustedAgentWorkItem where
  workSetId := 1
  taskId := 2
  originConversationId := 3
  originRequestId := 4
  childConversationId := 5
  childRequestId := 6
  source :=
    { target := "/work/original"
      receipt := sampleReceipt 7 8 (by decide)
      expectedTargetIdentity := "original-root" }
  candidate :=
    { target := "/work/candidate"
      receipt := sampleReceipt 9 10 (by decide)
      expectedTargetIdentity := "candidate-root" }
  baseline := sampleCapture "old"
  result := sampleCapture "new"

def sampleCheck : VerificationCheck where
  id := "unit"
  label := "Unit tests"
  kind := .unit
  repositoryId := none
  workingDirectory := "/work/candidate"
  executable := "cargo"
  args := ["test"]
  timeoutMs := 1000
  outputLimitBytes := 1000
  required := true
  environmentNames := []
  acceptanceFiles := []

def sampleProof : CheckProof sampleItem where
  checks :=
    { afterCheckpointId := 5
      planRevision := 1
      checks := [{ check := sampleCheck, runId := 11, completedAtUnixMs := 0 }] }
  checkpoint := rfl
  nonempty := List.cons_ne_nil _ _
  count := by decide

def sampleEnv : AttemptEnv sampleItem where
  candidate := .ok ()
  verificationLock := .ok ()
  leases := .ok ()
  restorePending := false
  savedBlobs := fun _ => true
  proof := .ok sampleProof
  candidateMatches := true
  parentReady := fun _ => true
  clock := 1

def sampleRequest : IntegrateAgentWorkItemRequest where
  requestId := 12
  effectDigest := "sha256:00000000000000000000000000000000000000000000000000000000000000ab"

def sampleDigest (_ : EffectInput) : String :=
  sampleRequest.effectDigest

def sampleTarget : Worktree where
  identity := some "original-root"
  gitAnswers := true
  contents := (sampleCapture "old").toWorktreeCheckpointCapture

def sampleAttempt (fates : List Fate) : IntegrationEvent sampleItem :=
  .attempt sampleEnv sampleRequest fates

def sampleRun (events : List (IntegrationEvent sampleItem)) : IntegrationStore :=
  integrationRun sampleDigest sampleItem (.initial sampleTarget) events

theorem opportune_sample : Opportune sampleDigest sampleItem sampleEnv sampleRequest where
  workSetId := by decide
  taskId := by decide
  requestId := by decide
  validDigest := by decide +kernel
  changes := by decide +kernel
  someFiles := by decide +kernel
  candidate := rfl
  verificationLock := rfl
  leases := rfl
  noRestore := rfl
  blobs := fun _ => rfl
  candidateMatches := rfl
  parents := fun _ => rfl
  proof := by
    refine ⟨sampleProof, rfl, ?_⟩
    intro worktree identity
    have same : worktree.identity = sampleTarget.identity := identity
    rw [effectDigest_congr same]
    decide +kernel

theorem shows_sampleTarget : Shows sampleItem sampleTarget [] where
  identity := rfl
  git := rfl
  complete := by decide +kernel
  sameGit := ⟨rfl, rfl, rfl⟩
  stateAt := by
    intro path
    rw [if_neg]
    · rfl
    intro ⟨file, member, _⟩
    cases member

/-- The stored journal can be read after every run in which no attempt begins where a pending file
completes the list. -/
theorem journal_stays_readable (digest : EffectInput → String) (item : TrustedAgentWorkItem)
    (worktree : Worktree) (events : List (IntegrationEvent item))
    (free : NeverStuck digest item (.initial worktree) events) :
    (∀ journal, (integrationRun digest item (.initial worktree) events).journal = some journal →
      ReadableJournal item.workSetId item.taskId journal) ∧
    ∀ earlier env request fates later result left after,
      events = earlier ++ .attempt env request fates :: later →
      integrateAgentWorkItem digest item env request fates
          (integrationRun digest item (.initial worktree) earlier) =
        { outcome := .value result, fates := left, store := after } →
      result.state = .integrated →
      ∀ (env : AttemptEnv item) (fates : List Fate),
        integrateAgentWorkItem digest item env request fates
            (integrationRun digest item (.initial worktree) events) =
          { outcome := .value result, fates := fates,
            store := integrationRun digest item (.initial worktree) events } := by
  have runInv (prior : List (IntegrationEvent item))
      (isFree : NeverStuck digest item (.initial worktree) prior) :
      Inv digest item True none (integrationRun digest item (.initial worktree) prior) := by
    apply inv_integrationRun
    · exact inv_initial fun request none => by cases none
    · exact fun request none => by cases none
    · exact fun _ => isFree
  have readable : ∀ journal,
      (integrationRun digest item (.initial worktree) events).journal = some journal →
      ReadableJournal item.workSetId item.taskId journal := by
    intro journal saved
    have inv := runInv events free
    exact (inv.own journal saved).readable (inv.settled trivial journal saved)
  refine ⟨readable, ?_⟩
  intro earlier env request fates later result left after split returned integrated laterEnv laterFates
  subst split
  obtain ⟨earlierFree, attemptFree⟩ := (neverStuck_append _ _).1 free
  have attempted := (ends_iff.1 (ends_integrate env (runInv earlier earlierFree)
    (fun tracked none => by cases none) fun _ => attemptFree.1)).1 result left after returned
  obtain ⟨journal, saved, isRequest, finished, isResult⟩ := attempted.kept integrated
  have kept : Finished journal after := ⟨saved, finished, by rw [isResult]; exact integrated⟩
  have stays : Finished journal (integrationRun digest item (.initial worktree)
      (earlier ++ .attempt env request fates :: later)) := by
    have step : integrationRun digest item (.initial worktree)
        (earlier ++ .attempt env request fates :: later) =
        integrationRun digest item after later := by
      unfold integrationRun at returned ⊢
      rw [List.foldl_append, List.foldl_cons, integrationStep, returned]
    rw [step]
    exact integrated_journal_stays kept later
  obtain ⟨workSetId, taskId⟩ := ids_of_value returned
  have replays : integrateAgentWorkItem digest item laterEnv journal.request laterFates _ = _ :=
    stays.replays workSetId taskId (readable journal stays.saved) laterEnv laterFates
  rw [isRequest, isResult] at replays
  exact replays

theorem journal_stays_readable_sample :
    ∃ journal, (sampleRun [sampleAttempt []]).journal = some journal ∧
      ReadableJournal sampleItem.workSetId sampleItem.taskId journal := by
  have readable := (journal_stays_readable sampleDigest sampleItem sampleTarget [sampleAttempt []]
    (neverStuck_first _ _ _)).1
  have saved : (sampleRun [sampleAttempt []]).journal.isSome = true := by decide +kernel
  obtain ⟨journal, isJournal⟩ := Option.isSome_iff_exists.1 saved
  exact ⟨journal, isJournal, readable journal isJournal⟩

/-- The write of the only file is reported as failed after it took place. -/
theorem journal_unreadable_counterexample :
    (integrateAgentWorkItem sampleDigest sampleItem sampleEnv sampleRequest []
        (sampleRun [sampleAttempt [.done, .done, .done, .uncertain]])).outcome.result?.any
      (fun result => result.state = .integrated) = true ∧
    (sampleRun [sampleAttempt [.done, .done, .done, .uncertain], sampleAttempt []]).journal.any
      (fun journal => !decide (ReadableJournal sampleItem.workSetId sampleItem.taskId journal)) =
        true ∧ (integrateAgentWorkItem sampleDigest sampleItem sampleEnv sampleRequest []
        (sampleRun [sampleAttempt [.done, .done, .done, .uncertain], sampleAttempt []])).outcome =
      .failed .agentConversationUnavailable := by
  decide +kernel

/-- Whatever happens in a run, files are written only from their baseline state and only when they
are listed, credited files were seen, and an integration is recorded only on the final state. -/
theorem integration_keeps_foreign_work (digest : EffectInput → String) (item : TrustedAgentWorkItem)
    (worktree : Worktree) (events : List (IntegrationEvent item)) :
    SoundNotes item (integrationRun digest item (.initial worktree) events).notes ∧
    (∀ env request fates result left after, integrateAgentWorkItem digest item env request fates
          (integrationRun digest item (.initial worktree) events) =
        { outcome := .value result, fates := left, store := after } →
      ∀ file ∈ result.files, Seen item after.notes file) ∧
    ∀ request, Shows item worktree [] → (∀ event ∈ events, Repeats request event) →
      NeverStuck digest item (.initial worktree) events →
      ∀ env, Opportune digest item env request →
        ∃ result after, result.state = .integrated ∧
          integrateAgentWorkItem digest item env request []
              (integrationRun digest item (.initial worktree) events) =
            { outcome := .value result, fates := [], store := after } := by
  have inv : Inv digest item False none (integrationRun digest item (.initial worktree) events) := by
    apply inv_integrationRun
    · exact inv_initial fun request none => by cases none
    · exact fun request none => by cases none
    · exact fun never => never.elim
  refine ⟨inv.notes, ?_, ?_⟩
  · intro env request fates result left after returned
    exact ((ends_iff.1 (ends_integrate env inv (fun tracked none => by cases none)
      fun never => never.elim)).1 result left after returned).seen
  intro request shows repeats free env opportune
  apply succeeds_iff.1
  apply succeeds_integrate opportune
  apply inv_integrationRun
  · apply inv_initial
    intro tracked same
    exact shows
  · intro tracked same
    cases same
    exact repeats
  · exact fun _ => free

/-- The sample attempt is cut off after its file was written, and the repeated request ends
integrated. -/
theorem integration_keeps_foreign_work_sample : ∃ result after, result.state = .integrated ∧
      integrateAgentWorkItem sampleDigest sampleItem sampleEnv sampleRequest []
          (sampleRun [sampleAttempt [.done, .done, .done, .cutAfter]]) =
        { outcome := .value result, fates := [], store := after } := by
  apply (integration_keeps_foreign_work sampleDigest sampleItem sampleTarget
    [sampleAttempt [.done, .done, .done, .cutAfter]]).2.2 sampleRequest shows_sampleTarget
  · intro event member
    rw [List.mem_singleton.1 member]
    exact rfl
  · exact neverStuck_first _ _ _
  · exact opportune_sample

/-- The first attempt is cut off after it wrote the only file, the second after it recorded the
integration. -/
theorem resumption_counterexample :
    ¬∀ events : List (IntegrationEvent sampleItem), (∀ event ∈ events, Repeats sampleRequest event) →
      ∃ result after, result.state = .integrated ∧
        integrateAgentWorkItem sampleDigest sampleItem sampleEnv sampleRequest []
            (sampleRun events) =
          { outcome := .value result, fates := [], store := after } := by
  intro resumes
  have repeats : ∀ event ∈ [sampleAttempt [.done, .done, .done, .cutAfter],
      sampleAttempt [.done, .done, .done, .cutBefore]], Repeats sampleRequest event := by
    intro event member
    simp only [List.mem_cons, List.not_mem_nil, or_false] at member
    rcases member with first | second
    · rw [first]
      exact rfl
    · rw [second]
      exact rfl
  obtain ⟨result, after, _, returned⟩ := resumes _ repeats
  have fails : (integrateAgentWorkItem sampleDigest sampleItem sampleEnv sampleRequest []
      (sampleRun [sampleAttempt [.done, .done, .done, .cutAfter],
        sampleAttempt [.done, .done, .done, .cutBefore]])).outcome =
      .failed .agentConversationUnavailable := by
    decide +kernel
  rw [returned] at fails
  cases fails

end Wts.Integration
