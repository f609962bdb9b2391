/-
Module: Wts.Proofs.TurnRestoreHistory
Purpose: Whole runs of restore requests, recoveries and outside edits.
Trusted boundary: none
Main exports: restore_keeps_later_work, restore_resumable_iff
-/
import Wts.Proofs.TurnRestoreResume

namespace Wts.TurnRestore

open Checkpoint Interrupt
open Integration (AgentTurnCheckpoint)

section Begun

variable {digest : EffectInput → String} {turn : ReadyTurn} {env : RequestEnv}
  {request : AgentTurnRestoreRequest} {store : RestoreStore} {journal : RestoreJournal}
  {fates : List Fate}

/-! ### Restores that begin or go on -/

/-- The request starts a restore, takes one up again or waits for its recovery. -/
def Begins (digest : EffectInput → String) (turn : ReadyTurn) (env : RequestEnv)
    (store : RestoreStore) (request : AgentTurnRestoreRequest) : Prop :=
  ∃ decision, decideRestore digest turn.stored env store request = .ok decision ∧
    (decision = .recover ∨ ∃ journal, decision = .start journal)

/-- The worktree is as the saved journal of the request says. -/
def Undisturbed (turn : ReadyTurn) (request : AgentTurnRestoreRequest) (store : RestoreStore) :
    Prop :=
  ∀ journal, store.journals request.requestId = some journal →
    turn.plan.Records store.worktree journal.result.files journal.pendingFile

variable {worktree : Worktree}

theorem loadCheckTarget_of_ok {after : WorktreeCheckpointCapture}
    (loaded : loadCheckTarget turn.stored env worktree = .ok after) :
    after = turn.after.toWorktreeCheckpointCapture := by
  obtain ⟨_, _, loaded⟩ := bind_eq_ok.1 loaded
  split at loaded
  · cases loaded
  obtain ⟨_, _, loaded⟩ := bind_eq_ok.1 loaded
  obtain ⟨_, _, loaded⟩ := bind_eq_ok.1 loaded
  obtain ⟨_, _, loaded⟩ := bind_eq_ok.1 loaded
  split at loaded
  · obtain ⟨identity, _, loaded⟩ := bind_eq_ok.1 loaded
    split at loaded
    · cases loaded
    obtain ⟨_, _, same⟩ := bind_eq_ok.1 loaded
    cases same
    rfl
  cases loaded

theorem shows_of_freshPreflight {preflight : AgentTurnRestorePreflight}
    (fresh : freshPreflight digest turn.stored env worktree = .ok preflight)
    (ready : preflight.state = .ready) : turn.plan.Shows worktree [] := by
  obtain ⟨blockers, isBlockers, isPreflight⟩ := bind_eq_ok.1 fresh
  split at isPreflight
  · rename_i none
    subst none
    unfold freshBlockers at isBlockers
    rw [if_pos (receiptBlockers_eq_nil turn)] at isBlockers
    unfold targetBlockers at isBlockers
    split at isBlockers
    · rename_i after loaded
      have isAfter := loadCheckTarget_of_ok loaded
      subst isAfter
      obtain ⟨same, isSame, rest⟩ := bind_eq_ok.1 isBlockers
      obtain ⟨identity, isIdentity, matching⟩ := bind_eq_ok.1 isSame
      split at matching
      · cases matching
        cases rest
      rename_i sameRoot
      have sameRoot : identity = turn.targetIdentity := not_not.1 sameRoot
      split at matching
      · cases matching
      rename_i current captured
      obtain ⟨answers, isCurrent⟩ := captureWorktreeCheckpoint_eq_some.1 captured
      cases same with
      | false => cases rest
      | true =>
        apply FilePlan.shows_of_matchesStart
        · rw [targetIdentity_eq_ok.1 isIdentity, sameRoot]
          rfl
        · exact answers
        rw [← isCurrent]
        exact Except.ok.inj matching
    cases isBlockers
  cases isPreflight
  cases ready

theorem shows_of_started (completed : store.completed = none)
    (decided : decideFresh digest turn.stored env store request = .ok (.start journal)) :
    turn.plan.Shows store.worktree [] := by
  obtain ⟨_, _, decided⟩ := bind_eq_ok.1 decided
  split at decided
  · cases decided
  · cases decided
  obtain ⟨preflight, validated, decided⟩ := bind_eq_ok.1 decided
  split at decided
  · cases decided
  rename_i goes
  push Not at goes
  obtain ⟨answer, read, fresh⟩ := bind_eq_ok.1 validated
  rw [historicalResult_none completed] at read
  cases read
  exact shows_of_freshPreflight fresh goes.1

variable {decision : RestoreDecision}

theorem valid_of_decided
    (decided : decideRestore digest turn.stored env store request = .ok decision) :
    request.requestId ≠ 0 ∧ validSha256 request.effectDigest = true := by
  unfold decideRestore at decided
  split at decided
  · cases decided
  rename_i valid
  push Not at valid
  exact valid

theorem decideFresh_of_decided (absent : store.journals request.requestId = none)
    (decided : decideRestore digest turn.stored env store request = .ok decision) :
    decideFresh digest turn.stored env store request = .ok decision := by
  unfold decideRestore at decided
  split at decided
  · cases decided
  obtain ⟨_, _, decided⟩ := bind_eq_ok.1 decided
  rw [absent] at decided
  exact decided

theorem Inv.track (inv : Inv digest turn True none store)
    (marker : ∀ marker, store.marker = some marker → marker.restoreRequestId = request.requestId)
    (tracked : Tracked turn request store) : Inv digest turn True (some request) store where
  notes := fun none => by cases none
  noted := fun none => by cases none
  own := fun id _ => inv.own id fun _ none => by cases none
  marker := by
    intro found marked
    obtain ⟨own, _, saved⟩ := inv.marker found marked
    refine ⟨own, ?_, saved⟩
    intro other same
    cases same
    exact marker found marked
  completed := fun _ none => by cases none
  settled := fun isClean id _ => inv.settled isClean id fun _ none => by cases none
  tracked := by
    intro other same
    cases same
    exact tracked

theorem tracked_of_begins (inv : Inv digest turn True none store)
    (begins : Begins digest turn env store request) (undisturbed : Undisturbed turn request store) :
    Inv digest turn True (some request) store ∧ Asked digest turn request := by
  have all : ∀ id, Covers none id := fun id tracked none => by cases none
  obtain ⟨decision, decided, goes⟩ := begins
  obtain ⟨nonzero, validDigest⟩ := valid_of_decided decided
  rcases decideRestore_of_ok decided with ⟨journal, saved, isRequest, isDecision⟩ |
    ⟨absent, unmarked, isDecision⟩
  · have own := inv.own _ (all _) journal saved
    have keeps (began : journal.result.state ≠ .conflict)
        (marker : ∀ marker, store.marker = some marker →
          marker.restoreRequestId = request.requestId) :
        Inv digest turn True (some request) store ∧ Asked digest turn request := by
      constructor
      · apply inv.track marker
        constructor
        · intro none
          rw [none] at saved
          cases saved
        intro other isSaved
        have same : other = journal := Option.some.inj (isSaved.symm.trans saved)
        subst same
        exact ⟨isRequest, began, undisturbed other saved⟩
      refine ⟨nonzero, validDigest, ?_⟩
      rw [← isRequest]
      exact own.effect began
    cases isDecision with
    | answer finished =>
      rcases goes with never | ⟨other, never⟩
      · cases never
      cases never
    | recover unfinished =>
      have began : journal.result.state ≠ .conflict := by
        rw [own.unfinished unfinished]
        exact fun conflict => by cases conflict
      apply keeps began
      intro marker marked
      rcases inv.settled trivial _ (all _) journal saved began with isMarked | ⟨_, finished, _⟩
      · rw [isMarked] at marked
        cases marked
        rfl
      rw [unfinished] at finished
      cases finished
    | start finished incomplete unmarked =>
      apply keeps
      · rw [incomplete]
        exact fun conflict => by cases conflict
      intro marker marked
      rw [unmarked] at marked
      cases marked
  have fresh := decideFresh_of_decided absent decided
  cases isDecision with
  | refuse preflight =>
    rcases goes with never | ⟨other, never⟩
    · cases never
    cases never
  | start preflight _ effect resumes =>
    -- A completed record would have a journal under the id of the request.
    have completed : store.completed = none := by
      apply Option.eq_none_iff_forall_ne_some.2
      intro result isCompleted
      obtain ⟨journal, saved, _⟩ := inv.completed trivial rfl result isCompleted
      rw [resumes result isCompleted, absent] at saved
      cases saved
    constructor
    · apply inv.track
      · intro marker marked
        rw [unmarked] at marked
        cases marked
      · constructor
        · exact fun _ => ⟨unmarked, completed, shows_of_started completed fresh⟩
        · intro journal saved
          rw [absent] at saved
          cases saved
    exact ⟨nonzero, validDigest, effect⟩

theorem ends_begun (env : RequestEnv) (inv : Inv digest turn True (some request) store)
    (begins : Begins digest turn env store request)
    (whole : Whole digest turn env store request fates) :
    Ends (restoreAgentTurn digest turn.stored env request) fates store
      (fun _ _ after => Inv digest turn True (some request) after)
      (fun _ after => Inv digest turn True (some request) after) := by
  have isTracked : ∀ other, some request = some other → request = other :=
    fun other same => Option.some.inj same
  have sole (journal : RestoreJournal) (isRequest : journal.request = request) :
      True → Sole (some request) store journal.request.requestId := by
    intro _ other covers _ _ _
    rw [isRequest]
    exact covers request rfl
  obtain ⟨begun, isBegun, goes⟩ := begins
  apply Ends.bind_read
  apply Ends.bind_ofExcept
  · exact fun _ _ => inv
  intro decision decided
  have same : begun = decision := Except.ok.inj (isBegun.symm.trans decided)
  subst same
  rcases decideRestore_of_ok decided with ⟨journal, saved, isRequest, isDecision⟩ |
    ⟨absent, unmarked, isDecision⟩
  · cases isDecision with
    | answer finished => exact .pure inv
    | recover unfinished =>
      apply Ends.bind_mono (ends_recover env.toRecoverEnv inv)
      · exact fun _ _ kept => kept
      intro _ left after kept
      apply Ends.bind_read
      apply Ends.bind_ofExcept
      · exact fun _ _ => kept
      intro recovered read
      apply Ends.ite
      · exact fun _ => Ends.pure kept
      exact fun _ => Ends.fail kept
    | start finished incomplete unmarked =>
      have savable := savable_retried inv saved isRequest incomplete isTracked
      apply Ends.mono (ends_runJournal env inv savable incomplete
        (sole journal.retried isRequest) fun _ => whole _ decided)
      · intro result left after ⟨closed, rests, _, _⟩
        exact rests.inv
      exact fun _ _ kept => kept
  cases isDecision with
  | refuse preflight =>
    exfalso
    rcases goes with never | ⟨other, never⟩
    · cases never
    cases never
  | start preflight _ effect resumes =>
    have savable := savable_startedJournal inv absent preflight effect isTracked
    apply Ends.mono (ends_runJournal env inv savable rfl (sole _ rfl) fun _ => whole _ decided)
    · intro result left after ⟨closed, rests, _, _⟩
      exact rests.inv
    exact fun _ _ kept => kept

def calmEnv : RequestEnv where
  savedBlobs := fun _ => true
  clock := 1
  operationLease := .ok ()
  record := .ok ()
  conversation := .ok ()
  turnLease := .ok ()
  conversationAgrees := true
  receipt := .ok ()
  conversations := .ok ()
  sessions := .ok ()
  leases := .ok ()
  sourceWorktree := .ok true
  parentIsDir := fun _ => true

theorem opportune_calmEnv : Opportune calmEnv where
  blobs := fun _ => rfl
  operationLease := rfl
  record := rfl
  conversation := rfl
  turnLease := rfl
  conversationAgrees := rfl
  receipt := rfl
  conversations := rfl
  sessions := rfl
  leases := rfl
  sourceWorktree := rfl
  parents := fun _ => rfl

theorem store_of_torn (isTorn : torn fates = true) :
    (runJournal turn.stored env journal fates store).store = savedTo store journal := by
  unfold torn at isTorn
  split at isTorn
  · rfl
  · rfl
  · rfl
  · rfl
  cases isTorn

theorem starts_of_not_whole (torn : ¬Whole digest turn env store request fates) :
    ∃ journal, decideRestore digest turn.stored env store request = .ok (.start journal) ∧
      TurnRestore.torn fates = true := by
  unfold Whole at torn
  push Not at torn
  obtain ⟨journal, decided, isTorn⟩ := torn
  exact ⟨journal, decided, Bool.eq_true_of_not_eq_false isTorn⟩

theorem store_of_start (decided : decideRestore digest turn.stored env store request =
      .ok (.start journal)) : restoreAgentTurn digest turn.stored env request fates store =
      runJournal turn.stored env journal fates store := by
  show Proc.bind (Proc.ofExcept (decideRestore digest turn.stored env store request)) _ fates store = _
  rw [decided]
  rfl

theorem unfinished_of_start (decided : decideRestore digest turn.stored env store request =
      .ok (.start journal)) :
    journal.finished = false ∧ journal.request = request ∧ store.marker = none := by
  rcases decideRestore_of_ok decided with ⟨saved, _, isRequest, isDecision⟩ |
    ⟨_, unmarked, isDecision⟩
  · cases isDecision with
    | start finished incomplete unmarked => exact ⟨rfl, isRequest, unmarked⟩
  cases isDecision with
  | start preflight _ effect resumes => exact ⟨rfl, rfl, unmarked⟩

theorem busy_of_unmarked (unmarked : store.marker = none)
    (saved : store.journals request.requestId = some journal)
    (unfinished : journal.finished = false) :
    Ends (restoreAgentTurn digest turn.stored env request) fates store
      (fun _ _ _ => False) (fun _ after => after = store) := by
  apply Ends.bind_read
  apply Ends.bind_ofExcept
  · exact fun _ _ => rfl
  intro decision decided
  rcases decideRestore_of_ok decided with ⟨found, isFound, isRequest, isDecision⟩ |
    ⟨absent, _, _⟩
  · have same : found = journal := Option.some.inj (isFound.symm.trans saved)
    subst same
    cases isDecision with
    | answer finished =>
      rw [unfinished] at finished
      cases finished
    | start finished incomplete _ =>
      rw [unfinished] at finished
      cases finished
    | recover _ =>
      apply Ends.bind
      apply Ends.bind_read
      rw [unmarked]
      apply Ends.pure
      apply Ends.bind_read
      apply Ends.bind_ofExcept
      · exact fun _ _ => rfl
      intro recovered read
      have isJournal : recovered = found :=
        Option.some.inj ((readJournal_eq_ok.1 read).symm.trans saved)
      subst isJournal
      rw [unfinished]
      exact .fail rfl
  rw [absent] at saved
  cases saved

theorem recover_of_unmarked (unmarked : store.marker = none) (env : RecoverEnv) :
    recoverPendingWorkspace turn.stored digest env [] store =
      { outcome := .value (), fates := [], store := store } := by
  have succeeds : Succeeds (recoverPendingWorkspace turn.stored digest env) store
      (fun _ after => after = store) := by
    apply Succeeds.bind_read
    rw [unmarked]
    exact .pure rfl
  obtain ⟨_, after, same, returned⟩ := succeeds_iff.1 succeeds
  rw [returned, same]

theorem not_resumable_of_torn (torn : ¬Whole digest turn env store request fates) :
    ¬Resumable digest turn request
      (restoreAgentTurn digest turn.stored env request fates store).store := by
  obtain ⟨journal, decided, isTorn⟩ := starts_of_not_whole torn
  obtain ⟨unfinished, isRequest, unmarked⟩ := unfinished_of_start decided
  rw [store_of_start decided, store_of_torn isTorn]
  intro resumable
  obtain ⟨_, recovered, isRecovered, _, result, after, returned, _⟩ :=
    resumable calmEnv opportune_calmEnv
  have still : (savedTo store journal).marker = none := unmarked
  rw [recover_of_unmarked still] at isRecovered
  cases isRecovered
  have saved : (savedTo store journal).journals request.requestId = some journal := by
    rw [← isRequest]
    exact journals_savedTo_self store journal
  exact (ends_iff.1 (busy_of_unmarked still saved unfinished)).1 result [] after returned

/-! ### Disturbed restores -/

/-- An incomplete journal of the request that the worktree does not agree with. -/
structure Astray (turn : ReadyTurn) (request : AgentTurnRestoreRequest) (worktree : Worktree)
    (journal : RestoreJournal) : Prop where
  request : journal.request = request
  incomplete : journal.result.state = .incomplete
  listed : ∀ file ∈ journal.result.files, file ∈ actions turn.receipt
  disturbed : ¬turn.plan.Records worktree journal.result.files journal.pendingFile

/-- Only the request itself may be marked, and its journal is astray. -/
structure Stuck (turn : ReadyTurn) (request : AgentTurnRestoreRequest) (store : RestoreStore) :
    Prop where
  marker : ∀ marker, store.marker = some marker → marker.restoreRequestId = request.requestId
  saved : ∃ journal, store.journals request.requestId = some journal ∧
    Astray turn request store.worktree journal

theorem Stuck.save (stuck : Stuck turn request store)
    (astray : Astray turn request store.worktree journal) :
    Stuck turn request (savedTo store journal) where
  marker := stuck.marker
  saved := by
    refine ⟨journal, ?_, astray⟩
    rw [← astray.request]
    exact journals_savedTo_self store journal

section

variable (astray : Astray turn request worktree journal)
include astray

theorem Astray.block
    (blocker : AgentTurnRestoreBlocker) : Astray turn request worktree (journal.block blocker) where
  __ := astray

theorem Astray.retried : Astray turn request worktree journal.retried where
  __ := astray

theorem Astray.credited
    (current : WorktreeCheckpointCapture) : Astray turn request worktree (journal.withFiles
      (turn.plan.expectedFrom current journal.result.files journal.pendingFile).1) where
  __ := astray
  listed := by
    intro file member
    rcases FilePlan.mem_expectedFrom.1 member with old | ⟨listed, _⟩
    · exact astray.listed file old
    exact listed
  disturbed := fun records => astray.disturbed records.of_credited

theorem Astray.close (blocked : journal.result.blockers ≠ []) (clock : Int64) :
    Astray turn request worktree (closeJournal clock journal) := by
  unfold closeJournal
  rw [if_neg blocked]
  exact { astray with
      incomplete := rfl }

end

theorem ends_applyExpected_of_astray {env : ApplyEnv} (stuck : Stuck turn request store)
    (astray : Astray turn request store.worktree journal)
    (captured : captureWorktreeCheckpoint store.worktree = some store.worktree.contents) :
    Ends (applyExpected turn.stored env turn.before.toWorktreeCheckpointCapture
        turn.after.toWorktreeCheckpointCapture
        (journal.withFiles (turn.plan.expectedFrom store.worktree.contents journal.result.files
          journal.pendingFile).1)
        (turn.plan.expectedFrom store.worktree.contents journal.result.files
          journal.pendingFile).2 store.worktree.contents) fates store
      (fun applied _ after => after = store ∧ Astray turn request store.worktree applied ∧
        applied.result.blockers ≠ []) (fun _ after => Stuck turn request after) := by
  apply Ends.bind_read
  apply Ends.bind_ofExcept
  · exact fun _ _ => stuck
  intro identity found
  apply Ends.ite
  · intro _
    apply Ends.pure
    refine ⟨rfl, (astray.credited _).block _, ?_⟩
    exact List.append_ne_nil_of_right_ne_nil _ (List.cons_ne_nil _ _)
  intro same
  exfalso
  push Not at same
  obtain ⟨sameRoot, matching⟩ := same
  have isIdentity : store.worktree.identity = some turn.plan.identity := by
    rw [targetIdentity_eq_ok.1 found, sameRoot]
    rfl
  have answers := (captureWorktreeCheckpoint_eq_some.1 captured).1
  exact astray.disturbed
    (FilePlan.shows_of_matches astray.listed isIdentity answers matching).recorded

theorem ends_applyRestore_of_astray {env : ApplyEnv} (stuck : Stuck turn request store)
    (astray : Astray turn request store.worktree journal) :
    Ends (applyRestore turn.stored env journal) fates store
      (fun closed _ after => closed.result.state = .incomplete ∧ Stuck turn request after)
      (fun _ after => Stuck turn request after) := by
  apply Ends.bind_read
  split
  · exact .fail stuck
  rename_i current seen
  have same : current = store.worktree.contents := (captureWorktreeCheckpoint_eq_some.1 seen).2
  subst same
  rw [mixedExpectedState_eq]
  apply Ends.bind_ofExcept
  · exact fun _ none => by cases none
  intro pair isPair
  cases isPair
  apply Ends.bind_mono (ends_applyExpected_of_astray stuck astray seen)
  · exact fun _ _ kept => kept
  intro applied left after ⟨isStore, isAstray, blocked⟩
  subst isStore
  have closed := isAstray.close blocked env.clock
  have saved := stuck.save closed
  apply Ends.bind
  unfold checkFinalState
  rw [if_neg blocked]
  apply Ends.pure
  apply Ends.bind_change
  · exact fun _ => stuck
  · exact fun _ => saved
  intro left
  apply Ends.bind_change
  · exact fun _ => saved
  · exact fun _ => ⟨saved.marker, saved.saved⟩
  intro left
  apply Ends.bind_change
  · exact fun _ => ⟨saved.marker, saved.saved⟩
  · intro _
    refine ⟨?_, saved.saved⟩
    intro marker none
    cases none
  intro left
  apply Ends.pure
  refine ⟨closed.incomplete, ?_, saved.saved⟩
  intro marker none
  cases none

theorem ends_recover_of_stuck {env : RecoverEnv} (stuck : Stuck turn request store) :
    Ends (recoverPendingWorkspace turn.stored digest env) fates store
      (fun _ _ after => Stuck turn request after) (fun _ after => Stuck turn request after) := by
  apply Ends.bind_read
  split
  · exact .pure stuck
  rename_i marker marked
  split
  · exact .pure stuck
  · exact .fail stuck
  refine Ends.guard stuck fun _ => ?_
  apply Ends.bind_ofExcept
  · exact fun _ _ => stuck
  intro _ _
  apply Ends.bind_ofExcept
  · exact fun _ _ => stuck
  intro _ _
  refine Ends.guard stuck fun _ => ?_
  split
  · exact .pure stuck
  · exact .fail stuck
  apply Ends.bind_ofExcept
  · exact fun _ _ => stuck
  intro found read
  obtain ⟨journal, saved, astray⟩ := stuck.saved
  rw [readJournal_eq_ok, stuck.marker marker marked, saved] at read
  cases read
  refine Ends.guard stuck fun _ => ?_
  apply Ends.ite
  · intro _
    apply Ends.bind_change
    · exact fun _ => stuck
    · exact fun _ => ⟨stuck.marker, stuck.saved⟩
    intro left
    have unmarked : Stuck turn request
        { store with completed := some found.result, marker := none } :=
      ⟨fun marker none => (by cases none), stuck.saved⟩
    apply Ends.change
    · exact fun _ => unmarked
    · exact fun _ => ⟨stuck.marker, stuck.saved⟩
    exact fun _ => unmarked
  intro _
  apply Ends.bind_mono (ends_applyRestore_of_astray stuck astray)
  · exact fun _ _ kept => kept
  intro closed left after ⟨_, kept⟩
  exact .pure kept

theorem ends_restoreAgentTurn_of_stuck (stuck : Stuck turn request store) :
    Ends (restoreAgentTurn digest turn.stored env request) fates store
      (fun result _ after => result.state = .incomplete ∧ Stuck turn request after)
      (fun _ after => Stuck turn request after) := by
  obtain ⟨journal, saved, astray⟩ := stuck.saved
  apply Ends.bind_read
  apply Ends.bind_ofExcept
  · exact fun _ _ => stuck
  intro decision decided
  rcases decideRestore_of_ok decided with ⟨found, isFound, _, isDecision⟩ | ⟨absent, _, _⟩
  · have same : found = journal := Option.some.inj (isFound.symm.trans saved)
    subst same
    cases isDecision with
    | answer finished => exact .pure ⟨astray.incomplete, stuck⟩
    | recover unfinished =>
      apply Ends.bind_mono (ends_recover_of_stuck stuck)
      · exact fun _ _ kept => kept
      intro _ left after kept
      obtain ⟨later, isSaved, isAstray⟩ := kept.saved
      apply Ends.bind_read
      apply Ends.bind_ofExcept
      · exact fun _ _ => kept
      intro recovered read
      have same : recovered = later :=
        Option.some.inj ((readJournal_eq_ok.1 read).symm.trans isSaved)
      subst same
      apply Ends.ite
      · exact fun _ => Ends.pure ⟨isAstray.incomplete, kept⟩
      exact fun _ => Ends.fail kept
    | start finished incomplete unmarked =>
      have begun := stuck.save astray.retried
      have marked : Stuck turn request (markedStore turn store found.retried) := by
        refine ⟨?_, begun.saved⟩
        intro marker same
        cases same
        exact congrArg AgentTurnRestoreRequest.requestId astray.request
      have isAstray : Astray turn request (markedStore turn store found.retried).worktree
          found.retried := astray.retried
      apply Ends.bind_change
      · exact fun _ => stuck
      · exact fun _ => begun
      intro left
      apply Ends.bind_change
      · exact fun _ => begun
      · exact fun _ => marked
      intro left
      apply Ends.bind_mono (ends_applyRestore_of_astray marked isAstray)
      · exact fun _ _ kept => kept
      intro closed left after isClosed
      exact .pure isClosed
  rw [absent] at saved
  cases saved

theorem not_resumable_of_stuck (stuck : Stuck turn request store) :
    ¬Resumable digest turn request store := by
  intro resumable
  obtain ⟨_, recovered, isRecovered, _, result, after, returned, restored⟩ :=
    resumable calmEnv opportune_calmEnv
  have kept := (ends_iff.1 (ends_recover_of_stuck stuck)).1 () [] recovered isRecovered
  have incomplete := ((ends_iff.1 (ends_restoreAgentTurn_of_stuck kept)).1 result [] after
    returned).1
  rw [restored] at incomplete
  cases incomplete

theorem stuck_of_begins (inv : Inv digest turn True none store)
    (begins : Begins digest turn env store request)
    (disturbed : ¬Undisturbed turn request store) : Stuck turn request store := by
  have all : ∀ id, Covers none id := fun id tracked none => by cases none
  unfold Undisturbed at disturbed
  push Not at disturbed
  obtain ⟨journal, saved, unrecorded⟩ := disturbed
  have own := inv.own _ (all _) journal saved
  obtain ⟨decision, decided, goes⟩ := begins
  rcases decideRestore_of_ok decided with ⟨found, isFound, isRequest, isDecision⟩ | ⟨absent, _, _⟩
  · have same : found = journal := Option.some.inj (isFound.symm.trans saved)
    subst same
    cases isDecision with
    | answer finished =>
      rcases goes with never | ⟨other, never⟩
      · cases never
      cases never
    | recover unfinished =>
      have incomplete := own.unfinished unfinished
      constructor
      · intro marker marked
        have began : found.result.state ≠ .conflict := by
          rw [incomplete]
          exact fun conflict => by cases conflict
        rcases inv.settled trivial _ (all _) found saved began with isMarked | ⟨_, finished, _⟩
        · rw [isMarked] at marked
          cases marked
          rfl
        rw [unfinished] at finished
        cases finished
      exact ⟨found, saved, isRequest, incomplete, own.listed, unrecorded⟩
    | start finished incomplete unmarked =>
      constructor
      · intro marker marked
        rw [unmarked] at marked
        cases marked
      exact ⟨found, saved, isRequest, incomplete, own.listed, unrecorded⟩
  rw [absent] at saved
  cases saved

end Begun

def sampleCheckpoint (checkpointId : Uuid) : AgentTurnCheckpoint where
  checkpointId := checkpointId
  headCommitOid := "head"
  branchName := "main"
  capturedAtUnixMs := 0
  treeSha256 := "tree"
  indexSha256 := "index"

def sampleTurn : ReadyTurn where
  receipt :=
    { conversationId := 3
      requestId := 4
      sessionId := 8
      workspaceId := 7
      repositoryId := "orders"
      state := .ready
      observation := .normal
      before := some (sampleCheckpoint 1)
      after := some (sampleCheckpoint 2)
      files := [{ filePath := "notes.md", beforeSha256 := some "old" }] }
  target := "/work"
  targetIdentity := "original-root"
  before := sampleCapture "old"
  after := sampleCapture "new"
  beforeCheckpoint := sampleCheckpoint 1
  afterCheckpoint := sampleCheckpoint 2
  state := rfl
  observation := rfl
  receiptBefore := rfl
  receiptAfter := rfl
  sameCheckpoints := ⟨rfl, rfl, rfl⟩
  beforeComplete := by decide +kernel
  afterComplete := by decide +kernel
  sameGit := ⟨rfl, rfl, rfl⟩
  files := by decide +kernel

def sampleDigest (_ : EffectInput) : String :=
  "sha256:00000000000000000000000000000000000000000000000000000000000000ab"

def sampleRequest (requestId : Uuid) : AgentTurnRestoreRequest where
  requestId := requestId
  effectDigest := "sha256:00000000000000000000000000000000000000000000000000000000000000ab"

def sampleTarget : Worktree where
  identity := some "original-root"
  gitAnswers := true
  contents := (sampleCapture "new").toWorktreeCheckpointCapture

def sampleEvent (requestId : Uuid) (fates : List Fate) : RestoreEvent :=
  .request calmEnv (sampleRequest requestId) fates

def sampleRun (events : List RestoreEvent) : RestoreStore :=
  restoreRun sampleDigest sampleTurn.stored (.initial sampleTarget) events

theorem begins_sample : Begins sampleDigest sampleTurn calmEnv (sampleRun []) (sampleRequest 1) := by
  have asked : Asked sampleDigest sampleTurn (sampleRequest 1) :=
    ⟨by decide, by decide +kernel, rfl⟩
  have shows : sampleTurn.plan.Shows sampleTarget [] :=
    FilePlan.shows_of_matchesStart rfl rfl (by decide +kernel)
  exact ⟨_, decideRestore_of_fresh opportune_calmEnv asked rfl rfl rfl shows, .inr ⟨_, rfl⟩⟩

/-- Whatever happens in a run, a file is written only from its state after the task and only when
the receipt lists it, and a restore is recorded only when the worktree is as before the task. -/
theorem restore_keeps_later_work (digest : EffectInput → String) (turn : ReadyTurn)
    (worktree : Worktree) (events : List RestoreEvent) :
    SoundNotes turn (restoreRun digest turn.stored (.initial worktree) events).notes ∧
    (∀ env request fates result left after, restoreAgentTurn digest turn.stored env request fates
          (restoreRun digest turn.stored (.initial worktree) events) =
        { outcome := .value result, fates := left, store := after } →
      result.state = .restored → ∃ journal seen, .saved journal seen ∈ after.notes ∧
        journal.result = result ∧
        matchesCapture turn.before.toWorktreeCheckpointCapture seen.contents) ∧
    (Mended digest turn (.initial worktree) events →
      ∀ id, RecordedIncomplete (restoreRun digest turn.stored (.initial worktree) events) id →
      ∀ env request fates, request.requestId ≠ id →
        Unwritten (restoreRun digest turn.stored (.initial worktree) events)
          (restoreAgentTurn digest turn.stored env request fates
            (restoreRun digest turn.stored (.initial worktree) events)).store) := by
  have inv : Inv digest turn False none
      (restoreRun digest turn.stored (.initial worktree) events) :=
    inv_restoreRun events (inv_initial worktree) fun never => never.elim
  refine ⟨inv.notes rfl, ?_, ?_⟩
  · intro env request fates result left after returned restored
    have answered := (ends_iff.1 (ends_restoreAgentTurn env request inv
      fun never => never.elim)).1 result left after returned
    obtain ⟨id, journal, saved, same⟩ := answered.saved
    obtain ⟨seen, noted⟩ := answered.inv.noted rfl id journal saved
    have justified := answered.inv.notes rfl _ noted
    refine ⟨journal, seen, noted, same, justified ?_⟩
    rw [same]
    exact restored
  · intro mended id recorded env request fates other
    have cleanInv : Inv digest turn True none
        (restoreRun digest turn.stored (.initial worktree) events) :=
      inv_restoreRun events (inv_initial worktree) fun _ => mended
    obtain ⟨journal, saved, began⟩ := began_of_recorded cleanInv trivial recorded
    exact Ends.after _ (writes_nothing cleanInv trivial saved began env other)

/-- The write of the sample's file is refused, and another request then leaves the file alone. -/
theorem restore_keeps_later_work_sample :
    Unwritten (sampleRun [sampleEvent 1 [.done, .done, .done, .refused]])
      (restoreAgentTurn sampleDigest sampleTurn.stored calmEnv (sampleRequest 2) []
        (sampleRun [sampleEvent 1 [.done, .done, .done, .refused]])).store := by
  have recorded : ((sampleRun [sampleEvent 1 [.done, .done, .done, .refused]]).journals 1).any
      (fun journal => decide (journal.result.state = .incomplete)) = true := by decide +kernel
  obtain ⟨journal, saved, incomplete⟩ := (Option.any_eq_true _ _).1 recorded
  apply (restore_keeps_later_work sampleDigest sampleTurn sampleTarget
    [sampleEvent 1 [.done, .done, .done, .refused]]).2.2
  · exact ⟨fun _ _ => rfl, trivial⟩
  · exact .inl ⟨journal, saved, of_decide_eq_true incomplete⟩
  · decide

/-- A restore that is recorded as incomplete by its journal or by the completed record does not keep
every other request from writing. -/
theorem other_request_counterexample : (¬∀ (events : List RestoreEvent) (id : Uuid),
      (∃ journal, (sampleRun events).journals id = some journal ∧
        journal.result.state = .incomplete) →
      ∀ request fates, request.requestId ≠ id → Unwritten (sampleRun events)
        (restoreAgentTurn sampleDigest sampleTurn.stored calmEnv request fates
          (sampleRun events)).store) ∧ ¬∀ (events : List RestoreEvent) (id : Uuid),
      (∃ result, (sampleRun events).completed = some result ∧ result.restoreRequestId = id ∧
        result.state = .incomplete) →
      ∀ request fates, request.requestId ≠ id → Unwritten (sampleRun events)
        (restoreAgentTurn sampleDigest sampleTurn.stored calmEnv request fates
          (sampleRun events)).store := by
  constructor
  · intro keeps
    have recorded : ((sampleRun [sampleEvent 1 [.cutAfter]]).journals 1).any
        (fun journal => decide (journal.result.state = .incomplete)) = true := by decide +kernel
    obtain ⟨journal, saved, incomplete⟩ := (Option.any_eq_true _ _).1 recorded
    have unwritten := keeps [sampleEvent 1 [.cutAfter]] 1
      ⟨journal, saved, of_decide_eq_true incomplete⟩ (sampleRequest 2) [] (by decide)
    have same := congrArg (fun worktree => worktree.contents.stateAt "notes.md") unwritten.1
    exact absurd same (by decide +kernel)
  · intro keeps
    have recorded : (sampleRun [sampleEvent 2 [.cutAfter],
        sampleEvent 1 [.done, .done, .done, .refused],
        sampleEvent 1 [.done, .done, .cutBefore]]).completed.any (fun result =>
          decide (result.restoreRequestId = 1 ∧ result.state = .incomplete)) = true := by
      decide +kernel
    obtain ⟨result, completed, incomplete⟩ := (Option.any_eq_true _ _).1 recorded
    have unwritten := keeps [sampleEvent 2 [.cutAfter],
        sampleEvent 1 [.done, .done, .done, .refused], sampleEvent 1 [.done, .done, .cutBefore]] 1
      ⟨result, completed, of_decide_eq_true incomplete⟩ (sampleRequest 2) [] (by decide)
    have same := congrArg (fun worktree => worktree.contents.stateAt "notes.md") unwritten.1
    exact absurd same (by decide +kernel)

/-- In a run in which no request was torn before, a request that begins a restore or goes on with
one is ended anywhere. -/
theorem restore_resumable_iff (digest : EffectInput → String) (turn : ReadyTurn)
    (worktree : Worktree) (events : List RestoreEvent)
    (mended : Mended digest turn (.initial worktree) events) (env : RequestEnv)
    (request : AgentTurnRestoreRequest) (fates : List Fate)
    (begins : Begins digest turn env (restoreRun digest turn.stored (.initial worktree) events)
      request) :
    Resumable digest turn request (restoreAgentTurn digest turn.stored env request fates
        (restoreRun digest turn.stored (.initial worktree) events)).store ↔
      Whole digest turn env (restoreRun digest turn.stored (.initial worktree) events) request
          fates ∧
        Undisturbed turn request (restoreRun digest turn.stored (.initial worktree) events) := by
  have inv : Inv digest turn True none
      (restoreRun digest turn.stored (.initial worktree) events) :=
    inv_restoreRun events (inv_initial worktree) fun _ => mended
  constructor
  · intro resumable
    constructor
    · by_contra torn
      exact not_resumable_of_torn torn resumable
    by_contra disturbed
    have stuck := stuck_of_begins inv begins disturbed
    have still : Stuck turn request (restoreAgentTurn digest turn.stored env request fates
        (restoreRun digest turn.stored (.initial worktree) events)).store := by
      apply Ends.after
      apply Ends.mono (ends_restoreAgentTurn_of_stuck stuck)
      · exact fun _ _ _ kept => kept.2
      · exact fun _ _ kept => kept
    exact not_resumable_of_stuck still resumable
  · intro ⟨whole, undisturbed⟩
    obtain ⟨tracked, asked⟩ := tracked_of_begins inv begins undisturbed
    apply resumable_of_inv asked
    exact Ends.after _ (ends_begun env tracked begins whole)

/-- The host stops right after the marker of the sample was written, and the turn can be restored. -/
theorem restore_resumable_sample : Resumable sampleDigest sampleTurn (sampleRequest 1)
      (restoreAgentTurn sampleDigest sampleTurn.stored calmEnv (sampleRequest 1)
        [.done, .cutAfter] (sampleRun [])).store := by
  apply (restore_resumable_iff sampleDigest sampleTurn sampleTarget [] trivial calmEnv
    (sampleRequest 1) [.done, .cutAfter] begins_sample).2
  refine ⟨fun _ _ => rfl, ?_⟩
  intro journal none
  cases none

def isRecovery : Except LocalWtsError RestoreDecision → Bool
  | .ok .recover => true
  | _ => false

/-- The host stops right after the journal of the sample was written. -/
theorem restore_resumable_counterexample :
    ¬∀ (events : List RestoreEvent) (env : RequestEnv) (request : AgentTurnRestoreRequest)
      (fates : List Fate), Mended sampleDigest sampleTurn (.initial sampleTarget) events →
      Begins sampleDigest sampleTurn env (sampleRun events) request →
      Undisturbed sampleTurn request (sampleRun events) → Resumable sampleDigest sampleTurn request
        (restoreAgentTurn sampleDigest sampleTurn.stored env request fates
          (sampleRun events)).store := by
  intro resumable
  have undisturbed : Undisturbed sampleTurn (sampleRequest 1) (sampleRun []) := by
    intro journal none
    cases none
  have never := resumable [] calmEnv (sampleRequest 1) [.cutAfter] trivial begins_sample undisturbed
  apply not_resumable_of_torn _ never
  intro whole
  obtain ⟨decision, decided, goes⟩ := begins_sample
  rcases goes with isRecover | ⟨journal, isStart⟩
  · subst isRecover
    have starts : isRecovery (decideRestore sampleDigest sampleTurn.stored calmEnv (sampleRun [])
        (sampleRequest 1)) = false := by decide +kernel
    rw [decided] at starts
    cases starts
  · subst isStart
    cases whole journal decided

end Wts.TurnRestore
