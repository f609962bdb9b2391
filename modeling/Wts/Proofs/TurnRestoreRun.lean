/-
Module: Wts.Proofs.TurnRestoreRun
Purpose: What a restore request decides, what a request does to the records, and runs of requests,
  recoveries and outside edits.
Trusted boundary: none
Main exports: Historical, writes_nothing
-/
import Wts.Proofs.TurnRestoreJournal

namespace Wts.TurnRestore

open Checkpoint Interrupt

section Decisions

variable {digest : EffectInput → String} {turn : ReadyTurn} {env : RequestEnv}
  {store : RestoreStore} {journal : RestoreJournal} {request : AgentTurnRestoreRequest}

theorem readJournal_eq_ok {id : Uuid} :
    readJournal id store = .ok journal ↔ store.journals id = some journal := by
  unfold readJournal
  cases store.journals id <;> simp

/-- What `historical_result` asks of the completed record. -/
structure Historical (digest : EffectInput → String) (turn : ReadyTurn) (store : RestoreStore)
    (result : AgentTurnRestoreResult) (journal : RestoreJournal) : Prop where
  saved : store.journals result.restoreRequestId = some journal
  conversation : result.conversationId = turn.receipt.conversationId
  turnRequest : result.requestId = turn.receipt.requestId
  key : result.restoreRequestId = journal.request.requestId
  same : result = journal.result
  finished : journal.finished = true
  effect : journal.request.effectDigest =
    effectDigest digest turn.receipt (actions turn.receipt)

theorem historicalResult_of_ok {answer : Option AgentTurnRestoreResult}
    (read : historicalResult digest turn.stored store = .ok answer) : answer = store.completed ∧
      ∀ result, store.completed = some result →
        ∃ journal, Historical digest turn store result journal := by
  unfold historicalResult at read
  split at read
  · rename_i none
    cases read
    refine ⟨none.symm, ?_⟩
    intro result some
    rw [none] at some
    cases some
  rename_i result completed
  obtain ⟨journal, found, checked⟩ := bind_eq_ok.1 read
  split at checked
  · cases checked
  rename_i agrees
  push Not at agrees
  obtain ⟨conversation, turnRequest, key, same, finished, effect⟩ := agrees
  cases checked
  refine ⟨completed.symm, ?_⟩
  intro other isOther
  rw [completed] at isOther
  cases isOther
  exact ⟨journal, readJournal_eq_ok.1 found, conversation, turnRequest, key, same, finished, effect⟩

theorem historicalResult_none (absent : store.completed = none) :
    historicalResult digest turn.stored store = .ok none := by
  unfold historicalResult
  rw [absent]

theorem historicalResult_some {result : AgentTurnRestoreResult}
    (completed : store.completed = some result)
    (historical : Historical digest turn store result journal) :
    historicalResult digest turn.stored store = .ok (some result) := by
  unfold historicalResult
  rw [completed]
  apply bind_eq_ok.2
  refine ⟨journal, readJournal_eq_ok.2 historical.saved, ?_⟩
  rw [if_neg]
  · rfl
  push Not
  exact ⟨historical.conversation, historical.turnRequest, historical.key, historical.same,
    historical.finished, historical.effect⟩

theorem resumePreflight_of_ok {worktree : Worktree} {begun preflight : AgentTurnRestorePreflight}
    (resumed : resumePreflight digest turn.stored env worktree journal begun = .ok preflight) :
    preflight.resumeRequestId = some journal.request.requestId ∧
      preflight.effectDigest = effectDigest digest turn.receipt (actions turn.receipt) := by
  unfold resumePreflight at resumed
  split at resumed
  · cases resumed
  rename_i agrees
  push Not at agrees
  obtain ⟨_, _, resumed⟩ := bind_eq_ok.1 resumed
  obtain ⟨samePath, _, resumed⟩ := bind_eq_ok.1 resumed
  split at resumed
  · cases resumed
  obtain ⟨⟨observed, expected⟩, _, resumed⟩ := bind_eq_ok.1 resumed
  obtain ⟨same, _, resumed⟩ := bind_eq_ok.1 resumed
  cases same with
  | true =>
    cases resumed
    exact ⟨rfl, agrees.2.2.2⟩
  | false =>
    cases resumed
    exact ⟨rfl, agrees.2.2.2⟩

theorem validatePreflight_of_ready {preflight : AgentTurnRestorePreflight}
    (validated : validatePreflight digest turn.stored env store = .ok preflight)
    (ready : preflight.state = .ready) :
    preflight.effectDigest = effectDigest digest turn.receipt (actions turn.receipt) ∧
      ∀ result, store.completed = some result →
        preflight.resumeRequestId = some result.restoreRequestId := by
  obtain ⟨answer, read, checked⟩ := bind_eq_ok.1 validated
  obtain ⟨same, historical⟩ := historicalResult_of_ok read
  cases answer with
  | none =>
    constructor
    · have fresh : freshPreflight digest turn.stored env store.worktree = .ok preflight := checked
      unfold freshPreflight at fresh
      obtain ⟨blockers, _, isPreflight⟩ := bind_eq_ok.1 fresh
      split at isPreflight
      · cases isPreflight
        rfl
      cases isPreflight
      cases ready
    intro result completed
    rw [completed] at same
    cases same
  | some result =>
    have completed := same.symm
    obtain ⟨journal, isHistorical⟩ := historical result completed
    simp only [completedPreflight] at checked
    split at checked
    · obtain ⟨found, isFound, resumed⟩ := bind_eq_ok.1 checked
      have isJournal : found = journal := Option.some.inj
        ((readJournal_eq_ok.1 isFound).symm.trans isHistorical.saved)
      subst isJournal
      obtain ⟨resume, effect⟩ := resumePreflight_of_ok resumed
      refine ⟨effect, ?_⟩
      intro other isOther
      rw [completed] at isOther
      cases isOther
      rw [resume, isHistorical.key]
    cases checked
    dsimp only at ready
    split at ready
    · cases ready
    cases ready

theorem operationLeases_of_ok (free : operationLeases env store = .ok ()) : store.marker = none := by
  obtain ⟨_, _, free⟩ := bind_eq_ok.1 free
  obtain ⟨_, _, free⟩ := bind_eq_ok.1 free
  split at free
  · cases free
  rename_i unmarked
  exact Option.not_isSome_iff_eq_none.1 unmarked

/-- What a request with a saved journal can decide. -/
inductive SavedDecision (store : RestoreStore) (journal : RestoreJournal) : RestoreDecision → Prop
  | answer (finished : journal.finished = true) : SavedDecision store journal (.answer journal.result)
  | recover (unfinished : journal.finished = false) : SavedDecision store journal .recover
  | start (finished : journal.finished = true) (incomplete : journal.result.state = .incomplete)
      (unmarked : store.marker = none) : SavedDecision store journal (.start journal.retried)

variable {decision : RestoreDecision}

theorem decideSaved_of_ok
    (decided : decideSaved turn.stored env store request journal = .ok decision) :
    journal.request = request ∧ SavedDecision store journal decision := by
  unfold decideSaved at decided
  split at decided
  · cases decided
  rename_i same
  push Not at same
  refine ⟨same.1, ?_⟩
  split at decided
  · rename_i answered
    cases decided
    exact .answer answered.1
  rename_i unanswered
  split at decided
  · rename_i unfinished
    cases decided
    exact .recover (Bool.eq_false_of_not_eq_true unfinished)
  rename_i notUnfinished
  have finished : journal.finished = true := not_not.1 notUnfinished
  have incomplete : journal.result.state = .incomplete := by
    by_contra differs
    exact unanswered ⟨finished, differs⟩
  obtain ⟨_, _, decided⟩ := bind_eq_ok.1 decided
  obtain ⟨_, free, decided⟩ := bind_eq_ok.1 decided
  obtain ⟨_, _, decided⟩ := bind_eq_ok.1 decided
  obtain ⟨samePath, _, decided⟩ := bind_eq_ok.1 decided
  split at decided
  · obtain ⟨identity, _, decided⟩ := bind_eq_ok.1 decided
    split at decided
    · cases decided
    cases decided
    exact .start finished incomplete (operationLeases_of_ok free)
  cases decided

/-- What a request without a saved journal can decide. -/
inductive FreshDecision (digest : EffectInput → String) (turn : ReadyTurn) (env : RequestEnv)
    (store : RestoreStore) (request : AgentTurnRestoreRequest) : RestoreDecision → Prop
  | refuse (preflight : AgentTurnRestorePreflight) :
      FreshDecision digest turn env store request
        (.refuse (refusedJournal turn.stored request preflight))
  | start (preflight : AgentTurnRestorePreflight) (unmarked : store.marker = none)
      (effect : request.effectDigest =
        effectDigest digest turn.receipt (actions turn.receipt))
      (resumes : ∀ result, store.completed = some result →
        result.restoreRequestId = request.requestId) :
      FreshDecision digest turn env store request
        (.start (startedJournal turn.stored request preflight))

theorem decideFresh_of_ok
    (decided : decideFresh digest turn.stored env store request = .ok decision) :
    store.marker = none ∧ FreshDecision digest turn env store request decision := by
  unfold decideFresh at decided
  obtain ⟨_, _, decided⟩ := bind_eq_ok.1 decided
  split at decided
  · cases decided
  · cases decided
  rename_i free
  refine ⟨operationLeases_of_ok free, ?_⟩
  obtain ⟨preflight, validated, decided⟩ := bind_eq_ok.1 decided
  split at decided
  · cases decided
    exact .refuse preflight
  rename_i goes
  push Not at goes
  obtain ⟨ready, sameDigest, resume⟩ := goes
  obtain ⟨_, _, decided⟩ := bind_eq_ok.1 decided
  cases decided
  obtain ⟨effect, resumes⟩ := validatePreflight_of_ready validated ready
  apply FreshDecision.start preflight (operationLeases_of_ok free)
  · exact sameDigest.symm.trans effect
  intro result completed
  rw [resumes result completed] at resume
  simpa using resume

theorem decideRestore_of_ok
    (decided : decideRestore digest turn.stored env store request = .ok decision) :
    (∃ journal, store.journals request.requestId = some journal ∧ journal.request = request ∧
      SavedDecision store journal decision) ∨
    (store.journals request.requestId = none ∧ store.marker = none ∧
      FreshDecision digest turn env store request decision) := by
  unfold decideRestore at decided
  split at decided
  · cases decided
  obtain ⟨_, _, decided⟩ := bind_eq_ok.1 decided
  split at decided
  · rename_i journal saved
    obtain ⟨same, decision⟩ := decideSaved_of_ok decided
    exact .inl ⟨journal, saved, same, decision⟩
  rename_i absent
  obtain ⟨unmarked, decision⟩ := decideFresh_of_ok decided
  exact .inr ⟨absent, unmarked, decision⟩

theorem own_refusedJournal (preflight : AgentTurnRestorePreflight) :
    OwnJournal digest turn request.requestId (refusedJournal turn.stored request preflight) where
  key := rfl
  conversation := rfl
  turnRequest := rfl
  restoreRequest := rfl
  effect := fun began => absurd rfl began
  listed := fun file member => by cases member
  pending := fun file none => by cases none
  unfinished := fun unfinished => by cases unfinished

theorem own_startedJournal (preflight : AgentTurnRestorePreflight)
    (effect : request.effectDigest = effectDigest digest turn.receipt (actions turn.receipt)) :
    OwnJournal digest turn request.requestId (startedJournal turn.stored request preflight) where
  key := rfl
  conversation := rfl
  turnRequest := rfl
  restoreRequest := rfl
  effect := fun _ => effect
  listed := fun file member => by cases member
  pending := fun file none => by cases none
  unfinished := fun _ => rfl

end Decisions

section Requests

variable {digest : EffectInput → String} {turn : ReadyTurn} {clean : Prop}
  {track : Option AgentTurnRestoreRequest} {env : RequestEnv} {store : RestoreStore}
  {journal : RestoreJournal} {request : AgentTurnRestoreRequest} {fates : List Fate}

/-! ### Starting -/

section

variable (inv : Inv digest turn clean track store)
include inv

theorem savable_startedJournal
    (absent : store.journals request.requestId = none) (preflight : AgentTurnRestorePreflight)
    (effect : request.effectDigest = effectDigest digest turn.receipt (actions turn.receipt))
    (same : ∀ tracked, track = some tracked → request = tracked) :
    Savable digest turn track store (startedJournal turn.stored request preflight) where
  own := own_startedJournal preflight effect
  covers := by
    intro tracked isTracked
    rw [← same tracked isTracked]
    rfl
  began := fun conflict => by cases conflict
  final := fun restored => by cases restored
  tracked := by
    intro tracked isTracked
    have isRequest := same tracked isTracked
    subst isRequest
    exact ⟨rfl, ((inv.tracked request isTracked).fresh absent).2.2.records _⟩

theorem savable_retried
    (saved : store.journals request.requestId = some journal) (isRequest : journal.request = request)
    (incomplete : journal.result.state = .incomplete)
    (same : ∀ tracked, track = some tracked → request = tracked) :
    Savable digest turn track store journal.retried := by
  subst isRequest
  have covers : Covers track journal.request.requestId := by
    intro tracked isTracked
    rw [← same tracked isTracked]
  have savable := Savable.ofSaved inv saved covers incomplete
  exact
    { own :=
        { savable.own with
          key := rfl
          unfinished := fun _ => incomplete }
      covers := covers
      began := savable.began
      final := savable.final
      tracked := savable.tracked }

theorem sole_of_unmarked (isClean : clean)
    (unmarked : store.marker = none) (completed : ∀ result, store.completed = some result →
      result.restoreRequestId = request.requestId) : Sole track store request.requestId := by
  intro id covers other saved began
  rcases inv.settled isClean id covers other saved began with marked | ⟨_, _, isCompleted⟩
  · rw [unmarked] at marked
    cases marked
  rw [← completed _ isCompleted]
  exact (inv.own id covers other saved).restoreRequest.symm

end

theorem Inv.refused (inv : Inv digest turn clean none store)
    (absent : store.journals request.requestId = none) (preflight : AgentTurnRestorePreflight) :
    Inv digest turn clean none (savedTo store (refusedJournal turn.stored request preflight)) := by
  have keep : ∀ id other, store.journals id = some other →
      (savedTo store (refusedJournal turn.stored request preflight)).journals id = some other := by
    intro id other saved
    rw [journals_savedTo_of_ne]
    · exact saved
    intro here
    have isAbsent : store.journals id = none := by
      rw [here]
      exact absent
    rw [isAbsent] at saved
    cases saved
  have old : ∀ id other,
      (savedTo store (refusedJournal turn.stored request preflight)).journals id = some other →
      other = refusedJournal turn.stored request preflight ∧ id = request.requestId ∨
        store.journals id = some other := by
    intro id other saved
    by_cases here : id = request.requestId
    · subst here
      left
      exact ⟨Option.some.inj (saved.symm.trans
        (journals_savedTo_self store (refusedJournal turn.stored request preflight))), rfl⟩
    right
    rw [← saved]
    exact (journals_savedTo_of_ne store _ here).symm
  constructor
  case notes => exact fun isAll => (inv.notes isAll).append fun restored => by cases restored
  case noted => exact fun isAll => noted_savedTo (inv.noted isAll)
  case own =>
    intro id covers other saved
    rcases old id other saved with ⟨isNew, isId⟩ | wasSaved
    · rw [isNew, isId]
      exact own_refusedJournal preflight
    exact inv.own id covers other wasSaved
  case marker =>
    intro marker same
    obtain ⟨own, covers, other, saved, began⟩ := inv.marker marker same
    exact ⟨own, covers, other, keep _ other saved, began⟩
  case completed =>
    intro isClean isAll result completed
    obtain ⟨other, saved, began⟩ := inv.completed isClean isAll result completed
    exact ⟨other, keep _ other saved, began⟩
  case settled =>
    intro isClean id covers other saved began
    rcases old id other saved with ⟨isNew, _⟩ | wasSaved
    · rw [isNew] at began
      exact absurd rfl began
    exact inv.settled isClean id covers other wasSaved began
  case tracked =>
    intro tracked none
    cases none

/-- The outcome of a request: its result is the one of a saved journal. -/
structure Answered (digest : EffectInput → String) (turn : ReadyTurn) (clean : Prop)
    (store : RestoreStore) (result : AgentTurnRestoreResult) : Prop where
  inv : Inv digest turn clean none store
  saved : ∃ id journal, store.journals id = some journal ∧ journal.result = result

/-- The condition under which a request never leaves a journal without its marker. -/
def Whole (digest : EffectInput → String) (turn : ReadyTurn) (env : RequestEnv)
    (store : RestoreStore) (request : AgentTurnRestoreRequest) (fates : List Fate) : Prop :=
  ∀ journal, decideRestore digest turn.stored env store request = .ok (.start journal) →
    torn fates = false

theorem ends_restoreAgentTurn (env : RequestEnv) (request : AgentTurnRestoreRequest)
    (inv : Inv digest turn clean none store)
    (whole : clean → Whole digest turn env store request fates) :
    Ends (restoreAgentTurn digest turn.stored env request) fates store
      (fun result _ after => Answered digest turn clean after result)
      (fun _ after => Inv digest turn clean none after) := by
  have noTrack : ∀ tracked, none = some tracked → request = tracked := fun tracked none => by
    cases none
  apply Ends.bind_read
  apply Ends.bind_ofExcept
  · exact fun _ _ => inv
  intro decision decided
  rcases decideRestore_of_ok decided with ⟨journal, saved, isRequest, isDecision⟩ |
    ⟨absent, unmarked, isDecision⟩
  · cases isDecision with
    | answer finished => exact .pure ⟨inv, _, journal, saved, rfl⟩
    | recover unfinished =>
      apply Ends.bind_mono (ends_recover env.toRecoverEnv inv)
      · exact fun _ _ kept => kept
      intro _ left after kept
      apply Ends.bind_read
      apply Ends.bind_ofExcept
      · exact fun _ _ => kept
      intro recovered read
      apply Ends.ite
      · intro _
        exact .pure ⟨kept, _, recovered, readJournal_eq_ok.1 read, rfl⟩
      intro _
      exact .fail kept
    | start finished incomplete unmarked =>
      have savable := savable_retried inv saved isRequest incomplete noTrack
      have began : journal.result.state ≠ .conflict := by
        rw [incomplete]
        exact fun conflict => by cases conflict
      have sole : clean → Sole none store journal.retried.request.requestId := by
        intro isClean
        have own := inv.own _ (fun tracked none => by cases none) journal saved
        rw [show journal.retried.request.requestId = request.requestId from
          congrArg AgentTurnRestoreRequest.requestId isRequest]
        apply sole_of_unmarked inv isClean unmarked
        intro result completed
        rcases inv.settled isClean _ (fun tracked none => by cases none) journal saved began
          with marked | ⟨_, _, isCompleted⟩
        · rw [unmarked] at marked
          cases marked
        rw [completed] at isCompleted
        cases isCompleted
        exact own.restoreRequest
      apply Ends.mono (ends_runJournal env inv savable incomplete sole
        fun isClean => whole isClean _ decided)
      · intro result left after ⟨closed, rests, _, same⟩
        exact ⟨rests.inv, _, closed, rests.saved, same⟩
      exact fun _ _ kept => kept
  cases isDecision with
  | refuse preflight =>
    have refused := inv.refused absent preflight
    apply Ends.bind_change
    · exact fun _ => inv
    · exact fun _ => refused
    intro left
    exact .pure ⟨refused, request.requestId, refusedJournal turn.stored request preflight,
      journals_savedTo_self store (refusedJournal turn.stored request preflight), rfl⟩
  | start preflight _ effect resumes =>
    have savable := savable_startedJournal inv absent preflight effect noTrack
    apply Ends.mono (ends_runJournal env inv savable rfl
      (fun isClean => sole_of_unmarked inv isClean unmarked resumes)
      fun isClean => whole isClean _ decided)
    · intro result left after ⟨closed, rests, _, same⟩
      exact ⟨rests.inv, _, closed, rests.saved, same⟩
    exact fun _ _ kept => kept

/-- No request of the run is torn. -/
def Mended (digest : EffectInput → String) (turn : ReadyTurn) :
    RestoreStore → List RestoreEvent → Prop
  | _, [] => True
  | store, .request env request fates :: later =>
    Whole digest turn env store request fates ∧
      Mended digest turn
        (restoreStep digest turn.stored store (.request env request fates)) later
  | store, event :: later =>
    Mended digest turn (restoreStep digest turn.stored store event) later

theorem inv_restoreRun (events : List RestoreEvent) (inv : Inv digest turn clean none store)
    (mended : clean → Mended digest turn store events) :
    Inv digest turn clean none (restoreRun digest turn.stored store events) := by
  induction events generalizing store with
  | nil => exact inv
  | cons event later ih =>
    cases event with
    | request env request fates =>
      apply ih _ fun isClean => (mended isClean).2
      apply Ends.after
      apply Ends.mono (ends_restoreAgentTurn env request inv fun isClean => (mended isClean).1)
      · exact fun _ _ _ answered => answered.inv
      exact fun _ _ kept => kept
    | recover env fates =>
      apply ih _ fun isClean => mended isClean
      exact Ends.after _ (ends_recover env inv)
    | edit worktree =>
      apply ih _ fun isClean => mended isClean
      exact { inv with
          tracked := fun tracked none => by cases none }

theorem inv_initial (worktree : Worktree) : Inv digest turn clean none (.initial worktree) where
  notes := fun _ note member => by cases member
  noted := fun _ id journal none => by cases none
  own := fun id _ journal none => by cases none
  marker := fun marker none => by cases none
  completed := fun _ _ result none => by cases none
  settled := fun _ id _ journal none => by cases none
  tracked := fun tracked none => by cases none

/-- A restore is recorded as incomplete: by its journal or by the completed record. -/
def RecordedIncomplete (store : RestoreStore) (id : Uuid) : Prop :=
  (∃ journal, store.journals id = some journal ∧ journal.result.state = .incomplete) ∨
    ∃ result, store.completed = some result ∧ result.restoreRequestId = id ∧
      result.state = .incomplete

theorem began_of_recorded (inv : Inv digest turn clean none store) (isClean : clean) {id : Uuid}
    (recorded : RecordedIncomplete store id) :
    ∃ journal, store.journals id = some journal ∧ journal.result.state ≠ .conflict := by
  rcases recorded with ⟨journal, saved, incomplete⟩ | ⟨result, completed, isId, _⟩
  · refine ⟨journal, saved, ?_⟩
    rw [incomplete]
    exact fun conflict => by cases conflict
  rw [← isId]
  exact inv.completed isClean rfl result completed

/-- No file was written between two stores of a run. -/
def Unwritten (before after : RestoreStore) : Prop :=
  after.worktree = before.worktree ∧ ∀ path old new,
    .wrote path old new ∈ after.notes → .wrote path old new ∈ before.notes

theorem unwritten_self (store : RestoreStore) : Unwritten store store :=
  ⟨rfl, fun _ _ _ member => member⟩

theorem unwritten_savedTo (store : RestoreStore) (journal : RestoreJournal) :
    Unwritten store (savedTo store journal) := by
  refine ⟨rfl, ?_⟩
  intro path old new member
  rcases List.mem_append.1 member with past | last
  · exact past
  cases List.mem_singleton.1 last

theorem writes_nothing (inv : Inv digest turn clean none store) (isClean : clean) {id : Uuid}
    (saved : store.journals id = some journal) (began : journal.result.state ≠ .conflict)
    (env : RequestEnv) (other : request.requestId ≠ id) :
    Ends (restoreAgentTurn digest turn.stored env request) fates store
      (fun _ _ after => Unwritten store after) (fun _ after => Unwritten store after) := by
  have all : ∀ id, Covers none id := fun id tracked none => by cases none
  have settled := inv.settled isClean id (all id) journal saved began
  have own := inv.own id (all id) journal saved
  -- Two restores that began have one marker or one completed record.
  have alone : ∀ found, store.journals request.requestId = some found →
      found.result.state = .conflict := by
    intro found isFound
    by_contra foundBegan
    apply other
    have isOwn := inv.own _ (all _) found isFound
    rcases settled with marked | ⟨unmarked, _, completed⟩
    · rcases inv.settled isClean _ (all _) found isFound foundBegan with isMarked | ⟨isUnmarked, _⟩
      · exact ownMarker_inj (Option.some.inj (isMarked.symm.trans marked))
      · rw [isUnmarked] at marked
        cases marked
    rcases inv.settled isClean _ (all _) found isFound foundBegan with isMarked |
      ⟨_, _, isCompleted⟩
    · rw [unmarked] at isMarked
      cases isMarked
    have same : journal.result = found.result :=
      Option.some.inj (completed.symm.trans isCompleted)
    rw [← isOwn.restoreRequest, ← own.restoreRequest, same]
  apply Ends.bind_read
  apply Ends.bind_ofExcept
  · exact fun _ _ => unwritten_self store
  intro decision decided
  rcases decideRestore_of_ok decided with ⟨found, isFound, isRequest, isDecision⟩ |
    ⟨absent, unmarked, isDecision⟩
  · have conflict := alone found isFound
    cases isDecision with
    | answer finished => exact .pure (unwritten_self store)
    | recover unfinished =>
      have incomplete := (inv.own _ (all _) found isFound).unfinished unfinished
      rw [incomplete] at conflict
      cases conflict
    | start finished incomplete unmarked =>
      rw [incomplete] at conflict
      cases conflict
  cases isDecision with
  | refuse preflight =>
    apply Ends.bind_change
    · exact fun _ => unwritten_self store
    · exact fun _ => unwritten_savedTo store (refusedJournal turn.stored request preflight)
    intro left
    exact .pure (unwritten_savedTo store (refusedJournal turn.stored request preflight))
  | start preflight _ effect resumes =>
    exfalso
    rcases settled with marked | ⟨_, _, completed⟩
    · rw [unmarked] at marked
      cases marked
    apply other
    rw [← resumes _ completed]
    exact own.restoreRequest

end Requests

end Wts.TurnRestore
