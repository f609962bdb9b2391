/-
Module: Wts.Proofs.StoreConfirmations
Purpose: Confirmations of links under idempotency keys: a recorded key is found again in every later
  state, changes nothing when it is repeated and links at most once; the replay that reads the record
  alone agrees with the confirmation as long as the workspace is live.
Trusted boundary: none
Main exports: run_linksSettled, replay_agrees_iff
-/
import Wts.Proofs.StoreEffects

namespace Wts.Store

open List Workspace Option Tables

variable {store : WorkspaceStore} {env : CallEnv} {tables written : Tables} {workspaceId : Uuid}
variable {idempotencyKey : Uuid} {key previewDigest : String} {provider : StoredWorkItemProvider}
variable {role : StoredWorkItemRole} {snapshot : StoredWorkItemSnapshot}
variable {result : ConfirmStoredWorkItemLinkResult}

variable {confirmation : WorkItemLinkConfirmation}

theorem findConfirmation_step (found : findConfirmation tables idempotencyKey = some confirmation)
    (step : LinkStep tables.links written.links) :
    findConfirmation written idempotencyKey = some confirmation := by
  simp only [findConfirmation] at found ⊢
  generalize written.links = after at step ⊢
  cases step with
  | same => exact found
  | created => exact found
  | confirmed => rw [find?_append, found, some_or]
  | unlinked => exact found

theorem recordedConfirmation_step
    (recorded : recordedConfirmation store workspaceId idempotencyKey previewDigest tables =
      .ok (some result)) (step : LinkStep tables.links written.links) :
    recordedConfirmation store workspaceId idempotencyKey previewDigest written =
      .ok (some result) := by
  simp only [recordedConfirmation] at recorded ⊢
  split at recorded
  · cases recorded
  rename_i found
  rw [findConfirmation_step found step]
  exact recorded

theorem recordedConfirmation_run (calls : List (Call × CallEnv))
    (recorded : recordedConfirmation store workspaceId idempotencyKey previewDigest tables =
      .ok (some result)) :
    recordedConfirmation store workspaceId idempotencyKey previewDigest (run store calls tables) =
      .ok (some result) :=
  run_invariant (fun tables =>
      recordedConfirmation store workspaceId idempotencyKey previewDigest tables =
        .ok (some result))
    (fun _ _ call recorded => recordedConfirmation_step recorded ((perform_history call).linkStep))
    calls recorded

theorem recordedConfirmation_replayed
    (recorded : recordedConfirmation store workspaceId idempotencyKey previewDigest tables =
      .ok (some result)) : result.replayed = true := by
  simp only [recordedConfirmation] at recorded
  split at recorded
  · cases recorded
  split at recorded
  · cases recorded
  split at recorded
  · cases recorded
  cases recorded
  rfl

theorem decodeConfirmation_print
    {link : StoredWorkspaceWorkItemLink} (printed : confirmation.resultJson = link.toJson.print)
    (valid : validateWorkItemLink link = .ok ()) :
    decodeConfirmation store confirmation = .ok link := by
  simp only [decodeConfirmation, printed, Json.parse_print, bind_some,
    StoredWorkspaceWorkItemLink.ofJson_toJson, valid]

theorem confirmNewLink_recorded
    (confirmed : confirmNewLink env workspaceId idempotencyKey previewDigest provider role snapshot
      tables = .ok (result, written)) :
    recordedConfirmation store workspaceId idempotencyKey previewDigest written =
      .ok (some { result with replayed := true }) := by
  obtain ⟨_, event, confirmation, linking, recording, rfl, rfl, rfl, rfl⟩ :=
    confirmNewLink_eq_ok confirmed
  have before : tables.links.confirmations.find? (fun other =>
      other.idempotencyKey = confirmation.idempotencyKey) = none := by
    apply find?_eq_none.2
    intro other member
    simpa using recording.unrecorded other member
  simp [recordedConfirmation, findConfirmation, find?_append, before,
    decodeConfirmation_print recording.result linking.valid]

/-- The checks that come before the transaction. -/
structure WellFormed (key previewDigest : String) (snapshot : StoredWorkItemSnapshot)
    (idempotencyKey : Uuid) : Prop where
  key : parseIdempotencyKey key = .ok idempotencyKey
  digest : validSha256Digest previewDigest = true
  snapshot : validateWorkItemSnapshot snapshot = .ok ()

theorem confirmWorkItemLink_of_wellFormed
    (wellFormed : WellFormed key previewDigest snapshot idempotencyKey) :
    confirmWorkItemLink store env workspaceId key previewDigest provider role snapshot tables =
      inTransaction tables
        (confirmTransaction store env workspaceId idempotencyKey previewDigest provider role
          snapshot) := by
  simp [confirmWorkItemLink, wellFormed.key, wellFormed.digest, wellFormed.snapshot]

theorem confirmWorkItemLink_eq_ok
    (confirmed : confirmWorkItemLink store env workspaceId key previewDigest provider role snapshot
      tables = (.ok result, written)) :
    ∃ idempotencyKey, WellFormed key previewDigest snapshot idempotencyKey ∧
      confirmTransaction store env workspaceId idempotencyKey previewDigest provider role snapshot
        tables = .ok (result, written) := by
  simp only [confirmWorkItemLink] at confirmed
  split at confirmed
  · cases confirmed
  rename_i idempotencyKey parsed
  split at confirmed
  · cases confirmed
  rename_i digest
  split at confirmed
  · cases confirmed
  rename_i valid
  exact ⟨idempotencyKey, ⟨parsed, by simpa using digest, valid⟩,
    inTransaction_ok.1 confirmed⟩

variable {error : WorkspaceStoreError}

theorem confirmWorkItemLink_error
    (failed : (confirmWorkItemLink store env workspaceId key previewDigest provider role snapshot
      tables).1 = .error error) :
    (confirmWorkItemLink store env workspaceId key previewDigest provider role snapshot tables).2 =
      tables := by
  revert failed
  simp only [confirmWorkItemLink]
  split
  · exact fun _ => rfl
  split
  · exact fun _ => rfl
  split
  · exact fun _ => rfl
  exact inTransaction_error

theorem unlinkWorkItemLink_error {linkId : Uuid} {expectedRevision : UInt64}
    (failed : (unlinkWorkItemLink store env workspaceId linkId expectedRevision tables).1 =
      .error error) :
    (unlinkWorkItemLink store env workspaceId linkId expectedRevision tables).2 = tables := by
  revert failed
  simp only [unlinkWorkItemLink]
  split
  · exact fun _ => rfl
  exact inTransaction_error

variable {effectDigest resultJson : String}

theorem tombstone_error
    (failed : (tombstone store env workspaceId key effectDigest resultJson tables).1 =
      .error error) :
    (tombstone store env workspaceId key effectDigest resultJson tables).2 = tables := by
  revert failed
  simp only [tombstone]
  split
  · exact fun _ => rfl
  split
  · exact fun _ => rfl
  split
  · exact fun _ => rfl
  exact inTransaction_error

theorem confirmTransaction_recorded
    (confirmed : confirmTransaction store env workspaceId idempotencyKey previewDigest provider role
      snapshot tables = .ok (result, written)) :
    recordedConfirmation store workspaceId idempotencyKey previewDigest written =
      .ok (some { result with replayed := true }) := by
  rcases confirmTransaction_eq_ok confirmed with ⟨recorded, rfl⟩ | ⟨_, linked⟩
  · have replayed := recordedConfirmation_replayed recorded
    obtain ⟨link, _⟩ := result
    obtain rfl : _ = true := replayed
    exact recorded
  exact confirmNewLink_recorded linked

theorem confirmWorkItemLink_of_recorded
    (wellFormed : WellFormed key previewDigest snapshot idempotencyKey)
    (recorded : recordedConfirmation store workspaceId idempotencyKey previewDigest tables =
      .ok (some result)) (live : Live store tables workspaceId) :
    confirmWorkItemLink store env workspaceId key previewDigest provider role snapshot tables =
      (.ok result, tables) := by
  obtain ⟨decoded, required⟩ := live_iff_require.1 live
  simp [confirmWorkItemLink_of_wellFormed wellFormed, inTransaction, confirmTransaction, required,
    recorded]

theorem confirmWorkItemLink_of_found (parsed : parseIdempotencyKey key = .ok idempotencyKey)
    (found : (findConfirmation tables idempotencyKey).isSome) :
    (confirmWorkItemLink store env workspaceId key previewDigest provider role snapshot tables).2 =
      tables := by
  cases outcome : confirmWorkItemLink store env workspaceId key previewDigest provider role snapshot
      tables with
  | mk answer after =>
    cases answer with
    | error error =>
      have kept := confirmWorkItemLink_error (congrArg Prod.fst outcome)
      rwa [outcome] at kept
    | ok result =>
      obtain ⟨parsedKey, wellFormed, confirmed⟩ := confirmWorkItemLink_eq_ok outcome
      obtain rfl := Except.ok.inj (parsed.symm.trans wellFormed.key)
      rcases confirmTransaction_eq_ok confirmed with ⟨_, same⟩ | ⟨unrecorded, _⟩
      · exact same
      obtain ⟨confirmation, recorded⟩ := isSome_iff_exists.1 found
      simp only [recordedConfirmation, recorded] at unrecorded
      split at unrecorded
      · cases unrecorded
      split at unrecorded <;> cases unrecorded

/-- The calls that link under an idempotency key. -/
inductive LinkOperation where
  | confirmation
  | creation
deriving DecidableEq

/-- The operation and the idempotency key of a call that links. -/
def Call.linkKey : Call → Option (LinkOperation × Uuid)
  | .confirmWorkItemLink _ key .. =>
    (parseIdempotencyKey key).toOption.map fun key => (.confirmation, key)
  | .create key _ => (parseIdempotencyKey key).toOption.map fun key => (.creation, key)
  | _ => none

/-- The key is in the table of its operation. -/
def Recorded (tables : Tables) : LinkOperation × Uuid → Prop
  | (.confirmation, key) => (findConfirmation tables key).isSome
  | (.creation, key) => (findCreated tables key).isSome

/-- How many link events the calls with a key have written. -/
def eventsCausedBy (store : WorkspaceStore) (key : LinkOperation × Uuid) :
    List (Call × CallEnv) → Tables → ℕ
  | [], _ => 0
  | (call, env) :: rest, tables =>
    let written := (perform store env tables call).2
    (if call.linkKey = some key then
      written.links.events.length - tables.links.events.length
    else 0) + eventsCausedBy store key rest written

theorem findCreated_perform (call : Call) (found : (findCreated tables idempotencyKey).isSome) :
    (findCreated (perform store env tables call).2 idempotencyKey).isSome := by
  obtain ⟨added, appended⟩ := HistoryStep.createdEvents (perform_history call)
  rw [findCreated, appended, find?_append]
  simp only [findCreated] at found
  rw [isSome_or, found, Bool.true_or]

theorem findConfirmation_perform (call : Call)
    (found : (findConfirmation tables idempotencyKey).isSome) :
    (findConfirmation (perform store env tables call).2 idempotencyKey).isSome := by
  obtain ⟨confirmation, recorded⟩ := isSome_iff_exists.1 found
  rw [findConfirmation_step recorded (perform_history call).linkStep]
  rfl

variable {linkKey : LinkOperation × Uuid}

theorem recorded_perform (call : Call)
    (recorded : Recorded tables linkKey) : Recorded (perform store env tables call).2 linkKey := by
  obtain ⟨operation, idempotencyKey⟩ := linkKey
  cases operation with
  | confirmation => exact findConfirmation_perform call recorded
  | creation => exact findCreated_perform call recorded

theorem toOption_eq_some {text : String} {id : Uuid}
    (parsed : (parseIdempotencyKey text).toOption = some id) :
    parseIdempotencyKey text = .ok id := by
  cases outcome : parseIdempotencyKey text with
  | error error =>
    rw [outcome] at parsed
    cases parsed
  | ok key =>
    rw [outcome] at parsed
    cases parsed
    rfl

theorem create_recorded {request : CreateWorkspaceRequest}
    (parsed : parseIdempotencyKey key = .ok idempotencyKey) :
    (create store env key request tables).2 = tables ∨ findCreated tables idempotencyKey = none ∧
        (findCreated (create store env key request tables).2 idempotencyKey).isSome := by
  simp only [create, parsed]
  split
  · exact .inl rfl
  rw [thenView_tables]
  refine inTransaction_related (fun before after => after = before ∨
    findCreated before idempotencyKey = none ∧ (findCreated after idempotencyKey).isSome)
    (.inl rfl) ?_
  rintro ⟨decoded, replayed⟩ written created
  rcases createTransaction_eq_ok created with ⟨_, same⟩ | ⟨unknown, inserted⟩
  · exact .inl same
  obtain ⟨_, _, new⟩ := createNew_eq_ok inserted
  obtain ⟨event, rfl, appended⟩ := new.writes.events
  refine .inr ⟨unknown, ?_⟩
  rw [findCreated, appended, find?_append]
  simp

theorem confirmWorkItemLink_recorded (parsed : parseIdempotencyKey key = .ok idempotencyKey) :
    (confirmWorkItemLink store env workspaceId key previewDigest provider role snapshot tables).2 =
        tables ∨ findConfirmation tables idempotencyKey = none ∧
        (findConfirmation (confirmWorkItemLink store env workspaceId key previewDigest provider role
          snapshot tables).2 idempotencyKey).isSome := by
  cases found : findConfirmation tables idempotencyKey with
  | some confirmation =>
    exact .inl (confirmWorkItemLink_of_found parsed (by rw [found]; rfl))
  | none =>
    cases outcome : confirmWorkItemLink store env workspaceId key previewDigest provider role
        snapshot tables with
    | mk answer after =>
      cases answer with
      | error error =>
        have kept := confirmWorkItemLink_error (congrArg Prod.fst outcome)
        rw [outcome] at kept
        exact .inl kept
      | ok result =>
        obtain ⟨parsedKey, wellFormed, confirmed⟩ := confirmWorkItemLink_eq_ok outcome
        obtain rfl := Except.ok.inj (parsed.symm.trans wellFormed.key)
        rcases confirmTransaction_eq_ok confirmed with ⟨_, same⟩ | ⟨_, linked⟩
        · exact .inl same
        obtain ⟨_, event, confirmation, _, _, rfl, _, _, rfl⟩ :=
          confirmNewLink_eq_ok linked
        refine .inr ⟨rfl, ?_⟩
        simp [findConfirmation, find?_append]

variable {call : Call}

theorem perform_of_linkKey
    (keyed : call.linkKey = some linkKey) : (perform store env tables call).2 = tables ∨
      ¬ Recorded tables linkKey ∧ Recorded (perform store env tables call).2 linkKey := by
  cases call <;> simp only [Call.linkKey, reduceCtorEq, map_eq_some_iff] at keyed
  case create key request =>
    obtain ⟨id, parsed, rfl⟩ := keyed
    simp only [perform]
    rcases create_recorded (toOption_eq_some parsed) with same | ⟨unknown, recorded⟩
    · exact .inl same
    exact .inr ⟨by simp [Recorded, unknown], recorded⟩
  case confirmWorkItemLink workspaceId key previewDigest provider role snapshot =>
    obtain ⟨id, parsed, rfl⟩ := keyed
    simp only [perform]
    rcases confirmWorkItemLink_recorded (toOption_eq_some parsed) with same | ⟨unknown, recorded⟩
    · exact .inl same
    exact .inr ⟨by simp [Recorded, unknown], recorded⟩

variable {links : LinkTables}

theorem LinkStep.events_length {after : LinkTables} (step : LinkStep links after) :
    after.events.length ≤ links.events.length + 1 := by
  cases step <;> simp

theorem eventsCausedBy_le (linkKey : LinkOperation × Uuid) (calls : List (Call × CallEnv))
    (tables : Tables) : eventsCausedBy store linkKey calls tables ≤ 1 ∧
      (Recorded tables linkKey → eventsCausedBy store linkKey calls tables = 0) := by
  induction calls generalizing tables with
  | nil => exact ⟨Nat.zero_le 1, fun _ => rfl⟩
  | cons step rest ih =>
    obtain ⟨call, env⟩ := step
    obtain ⟨atMost, none⟩ := ih (perform store env tables call).2
    simp only [eventsCausedBy]
    by_cases keyed : call.linkKey = some linkKey
    · rw [if_pos keyed]
      rcases perform_of_linkKey keyed with same | ⟨unrecorded, recorded⟩
      · rw [same] at atMost none ⊢
        rw [Nat.sub_self, Nat.zero_add]
        exact ⟨atMost, none⟩
      have step : HistoryStep store tables (perform store env tables call).2 := perform_history call
      have appended := step.linkStep.events_length
      rw [none recorded]
      exact ⟨by omega, fun already => absurd already unrecorded⟩
    rw [if_neg keyed, Nat.zero_add]
    exact ⟨atMost, fun recorded => none (recorded_perform call recorded)⟩

/-! ### Links settled -/

theorem countP_le_one {α : Type} {Apart : α → α → Prop} {chosen : α → Bool} {items : List α}
    (apart : items.Pairwise Apart)
    (exclude : ∀ first second, chosen first = true → chosen second = true → ¬ Apart first second) :
    items.countP chosen ≤ 1 := by
  induction apart with
  | nil => exact Nat.zero_le 1
  | @cons first rest away _ ih =>
    rw [countP_cons]
    by_cases isChosen : chosen first = true
    · rw [if_pos isChosen, countP_eq_zero.2]
      intro other member isOther
      exact exclude first other isChosen isOther (away other member)
    rw [if_neg isChosen]
    exact ih

theorem LinksAgree.countP_primary (agree : LinksAgree links) (workspaceId : Uuid) :
    (links.rowsOf workspaceId).countP (fun link => link.role = .primary) ≤ 1 := by
  rw [LinkTables.rowsOf, countP_filter]
  apply countP_le_one agree.apart
  intro first second isFirst isSecond
  simp only [Bool.and_eq_true, decide_eq_true_eq] at isFirst isSecond
  simp [LinksApart, linksClash, isFirst, isSecond]

theorem LinksAgree.countP_issue (agree : LinksAgree links)
    (workspaceId : Uuid) (provider : StoredWorkItemProvider) (issueKey : String) :
    (links.rowsOf workspaceId).countP
      (fun link => link.provider = provider ∧ link.snapshot.issueKey = issueKey) ≤ 1 := by
  rw [LinkTables.rowsOf, countP_filter]
  apply countP_le_one agree.apart
  intro first second isFirst isSecond
  simp only [Bool.and_eq_true, decide_eq_true_eq] at isFirst isSecond
  simp [LinksApart, linksClash, isFirst, isSecond]

def Call.isLinkRequest : Call → Bool
  | .create .. | .tombstone .. | .confirmWorkItemLink .. | .unlinkWorkItemLink .. => true
  | _ => false

theorem perform_error (isRequest : call.isLinkRequest = true)
    (failed : (perform store env tables call).1.isError = true) :
    (perform store env tables call).2 = tables := by
  cases call <;> simp only [Call.isLinkRequest, Bool.false_eq_true] at isRequest
  case create key request =>
    simp only [perform] at failed ⊢
    cases outcome : (create store env key request tables).1 with
    | error error => exact create_error outcome
    | ok value =>
      rw [outcome] at failed
      cases failed
  case tombstone workspaceId key effectDigest resultJson =>
    simp only [perform] at failed ⊢
    cases outcome : (tombstone store env workspaceId key effectDigest resultJson tables).1 with
    | error error => exact tombstone_error outcome
    | ok value =>
      rw [outcome] at failed
      cases failed
  case confirmWorkItemLink workspaceId key previewDigest provider role snapshot =>
    simp only [perform] at failed ⊢
    cases outcome : (confirmWorkItemLink store env workspaceId key previewDigest provider role
        snapshot tables).1 with
    | error error => exact confirmWorkItemLink_error outcome
    | ok value =>
      rw [outcome] at failed
      cases failed
  case unlinkWorkItemLink workspaceId linkId expectedRevision =>
    simp only [perform] at failed ⊢
    cases outcome : (unlinkWorkItemLink store env workspaceId linkId expectedRevision tables).1 with
    | error error => exact unlinkWorkItemLink_error outcome
    | ok value =>
      rw [outcome] at failed
      cases failed

/-- What holds of the links after a run. -/
structure LinksSettled (store : WorkspaceStore) (calls : List (Call × CallEnv))
    (tables : Tables) : Prop where
  fold : ∀ workspaceId,
    tables.links.rowsOf workspaceId = foldLinkEvents (tables.links.eventsOf workspaceId)
  primary : ∀ workspaceId,
    (tables.links.rowsOf workspaceId).countP (fun link => link.role = .primary) ≤ 1
  issue : ∀ workspaceId provider issueKey,
    (tables.links.rowsOf workspaceId).countP
      (fun link => link.provider = provider ∧ link.snapshot.issueKey = issueKey) ≤ 1
  key : ∀ linkKey, eventsCausedBy store linkKey calls Tables.empty ≤ 1
  /-- A confirmation that succeeded is repeated, after any further calls, without a change: it
  returns its link while the workspace is live, and it is refused when the workspace is gone. The
  replay returns its link in any case. -/
  repeated : ∀ env workspaceId key previewDigest provider role snapshot result written,
    confirmWorkItemLink store env workspaceId key previewDigest provider role snapshot tables =
        (.ok result, written) →
      ∀ further now, ∀ later, later = run store further written →
        (Live store later workspaceId →
          confirmWorkItemLink store now workspaceId key previewDigest provider role snapshot later =
            (.ok { link := result.link, replayed := true }, later)) ∧
        confirmedWorkItemLinkReplay store workspaceId key previewDigest later =
          .ok (some { link := result.link, replayed := true }) ∧
        (loadProjection store later workspaceId = .ok none →
          confirmWorkItemLink store now workspaceId key previewDigest provider role snapshot later =
            (.error (.workspaceNotFound workspaceId), later))
  failed : ∀ env (call : Call), call.isLinkRequest = true →
    (perform store env tables call).1.isError = true → (perform store env tables call).2 = tables

/-- The links of a workspace after any run of calls. -/
theorem run_linksSettled (store : WorkspaceStore) (calls : List (Call × CallEnv)) :
    LinksSettled store calls (run store calls Tables.empty) where
  fold := (run_linksAgree store calls).fold
  primary := (run_linksAgree store calls).countP_primary
  issue := (run_linksAgree store calls).countP_issue
  key := fun linkKey => (eventsCausedBy_le linkKey calls Tables.empty).1
  repeated := by
    intro env workspaceId key previewDigest provider role snapshot result written confirmed further
      now later reached
    obtain ⟨idempotencyKey, wellFormed, transacted⟩ := confirmWorkItemLink_eq_ok confirmed
    have recorded := recordedConfirmation_run further (confirmTransaction_recorded transacted)
    rw [← reached] at recorded
    refine ⟨confirmWorkItemLink_of_recorded wellFormed recorded, ?_, ?_⟩
    · simp [confirmedWorkItemLinkReplay, wellFormed.key, wellFormed.digest, recorded]
    · intro gone
      simp [confirmWorkItemLink_of_wellFormed wellFormed, inTransaction, confirmTransaction,
        requireProjection, gone]
  failed := fun _ _ request failed => perform_error request failed

theorem confirmWorkItemLink_of_removed
    (wellFormed : WellFormed key previewDigest snapshot idempotencyKey)
    (removed : tables.tombstoned workspaceId = true) :
    (confirmWorkItemLink store env workspaceId key previewDigest provider role snapshot tables).1 =
      .error (.workspaceNotFound workspaceId) := by
  simp [confirmWorkItemLink_of_wellFormed wellFormed, inTransaction, confirmTransaction,
    requireProjection, loadProjection_of_tombstoned removed]

def sampleDigest : String :=
  "sha256:aaaaaaaaaaaaaaaaaaaaaaaaaaaaaaaaaaaaaaaaaaaaaaaaaaaaaaaaaaaaaaaa"

def sampleSnapshot : StoredWorkItemSnapshot where
  issueKey := "WTS-1"
  summary := none
  status := none
  content := ""
  browserUrl := none
  fetchedAtUnixMs := 0

def sampleLink : StoredWorkspaceWorkItemLink where
  linkId := 2000
  workspaceId := 1000
  provider := .jira
  role := .related
  snapshot := sampleSnapshot
  revision := 1
  createdAtUnixMs := 2
  updatedAtUnixMs := 2

def createdRun : List (Call × CallEnv) :=
  [(.create sampleKey sampleRequest, sampleEnv 1)]

def linkedRun : List (Call × CallEnv) :=
  createdRun ++
    [(.confirmWorkItemLink 1000 sampleKey sampleDigest .jira .related sampleSnapshot, sampleEnv 2)]

def removedRun : List (Call × CallEnv) :=
  linkedRun ++ [(.tombstone 1000 sampleKey sampleDigest "{}", sampleEnv 3)]

theorem run_confirm :
    run store [(.confirmWorkItemLink workspaceId key previewDigest provider role snapshot, env)]
      tables = (confirmWorkItemLink store env workspaceId key previewDigest provider role snapshot
          tables).2 := by
  simp only [run, perform]

theorem run_tombstone :
    run store [(.tombstone workspaceId key effectDigest resultJson, env)] tables =
      (tombstone store env workspaceId key effectDigest resultJson tables).2 := by
  simp only [run, perform]

theorem sample_wellFormed : WellFormed sampleKey sampleDigest sampleSnapshot sampleKeyId where
  key := parse_sampleKey
  digest := by decide
  snapshot := by decide

theorem sample_confirmed (live : Live sampleStore tables 1000)
    (links : tables.links = empty.links) :
    ∃ links, confirmWorkItemLink sampleStore (sampleEnv 2) 1000 sampleKey sampleDigest .jira
      .related sampleSnapshot tables =
        (.ok { link := sampleLink, replayed := false }, { tables with links := links }) := by
  obtain ⟨decoded, required⟩ := live_iff_require.1 live
  have valid : validateWorkItemLink sampleLink = .ok () := by decide
  have now : unixTimeMs (sampleEnv 2) = .ok 2 := by decide
  have link : StoredWorkspaceWorkItemLink.mk ((sampleEnv 2).fresh 0) 1000 .jira .related
      sampleSnapshot 1 2 2 = sampleLink := by
    decide
  simp [confirmWorkItemLink_of_wellFormed sample_wellFormed, inTransaction, confirmTransaction,
    required, recordedConfirmation, findConfirmation, confirmNewLink, loadWorkItemLinkByIssue,
    loadWorkItemLinks, links, empty, now, link, valid, insertConfirmedLink, insertLink,
    insertLinkEvent, insertConfirmation, pure, Except.pure]

theorem sample_tombstoned (live : Live sampleStore tables 1000)
    (present : tables.tombstoneEvents = []) :
    (tombstone sampleStore (sampleEnv 3) 1000 sampleKey sampleDigest "{}" tables).2.tombstoned
      1000 = true := by
  obtain ⟨decoded, loaded⟩ := live
  have digest : validateEffectDigest sampleDigest = .ok () := by decide
  have json : validateTombstoneResultJson sampleStore "{}" = .ok () := by decide
  have now : unixTimeMs (sampleEnv 3) = .ok 3 := by decide
  have notRemoved : tables.tombstoned 1000 = false := by simp [tombstoned, present]
  simp only [tombstone, parse_sampleKey, digest, json, inTransaction, tombstoneTransaction,
    present, find?_nil, notRemoved, loaded, now, insertTombstone]
  simp [tombstoned]

theorem sample_runs :
    (confirmWorkItemLink sampleStore (sampleEnv 2) 1000 sampleKey sampleDigest .jira .related
        sampleSnapshot (run sampleStore createdRun empty)).1 =
      .ok { link := sampleLink, replayed := false } ∧
    recordedConfirmation sampleStore 1000 sampleKeyId sampleDigest
        (run sampleStore removedRun empty) =
      .ok (some { link := sampleLink, replayed := true }) ∧
    (run sampleStore removedRun empty).tombstoned 1000 = true := by
  obtain ⟨tables, reached, live, links, tombstones, _⟩ := sample_created
  obtain ⟨after, confirmed⟩ := sample_confirmed live links
  rw [removedRun, linkedRun, createdRun, run_append, run_append, reached, run_confirm, confirmed]
  refine ⟨rfl, ?_, ?_⟩
  · obtain ⟨idempotencyKey, wellFormed, transacted⟩ := confirmWorkItemLink_eq_ok confirmed
    obtain rfl := Except.ok.inj (parse_sampleKey.symm.trans wellFormed.key)
    exact recordedConfirmation_run _ (confirmTransaction_recorded transacted)
  rw [run_tombstone]
  exact sample_tombstoned live tombstones

/-- The repeated confirmation of a removed workspace is refused. -/
theorem repeated_confirmation_counterexample :
    (confirmWorkItemLink sampleStore (sampleEnv 2) 1000 sampleKey sampleDigest .jira .related
        sampleSnapshot (run sampleStore createdRun Tables.empty)).1 =
      .ok { link := sampleLink, replayed := false } ∧
    (confirmWorkItemLink sampleStore (sampleEnv 4) 1000 sampleKey sampleDigest .jira .related
        sampleSnapshot (run sampleStore removedRun Tables.empty)).1 =
      .error (.workspaceNotFound 1000) := by
  obtain ⟨confirmed, _, removed⟩ := sample_runs
  exact ⟨confirmed, confirmWorkItemLink_of_removed sample_wellFormed removed⟩

/-- The confirmation passes every check before its lookup, and the lookup finds no record. -/
def FindsNoRecord (store : WorkspaceStore) (tables : Tables) (workspaceId : Uuid)
    (key previewDigest : String) (snapshot : StoredWorkItemSnapshot) : Prop :=
  ∃ idempotencyKey, WellFormed key previewDigest snapshot idempotencyKey ∧
    Live store tables workspaceId ∧ findConfirmation tables idempotencyKey = none

/-- The key is recorded with a different request, or the workspace is not live. -/
def MustFail (store : WorkspaceStore) (tables : Tables) (workspaceId : Uuid)
    (key previewDigest : String) : Prop :=
  (∃ idempotencyKey confirmation, parseIdempotencyKey key = .ok idempotencyKey ∧
      findConfirmation tables idempotencyKey = some confirmation ∧
        (confirmation.workspaceId ≠ workspaceId ∨ confirmation.previewDigest ≠ previewDigest)) ∨
    ¬ Live store tables workspaceId

/-- The two paths agree on a request. -/
structure PathsAgree (store : WorkspaceStore) (env : CallEnv) (tables : Tables)
    (workspaceId : Uuid) (key previewDigest : String) (provider : StoredWorkItemProvider)
    (role : StoredWorkItemRole) (snapshot : StoredWorkItemSnapshot) : Prop where
  replayed : ∀ result,
    confirmedWorkItemLinkReplay store workspaceId key previewDigest tables = .ok (some result) ↔
      (confirmWorkItemLink store env workspaceId key previewDigest provider role snapshot
        tables).1 = .ok result ∧ result.replayed = true
  unrecorded :
    confirmedWorkItemLinkReplay store workspaceId key previewDigest tables = .ok none ↔
      FindsNoRecord store tables workspaceId key previewDigest snapshot
  refused : MustFail store tables workspaceId key previewDigest → ∀ error,
    confirmedWorkItemLinkReplay store workspaceId key previewDigest tables = .error error ↔
      (confirmWorkItemLink store env workspaceId key previewDigest provider role snapshot
        tables).1 = .error error

/-- The request is malformed for both paths, or the confirmation reaches its lookup. -/
def ReachesLookup (store : WorkspaceStore) (tables : Tables) (workspaceId : Uuid)
    (key previewDigest : String) (snapshot : StoredWorkItemSnapshot) : Prop :=
  (∀ idempotencyKey, parseIdempotencyKey key ≠ .ok idempotencyKey) ∨
    validSha256Digest previewDigest = false ∨
    validateWorkItemSnapshot snapshot = .ok () ∧ Live store tables workspaceId

theorem confirmNewLink_replayed
    (confirmed : confirmNewLink env workspaceId idempotencyKey previewDigest provider role snapshot
      tables = .ok (result, written)) : result.replayed = false :=
  (confirmNewLink_eq_ok confirmed).1

theorem confirmedWorkItemLinkReplay_of_parsed (parsed : parseIdempotencyKey key = .ok idempotencyKey)
    (digest : validSha256Digest previewDigest = true) :
    confirmedWorkItemLinkReplay store workspaceId key previewDigest tables =
      recordedConfirmation store workspaceId idempotencyKey previewDigest tables := by
  simp [confirmedWorkItemLinkReplay, parsed, digest]

theorem malformed_error (malformed : (∀ idempotencyKey, parseIdempotencyKey key ≠ .ok idempotencyKey) ∨
      validSha256Digest previewDigest = false) :
    ∃ error, confirmedWorkItemLinkReplay store workspaceId key previewDigest tables = .error error ∧
      (confirmWorkItemLink store env workspaceId key previewDigest provider role snapshot
        tables).1 = .error error := by
  simp only [confirmedWorkItemLinkReplay, confirmWorkItemLink]
  cases parsed : parseIdempotencyKey key with
  | error error => exact ⟨error, rfl, rfl⟩
  | ok idempotencyKey =>
    rcases malformed with unparsed | digest
    · exact absurd parsed (unparsed idempotencyKey)
    simp [digest]

theorem pathsAgree_of_malformed
    (malformed : (∀ idempotencyKey, parseIdempotencyKey key ≠ .ok idempotencyKey) ∨
      validSha256Digest previewDigest = false) :
    PathsAgree store env tables workspaceId key previewDigest provider role snapshot := by
  have both : ∃ error, confirmedWorkItemLinkReplay store workspaceId key previewDigest tables =
        .error error ∧
      (confirmWorkItemLink store env workspaceId key previewDigest provider role snapshot
        tables).1 = .error error := malformed_error malformed
  obtain ⟨error, replay, confirm⟩ := both
  refine ⟨?_, ?_, ?_⟩
  · simp [replay, confirm]
  · rw [replay]
    constructor
    · intro impossible
      cases impossible
    rintro ⟨idempotencyKey, wellFormed, _⟩
    rcases malformed with unparsed | digest
    · exact absurd wellFormed.key (unparsed idempotencyKey)
    rw [wellFormed.digest] at digest
    cases digest
  intro _ other
  simp [replay, confirm]

theorem confirm_of_live (wellFormed : WellFormed key previewDigest snapshot idempotencyKey)
    (live : Live store tables workspaceId) :
    (confirmWorkItemLink store env workspaceId key previewDigest provider role snapshot tables).1 =
      match recordedConfirmation store workspaceId idempotencyKey previewDigest tables with
      | .error error => .error error
      | .ok (some result) => .ok result
      | .ok none =>
        (inTransaction tables (confirmNewLink env workspaceId idempotencyKey previewDigest provider
          role snapshot)).1 := by
  obtain ⟨decoded, required⟩ := live_iff_require.1 live
  rw [confirmWorkItemLink_of_wellFormed wellFormed]
  simp only [inTransaction, confirmTransaction, required]
  cases recordedConfirmation store workspaceId idempotencyKey previewDigest tables with
  | error error => rfl
  | ok recorded => cases recorded <;> rfl

theorem pathsAgree_of_live (wellFormed : WellFormed key previewDigest snapshot idempotencyKey)
    (live : Live store tables workspaceId) :
    PathsAgree store env tables workspaceId key previewDigest provider role snapshot := by
  have replay : confirmedWorkItemLinkReplay store workspaceId key previewDigest tables = _ :=
    confirmedWorkItemLinkReplay_of_parsed wellFormed.key wellFormed.digest
  have confirm : (confirmWorkItemLink store env workspaceId key previewDigest provider role snapshot
      tables).1 = _ := confirm_of_live wellFormed live
  refine ⟨?_, ?_, ?_⟩
  · intro result
    rw [replay, confirm]
    cases looked : recordedConfirmation store workspaceId idempotencyKey previewDigest tables with
    | error error => simp
    | ok recorded =>
      cases recorded with
      | some found =>
        have replayed := recordedConfirmation_replayed looked
        simp only [Except.ok.injEq, Option.some.injEq]
        constructor
        · rintro rfl
          exact ⟨rfl, replayed⟩
        exact fun same => same.1
      | none =>
        simp only [reduceCtorEq, Except.ok.injEq, false_iff, not_and]
        intro confirmed replayed
        cases outcome : confirmNewLink env workspaceId idempotencyKey previewDigest provider role
            snapshot tables with
        | error error =>
          rw [inTransaction, outcome] at confirmed
          cases confirmed
        | ok written =>
          rw [inTransaction, outcome] at confirmed
          obtain ⟨value, after⟩ := written
          cases confirmed
          rw [confirmNewLink_replayed outcome] at replayed
          cases replayed
  · rw [replay]
    constructor
    · intro none
      refine ⟨idempotencyKey, wellFormed, live, ?_⟩
      cases found : findConfirmation tables idempotencyKey with
      | none => rfl
      | some confirmation =>
        simp only [recordedConfirmation, found] at none
        split at none
        · cases none
        split at none <;> cases none
    rintro ⟨other, otherFormed, _, none⟩
    obtain rfl := Except.ok.inj (wellFormed.key.symm.trans otherFormed.key)
    simp only [recordedConfirmation, none]
  rintro (⟨other, confirmation, parsed, found, different⟩ | notLive)
  · obtain rfl := Except.ok.inj (wellFormed.key.symm.trans parsed)
    intro error
    rw [replay, confirm]
    simp [recordedConfirmation, found, different]
  exact absurd live notLive

theorem validateWorkItemSnapshot_error
    (invalid : validateWorkItemSnapshot snapshot = .error error) : error = .invalidWorkItemLink := by
  simp only [validateWorkItemSnapshot] at invalid
  split at invalid <;> cases invalid
  rfl

theorem recordedConfirmation_error (agree : LinksAgree tables.links)
    (failed : recordedConfirmation store workspaceId idempotencyKey previewDigest tables =
      .error error) : error = .workItemLinkIdempotencyConflict idempotencyKey ∧ ∃ confirmation,
      findConfirmation tables idempotencyKey = some confirmation ∧
        (confirmation.workspaceId ≠ workspaceId ∨ confirmation.previewDigest ≠ previewDigest) := by
  simp only [recordedConfirmation] at failed
  split at failed
  · cases failed
  rename_i confirmation found
  split at failed
  next different =>
    cases failed
    exact ⟨rfl, confirmation, found, different⟩
  · obtain ⟨link, printed, valid⟩ := agree.recorded confirmation (mem_of_find?_eq_some found)
    rw [decodeConfirmation_print printed valid] at failed
    cases failed

theorem live_of_conflict (parsed : parseIdempotencyKey key = .ok idempotencyKey)
    (digest : validSha256Digest previewDigest = true) {conflicting : Uuid}
    (failed : (confirmWorkItemLink store env workspaceId key previewDigest provider role snapshot
      tables).1 = .error (.workItemLinkIdempotencyConflict conflicting)) :
    validateWorkItemSnapshot snapshot = .ok () ∧ Live store tables workspaceId := by
  simp only [confirmWorkItemLink, parsed, digest, not_true_eq_false, if_false] at failed
  split at failed
  next invalid =>
    have other := validateWorkItemSnapshot_error invalid
    rw [other] at failed
    cases failed
  next valid =>
    refine ⟨valid, ?_⟩
    cases loaded : loadProjection store tables workspaceId with
    | error error =>
      obtain ⟨detail, rfl⟩ := loadProjection_error loaded
      simp [inTransaction, confirmTransaction, requireProjection, loaded] at failed
    | ok projection =>
      cases projection with
      | some decoded => exact ⟨decoded, loaded⟩
      | none => simp [inTransaction, confirmTransaction, requireProjection, loaded] at failed

theorem reachesLookup_of_pathsAgree (links : LinksAgree tables.links)
    (agree : PathsAgree store env tables workspaceId key previewDigest provider role snapshot) :
    ReachesLookup store tables workspaceId key previewDigest snapshot := by
  cases parsed : parseIdempotencyKey key with
  | error error =>
    refine .inl ?_
    intro idempotencyKey other
    rw [parsed] at other
    cases other
  | ok idempotencyKey =>
  cases digest : validSha256Digest previewDigest with
  | false => exact .inr (.inl digest)
  | true =>
  refine .inr (.inr ?_)
  have replay : confirmedWorkItemLinkReplay store workspaceId key previewDigest tables = _ :=
    confirmedWorkItemLinkReplay_of_parsed parsed digest
  cases looked : recordedConfirmation store workspaceId idempotencyKey previewDigest tables with
  | error error =>
    obtain ⟨rfl, confirmation, found, different⟩ := recordedConfirmation_error links looked
    rw [looked] at replay
    have mustFail : MustFail store tables workspaceId key previewDigest :=
      .inl ⟨idempotencyKey, confirmation, parsed, found, different⟩
    exact live_of_conflict parsed digest ((agree.refused mustFail _).1 replay)
  | ok recorded =>
    rw [looked] at replay
    cases recorded with
    | none =>
      obtain ⟨_, wellFormed, live, _⟩ := agree.unrecorded.1 replay
      exact ⟨wellFormed.snapshot, live⟩
    | some result =>
      have confirmed := ((agree.replayed result).1 replay).1
      cases outcome : confirmWorkItemLink store env workspaceId key previewDigest provider role
          snapshot tables with
      | mk answer written =>
        rw [outcome] at confirmed
        obtain rfl : answer = .ok result := confirmed
        obtain ⟨_, wellFormed, transacted⟩ := confirmWorkItemLink_eq_ok outcome
        refine ⟨wellFormed.snapshot, live_iff_require.2 ?_⟩
        simp only [confirmTransaction] at transacted
        split at transacted
        · cases transacted
        next decoded required => exact ⟨decoded, required⟩

/-- In a reachable state the replay agrees with the confirmation exactly when the confirmation
reaches its lookup or both refuse the request as malformed. -/
theorem replay_agrees_iff (store : WorkspaceStore) (calls : List (Call × CallEnv)) (env : CallEnv)
    (workspaceId : Uuid) (key previewDigest : String) (provider : StoredWorkItemProvider)
    (role : StoredWorkItemRole) (snapshot : StoredWorkItemSnapshot) :
    PathsAgree store env (run store calls Tables.empty) workspaceId key previewDigest provider role
        snapshot ↔
      ReachesLookup store (run store calls Tables.empty) workspaceId key previewDigest snapshot := by
  constructor
  · exact reachesLookup_of_pathsAgree (run_linksAgree store calls)
  rintro (unparsed | digest | ⟨valid, live⟩)
  · exact pathsAgree_of_malformed (.inl unparsed)
  · exact pathsAgree_of_malformed (.inr digest)
  cases parsed : parseIdempotencyKey key with
  | error error =>
    refine pathsAgree_of_malformed (.inl ?_)
    intro idempotencyKey other
    rw [parsed] at other
    cases other
  | ok idempotencyKey =>
    cases digest : validSha256Digest previewDigest with
    | false => exact pathsAgree_of_malformed (.inr digest)
    | true => exact pathsAgree_of_live ⟨parsed, digest, valid⟩ live

/-- After the removal of its workspace a recorded confirmation is still replayed, and refused when it
is repeated. -/
theorem removed_replay_counterexample :
    ¬ PathsAgree sampleStore (sampleEnv 4) (run sampleStore removedRun Tables.empty) 1000 sampleKey
      sampleDigest .jira .related sampleSnapshot := by
  intro agree
  obtain ⟨_, recorded, removed⟩ := sample_runs
  have replay : confirmedWorkItemLinkReplay sampleStore 1000 sampleKey sampleDigest
      (run sampleStore removedRun Tables.empty) = _ :=
    confirmedWorkItemLinkReplay_of_parsed sample_wellFormed.key sample_wellFormed.digest
  rw [recorded] at replay
  have confirmed := ((agree.replayed _).1 replay).1
  rw [confirmWorkItemLink_of_removed sample_wellFormed removed] at confirmed
  cases confirmed

end Wts.Store
