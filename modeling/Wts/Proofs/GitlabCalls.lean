/-
Module: Wts.Proofs.GitlabCalls
Purpose: The calls of the GitLab adapter, and what they leave of the cached reviews.
Trusted boundary: the answers of the provider; `parseUrl` stands for the URL parser
Main exports: ReviewCall, after_eq, after_reviewCache
-/
import Wts.Proofs.GitlabPatches

namespace Wts.Gitlab

open List Text Function Interrupt

/-! ### Calls -/

structure PatchFetch where
  provider : PatchProvider
  repositoryId : String
  iid : ℕ
  host : String
  projectPath : String
  commitOid : Option String
  refresh : Bool

/-- The calls that change the adapter's reviews and patches. -/
inductive ReviewCall where
  | list (answers : ReviewAnswers) (repositories : List GitlabReviewTrustedRepository)
  | remember (repository : GitlabReviewTrustedRepository) (iid : ℕ)
  | patch (provider : PatchProvider) (repositoryId : String) (iid : ℕ) (commitOid : Option String)
      (refresh : Bool)
  | patchForOrigin (provider : PatchProvider) (repositoryId : String) (iid : ℕ) (origin : String)
      (commitOid : Option String) (refresh : Bool)
  | comment (provider : CommentProvider) (repositoryId : String) (iid : ℕ)
      (request : GitlabReviewCommentRequest)
  | commentForOrigin (provider : CommentProvider) (repositoryId : String) (iid : ℕ)
      (origin : String) (request : GitlabReviewCommentRequest)

section Calls

variable (parseUrl : String → Option Url) (jsonLength : SavedReviewPatchCache → ℕ)

def PatchFetch.run (fetch : PatchFetch) (adapter : Adapter) :
    Adapter × Except String GitlabReviewPatch :=
  fetchReviewPatch jsonLength fetch.provider fetch.repositoryId fetch.iid fetch.host
    fetch.projectPath fetch.commitOid fetch.refresh adapter

def ReviewCall.binds (call : ReviewCall) : Option ((String × ℕ) × String) :=
  match call with
  | .list _ _ => none
  | .patch _ _ _ _ _ => none
  | .comment _ _ _ _ => none
  | .remember repository iid =>
    if iid = 0 ∨ maxIid < iid then
      none
    else
      some ((repository.repositoryId, iid), httpsOrigin repository.host repository.projectPath)
  | .patchForOrigin _ repositoryId iid origin _ _ =>
    (projectOfOrigin parseUrl origin).map fun _ => ((repositoryId, iid), origin)
  | .commentForOrigin _ repositoryId iid origin _ =>
    (projectOfOrigin parseUrl origin).map fun place =>
      ((repositoryId, iid), httpsOrigin place.1 place.2)

def ReviewCall.bound (call : ReviewCall) (adapter : Adapter) : Adapter :=
  match call.binds parseUrl with
  | none => adapter
  | some (key, origin) => adapter.target key.1 key.2 origin

def reachesInline (provider : CommentProvider) (request : GitlabReviewCommentRequest) : Bool :=
  request.workspaceId.isNone && request.expectedPosition.all validPosition &&
    trim request.body ≠ "" && (trim request.body).length ≤ maxReviewCommentChars &&
    provider.executable && (request.filePath.bind validatedFilePath).isSome && request.side.isSome &&
    request.line.isSome

def commentFetch (provider : CommentProvider) (repositoryId : String) (iid : ℕ)
    (request : GitlabReviewCommentRequest) (adapter : Adapter) : Option PatchFetch :=
  if reachesInline provider request then
    (reviewTargetParts parseUrl adapter repositoryId iid).map fun place =>
      ⟨provider.patches, repositoryId, iid, place.1, place.2, none, true⟩
  else
    none

def ReviewCall.fetch (call : ReviewCall) (adapter : Adapter) : Option PatchFetch :=
  match call with
  | .list _ _ => none
  | .remember _ _ => none
  | .patch provider repositoryId iid commitOid refresh =>
    (reviewTargetParts parseUrl adapter repositoryId iid).map fun place =>
      ⟨provider, repositoryId, iid, place.1, place.2, commitOid, refresh⟩
  | .patchForOrigin provider repositoryId iid origin commitOid refresh =>
    (projectOfOrigin parseUrl origin).map fun place =>
      ⟨provider, repositoryId, iid, place.1, place.2, commitOid, refresh⟩
  | .comment provider repositoryId iid request =>
    commentFetch parseUrl provider repositoryId iid request adapter
  | .commentForOrigin provider repositoryId iid origin request =>
    (projectOfOrigin parseUrl origin).bind fun _ =>
      commentFetch parseUrl provider repositoryId iid request adapter

/-- The adapter after the call. -/
def ReviewCall.after (call : ReviewCall) (adapter : Adapter) : Adapter :=
  match call with
  | .list answers repositories => (listReviews parseUrl answers repositories adapter).1
  | .remember repository iid => (rememberReviewRepository repository iid adapter).1
  | .patch provider repositoryId iid commitOid refresh =>
    (reviewPatch parseUrl jsonLength provider repositoryId iid commitOid refresh adapter).1
  | .patchForOrigin provider repositoryId iid origin commitOid refresh =>
    (reviewPatchForOrigin parseUrl jsonLength provider repositoryId iid origin commitOid refresh
      adapter).1
  | .comment provider repositoryId iid request =>
    (publishReviewComment parseUrl jsonLength provider repositoryId iid request adapter).adapter
  | .commentForOrigin provider repositoryId iid origin request =>
    (publishReviewCommentForOrigin parseUrl jsonLength provider repositoryId iid origin request
      adapter).adapter

section

variable (provider : CommentProvider) (repositoryId : String) (iid : ℕ)
include provider repositoryId iid

theorem publishInline_adapter
    (host projectPath body : String) (expected : Option GitlabReviewDiscussionPosition)
    (path side : String) (line : ℕ) (adapter : Adapter) :
    (publishInline jsonLength provider repositoryId iid host projectPath body expected path side line
      none adapter).adapter =
        (fetchReviewPatch jsonLength provider.patches repositoryId iid host projectPath none true
          adapter).1 := by
  rw [publishInline]
  simp only
  generalize fetchReviewPatch jsonLength provider.patches repositoryId iid host projectPath none true
    adapter = fetched
  obtain ⟨after, error | patch⟩ := fetched
  · rfl
  simp only
  split_ifs <;> rfl

theorem publish_adapter
    (host projectPath : String) (request : GitlabReviewCommentRequest) (adapter : Adapter) :
    (publishReviewCommentToTarget jsonLength provider repositoryId iid host projectPath request none
      adapter).adapter = if reachesInline provider request then
          (fetchReviewPatch jsonLength provider.patches repositoryId iid host projectPath none true
            adapter).1 else adapter := by
  obtain ⟨body, filePath, side, line, expected, workspaceId⟩ := request
  rw [publishReviewCommentToTarget]
  simp only
  by_cases refused : workspaceId.isSome = true ∨ expected.any (fun position =>
      !validPosition position) = true ∨ trim body = "" ∨ maxReviewCommentChars < (trim body).length
  · rw [if_pos refused, if_neg]
    · rfl
    · intro reaches
      simp only [reachesInline, Bool.and_eq_true, decide_eq_true_eq] at reaches
      obtain ⟨⟨⟨⟨⟨⟨⟨free, valid⟩, nonempty⟩, short⟩, _⟩, _⟩, _⟩, _⟩ := reaches
      rcases refused with owned | invalid | empty | long
      · cases workspaceId <;> cases free; cases owned
      · cases expected with
        | none => cases invalid
        | some position =>
          rw [Option.any_some, Bool.not_eq_true'] at invalid
          rw [Option.all_some, invalid] at valid
          cases valid
      · exact nonempty empty
      exact absurd short (Nat.not_le.2 long)
  rw [if_neg refused]
  rw [not_or, not_or, not_or, Nat.not_lt] at refused
  obtain ⟨free, valid, nonempty, short⟩ := refused
  have checked : (workspaceId.isNone && expected.all validPosition && decide (trim body ≠ "") &&
      decide ((trim body).length ≤ maxReviewCommentChars)) = true := by
    cases workspaceId <;> cases expected <;> simp_all
  simp only [reachesInline, checked, Bool.true_and]
  rcases available : provider.executable with _ | _
  · rfl
  rcases filePath with _ | path <;> rcases side with _ | side <;> rcases line with _ | line
  all_goals simp only [Option.bind_some, Option.isSome_some, Option.isSome_none, Bool.and_false,
    Bool.false_eq_true, if_false, Bool.and_true, Bool.not_true]
  · split <;> rfl
  all_goals try rfl
  rcases isPath : validatedFilePath path with _ | path
  · rfl
  exact publishInline_adapter ..

theorem publishReviewComment_adapter (request : GitlabReviewCommentRequest) (adapter : Adapter) :
    (publishReviewComment parseUrl jsonLength provider repositoryId iid request adapter).adapter =
      match commentFetch parseUrl provider repositoryId iid request adapter with
      | none => adapter
      | some fetch => (fetch.run jsonLength adapter).1 := by
  rw [publishReviewComment, commentFetch]
  rcases reviewTargetParts parseUrl adapter repositoryId iid with _ | ⟨host, projectPath⟩
  · rw [Option.map_none, ite_self]
    rfl
  simp only
  rw [publish_adapter]
  split <;> rfl

end

variable {call : ReviewCall}

theorem after_eq (notList : ∀ answers repositories, call ≠ .list answers repositories)
    (adapter : Adapter) :
    call.after parseUrl jsonLength adapter =
      match call.fetch parseUrl (call.bound parseUrl adapter) with
      | none => call.bound parseUrl adapter
      | some fetch => (fetch.run jsonLength (call.bound parseUrl adapter)).1 := by
  cases call with
  | list answers repositories => exact absurd rfl (notList answers repositories)
  | remember repository iid =>
    rw [ReviewCall.after, rememberReviewRepository, ReviewCall.bound, ReviewCall.binds]
    split <;> rfl
  | patch provider repositoryId iid commitOid refresh =>
    rw [ReviewCall.after, reviewPatch, ReviewCall.fetch]
    change _ = match (reviewTargetParts parseUrl adapter repositoryId iid).map _ with
      | none => adapter
      | some fetch => (PatchFetch.run jsonLength fetch adapter).1
    rcases reviewTargetParts parseUrl adapter repositoryId iid with _ | place <;> rfl
  | patchForOrigin provider repositoryId iid origin commitOid refresh =>
    rw [ReviewCall.after, reviewPatchForOrigin, ReviewCall.fetch, ReviewCall.bound, ReviewCall.binds]
    rcases projectOfOrigin parseUrl origin with _ | place <;> rfl
  | comment provider repositoryId iid request =>
    exact publishReviewComment_adapter parseUrl jsonLength provider repositoryId iid request adapter
  | commentForOrigin provider repositoryId iid origin request =>
    rw [ReviewCall.after, publishReviewCommentForOrigin, ReviewCall.fetch, ReviewCall.bound,
      ReviewCall.binds]
    rcases projectOfOrigin parseUrl origin with _ | ⟨host, projectPath⟩
    · rfl
    exact publishReviewComment_adapter parseUrl jsonLength provider repositoryId iid request
      (adapter.target repositoryId iid (httpsOrigin host projectPath))

/-- A fetch of a patch leaves the cached reviews. -/
theorem run_reviewCache (fetch : PatchFetch) (adapter : Adapter) :
    (fetch.run jsonLength adapter).1.reviewCache = adapter.reviewCache := by
  have outcome := fetchReviewPatch_cases jsonLength fetch.provider fetch.repositoryId fetch.iid
    fetch.host fetch.projectPath fetch.commitOid fetch.refresh adapter
  rw [PatchFetch.run]
  generalize fetchReviewPatch jsonLength fetch.provider fetch.repositoryId fetch.iid fetch.host
    fetch.projectPath fetch.commitOid fetch.refresh adapter = ending at outcome ⊢
  cases outcome with
  | failed error => rfl
  | held selected patch result isCommit found same marked => rfl
  | built selected patch isCommit asked isBuilt => rfl

/-- Only a list changes the cached reviews. -/
theorem after_reviewCache
    (notList : ∀ answers repositories, call ≠ .list answers repositories) (adapter : Adapter) :
    (call.after parseUrl jsonLength adapter).reviewCache = adapter.reviewCache := by
  have bound : (call.bound parseUrl adapter).reviewCache = adapter.reviewCache := by
    rw [ReviewCall.bound]
    split <;> rfl
  rw [after_eq parseUrl jsonLength notList]
  split
  · exact bound
  rename_i fetch _
  exact (run_reviewCache jsonLength fetch (call.bound parseUrl adapter)).trans bound

end Calls

end Wts.Gitlab
