/-
Module: Wts.Proofs.StaleInbox
Purpose: The inbox that is shown when a provider fails, against the last fresh one.
Trusted boundary: none
Main exports: stale_inboxes
-/
import Wts.Library.Regroup
import Wts.Integrations.GithubReviews
import Wts.Proofs.GitlabCalls

namespace Wts

open List Regroup Interrupt

section Orders

variable {α κ τ : Type*} [LinearOrder κ] [LinearOrder τ]

theorem pairwise_fst {key : α → κ ×ₗ τ} {items : List α}
    (sorted : items.Pairwise fun first second => key first ≤ key second) :
    items.Pairwise fun first second => (ofLex (key first)).1 ≤ (ofLex (key second)).1 :=
  sorted.imp fun ordered => Prod.Lex.monotone_fst _ _ ordered

end Orders

/-- A cache and the repositories that a fresh answer has listed. -/
structure Listing (ρ ε : Type) where
  cache : String → Option ε
  listed : List ρ

def Listing.empty {ρ ε : Type} : Listing ρ ε where
  cache := fun _ => none
  listed := []

/-- Every key of the cache is that of a part of a fresh list. -/
def Known {ρ ε : Type} (key : ρ → String) (cache : String → Option ε) (listed : List ρ) : Prop :=
  ∀ k, (cache k).isSome → ∃ part ∈ listed, key part = k

variable {ρ ε : Type}

theorem known_nothing (key : ρ → String) : Known key (fun _ => none : String → Option ε) [] := by
  intro k found
  cases found

theorem Known.store {key : ρ → String} {cache : String → Option ε} {listed : List ρ}
    (known : Known key cache listed) (parts : List ρ) (entry : ρ → ε) :
    Known key (parts.foldl (fun cache part => Function.update cache (key part) (some (entry part)))
      cache) (listed ++ parts) := by
  intro k found
  rcases isSome_foldl_update found with ⟨part, isPart, isKey⟩ | before
  · exact ⟨part, mem_append_right _ isPart, isKey⟩
  obtain ⟨part, isListed, isKey⟩ := known k before
  exact ⟨part, mem_append_left _ isListed, isKey⟩

theorem Known.append {key : ρ → String} {cache : String → Option ε} {listed : List ρ}
    (known : Known key cache listed) (more : List ρ) : Known key cache (listed ++ more) := by
  intro k found
  obtain ⟨part, isListed, isKey⟩ := known k found
  exact ⟨part, mem_append_left _ isListed, isKey⟩

theorem Known.listed {key : ρ → String} {cache : String → Option ε} {listed : List ρ}
    (known : Known key cache listed) {part : ρ} (found : (cache (key part)).isSome)
    (alone : ∀ other ∈ listed, key other = key part → other = part) : part ∈ listed := by
  obtain ⟨other, isListed, isKey⟩ := known (key part) found
  exact alone other isListed isKey ▸ isListed

namespace Gitlab

theorem mem_trustedSet {ρ : Type} [LinearOrder ρ] {repositories : List ρ} {repository : ρ} :
    repository ∈ trustedSet repositories ↔ repository ∈ repositories.take maxTrustedRepositories := by
  rw [trustedSet, Finset.mem_sort, mem_toFinset]

theorem contract_state (error : Failure) :
    error.contract.1 ≠ .fresh ∧ error.contract.1 ≠ .stale := by
  rcases error with _ | _ | failure | _
  rotate_left 2
  · cases failure <;> exact ⟨(fun same => nomatch same), (fun same => nomatch same)⟩
  all_goals exact ⟨(fun same => nomatch same), (fun same => nomatch same)⟩

section MergeRequests

/-- The merge request is of the repository that owns the cache entry. -/
def keepsMergeRequest (repositories : List GitlabTrustedRepository)
    (repository : GitlabTrustedRepository) (mergeRequest : GitlabMergeRequest) : Bool :=
  mergeRequest.repositoryId = (owner cacheKey repositories repository).repositoryId

variable {repositories : List GitlabTrustedRepository}

theorem collectMergeRequests_sorted {parseUrl : String → Option Url} {answers : ListAnswers}
    {links : String → Option ℕ} {found : List GitlabMergeRequest}
    (isOk : collectMergeRequests parseUrl answers links repositories = .ok found) :
    (found.Pairwise fun left right => left.updateKey ≤ right.updateKey) ∧
      found.length ≤ maxMergeRequests := by
  rw [collectMergeRequests] at isOk
  split at isOk
  · cases isOk
  obtain ⟨_, _, isOk⟩ := bind_eq_ok.1 isOk
  obtain ⟨all, _, isOk⟩ := bind_eq_ok.1 isOk
  cases isOk
  refine ⟨?_, length_take_le _ _⟩
  have sorted := pairwise_insertionSort
    (fun left right : GitlabMergeRequest => left.sortKey ≤ right.sortKey) all
  exact pairwise_fst (sorted.sublist (take_sublist _ _))

theorem failure_state (cache : MergeRequestCache) (repositories : List GitlabTrustedRepository)
    (error : Failure) : (failure cache repositories error).state ≠ .fresh := by
  rw [failure]
  simp only
  split
  · exact fun same => nomatch same
  exact (contract_state error).1

theorem failure_store (cache : MergeRequestCache)
    (nonempty : repositories ≠ []) (found : List GitlabMergeRequest) (now : ℕ) (error : Failure) :
    let inbox := failure (storeMergeRequests repositories found now cache) repositories error
    inbox.state = .stale ∧ inbox.mergeRequests =
      ((gather (keepsMergeRequest repositories) repositories found).insertionSort
        fun left right => left.updateKey ≤ right.updateKey).take maxMergeRequests := by
  have complete : repositories.all (fun repository => (storeMergeRequests repositories found now cache
      (cacheKey repository)).isSome) = true := by
    rw [all_eq_true]
    intro repository member
    rw [storeMergeRequests, foldl_update_owner cacheKey _ member]
    rfl
  have fetched : ((repositories.filterMap fun repository => storeMergeRequests repositories found now
      cache (cacheKey repository)).map CacheEntry.fetchedAtUnixMs).min?.isSome = true := by
    apply isSome_min?_of_ne_nil
    rw [storeMergeRequests, filterMap_written]
    simpa using nonempty
  have gathered := flatMap_written cacheKey (fun repository => ({
    fetchedAtUnixMs := now
    mergeRequests := found.filter fun mergeRequest =>
      mergeRequest.repositoryId = repository.repositoryId } : CacheEntry)) repositories
    CacheEntry.mergeRequests (fun _ => rfl) cache
  rw [failure]
  simp only
  rw [complete, fetched]
  refine ⟨rfl, ?_⟩
  exact congrArg (fun items => (items.insertionSort fun left right : GitlabMergeRequest =>
    left.updateKey ≤ right.updateKey).take maxMergeRequests) gathered

/-- A list that fails after a fresh one gives the fresh list back if the entries regroup it, and below the
limit only then. -/
def MergeRequestsRepeat (parseUrl : String → Option Url) (answers later : ListAnswers)
    (repositories : List GitlabTrustedRepository) (links : String → Option ℕ)
    (cache : MergeRequestCache) : Prop :=
  let first := listWithLinks parseUrl answers repositories links cache
  let second := listWithLinks parseUrl later repositories links first.1
  first.2.state = .fresh → second.2.state ≠ .fresh →
    let regroups := Regroups GitlabMergeRequest.updateKey
      (keepsMergeRequest (trustedSet repositories)) (trustedSet repositories) first.2.mergeRequests
    let repeats := second.2.state = .stale ∧ second.2.mergeRequests = first.2.mergeRequests
    (regroups → repeats) ∧ (first.2.mergeRequests.length < maxMergeRequests → repeats → regroups)

theorem listWithLinks_repeats (parseUrl : String → Option Url) (answers later : ListAnswers)
    (repositories : List GitlabTrustedRepository) (links : String → Option ℕ)
    (cache : MergeRequestCache) :
    MergeRequestsRepeat parseUrl answers later repositories links cache := by
  unfold MergeRequestsRepeat
  intro first second isFresh notFresh
  by_cases none : trustedSet repositories = []
  · exact absurd (by simp only [second, listWithLinks, if_pos none]; rfl) notFresh
  rcases isFound : collectMergeRequests parseUrl answers links (trustedSet repositories) with
    error | found
  · refine absurd ?_ (failure_state cache (trustedSet repositories) error)
    simpa only [first, listWithLinks, if_neg none, isFound] using isFresh
  have isFirst : first = (storeMergeRequests (trustedSet repositories) found answers.now cache,
      inbox .fresh found (some answers.now) Option.none
        "GitLab returned merge requests for the managed branches.") := by
    simp only [first, listWithLinks, if_neg none, isFound]
  rcases failed : collectMergeRequests parseUrl later links (trustedSet repositories) with
    error | again
  · have isSecond : second.2 = failure first.1 (trustedSet repositories) error := by
      simp only [second, listWithLinks, if_neg none, failed]
    obtain ⟨sorted, short⟩ := collectMergeRequests_sorted isFound
    obtain ⟨isStale, isGathered⟩ := failure_store cache none found answers.now error
    obtain ⟨enough, needed⟩ := take_sort_gather GitlabMergeRequest.updateKey
      (keepsMergeRequest (trustedSet repositories)) (trustedSet repositories) short sorted
    simp only [isSecond, isFirst]
    exact ⟨fun regroups => ⟨isStale, isGathered.trans (enough regroups)⟩,
      fun shorter repeats => needed shorter (isGathered.symm.trans repeats.2)⟩
  exact absurd (by simp only [second, listWithLinks, if_neg none, failed]; rfl) notFresh

/-- A call of the inbox with the answers of the provider. -/
structure MergeRequestCall where
  answers : ListAnswers
  repositories : List GitlabTrustedRepository
  links : String → Option ℕ

def MergeRequestCall.list (parseUrl : String → Option Url) (call : MergeRequestCall)
    (cache : MergeRequestCache) : MergeRequestCache × GitlabMergeRequestInbox :=
  listWithLinks parseUrl call.answers call.repositories call.links cache

def MergeRequestCall.perform (parseUrl : String → Option Url) (call : MergeRequestCall)
    (listing : Listing GitlabTrustedRepository CacheEntry) :
    Listing GitlabTrustedRepository CacheEntry where
  cache := (call.list parseUrl listing.cache).1
  listed :=
    if (call.list parseUrl listing.cache).2.state = .fresh then
      listing.listed ++ trustedSet call.repositories
    else
      listing.listed

def MergeRequestCall.run (parseUrl : String → Option Url) (calls : List MergeRequestCall) :
    Listing GitlabTrustedRepository CacheEntry :=
  calls.foldl (fun listing call => call.perform parseUrl listing) Listing.empty

theorem MergeRequestCall.list_cases (parseUrl : String → Option Url) (call : MergeRequestCall)
    (cache : MergeRequestCache) : (call.list parseUrl cache).1 = cache ∨
      (call.list parseUrl cache).2.state = .fresh ∧ ∃ found, (call.list parseUrl cache).1 =
        storeMergeRequests (trustedSet call.repositories) found call.answers.now cache := by
  simp only [list, listWithLinks]
  split
  · exact .inl rfl
  split
  · exact .inl rfl
  rename_i found _
  exact .inr ⟨rfl, found, rfl⟩

theorem MergeRequestCall.perform_known (parseUrl : String → Option Url) (call : MergeRequestCall)
    {listing : Listing GitlabTrustedRepository CacheEntry}
    (known : Known cacheKey listing.cache listing.listed) :
    Known cacheKey (call.perform parseUrl listing).cache (call.perform parseUrl listing).listed := by
  rw [perform]
  rcases call.list_cases parseUrl listing.cache with unchanged | ⟨isFresh, found, stored⟩
  · simp only [unchanged]
    split
    · exact known.append _
    exact known
  simp only [if_pos isFresh, stored]
  exact known.store _ _

theorem failure_stale {cache : MergeRequestCache}
    {error : Failure} (isStale : (failure cache repositories error).state = .stale) :
    ∀ repository ∈ repositories, (cache (cacheKey repository)).isSome := by
  rw [failure] at isStale
  simp only at isStale
  split at isStale
  · rename_i complete
    rw [Bool.and_eq_true, all_eq_true] at complete
    exact complete.1
  exact absurd isStale (contract_state error).2

/-- A stale list is returned only after a fresh list of each of its repositories, if no listed repository
has the cache key of another one. -/
def MergeRequestsComplete (parseUrl : String → Option Url) (calls : List MergeRequestCall)
    (call : MergeRequestCall) : Prop :=
  let listing := MergeRequestCall.run parseUrl calls
  (call.list parseUrl listing.cache).2.state = .stale →
    (∀ repository ∈ trustedSet call.repositories, ∀ other ∈ listing.listed,
      cacheKey other = cacheKey repository → other = repository) →
    ∀ repository ∈ trustedSet call.repositories, repository ∈ listing.listed

theorem listWithLinks_complete (parseUrl : String → Option Url) (calls : List MergeRequestCall)
    (call : MergeRequestCall) : MergeRequestsComplete parseUrl calls call := by
  unfold MergeRequestsComplete
  intro listing isStale alone repository member
  have known : Known cacheKey listing.cache listing.listed :=
    List.foldlRecOn (motive := fun listing : Listing GitlabTrustedRepository CacheEntry =>
      Known cacheKey listing.cache listing.listed) calls _ (known_nothing _)
      fun _ known call _ => call.perform_known parseUrl known
  refine known.listed ?_ (alone repository member)
  simp only [MergeRequestCall.list, listWithLinks] at isStale
  split at isStale
  · cases isStale
  split at isStale
  · exact failure_stale isStale repository member
  cases isStale

end MergeRequests

/-! ### Reviews -/

section Reviews

def keepsReview (repositories : List GitlabReviewTrustedRepository) (targets : ReviewTargets)
    (host : String) (review : GitlabReview) : Bool :=
  belongsTo repositories targets (owner reviewCacheKey (reviewHosts repositories) host) review

theorem freshReviews_sorted (collected : List (GitlabReview × String)) :
    ((freshReviews collected).Pairwise fun left right => left.updateKey ≤ right.updateKey) ∧
      (freshReviews collected).length ≤ maxMergeRequests := by
  refine ⟨?_, length_take_le _ _⟩
  have sorted := pairwise_insertionSort
    (fun left right : GitlabReview => left.sortKey ≤ right.sortKey) (collected.map Prod.fst)
  exact pairwise_fst (sorted.sublist (take_sublist _ _))

theorem reviewFailure_state (cache : ReviewCache)
    (repositories : List GitlabReviewTrustedRepository) (error : Failure) :
    (reviewFailure cache repositories error).state ≠ .fresh := by
  rw [reviewFailure]
  simp only
  split
  · intro same
    cases same
  exact (contract_state error).1

variable {repositories : List GitlabReviewTrustedRepository}

theorem reviewHosts_nonempty (nonempty : repositories ≠ []) : reviewHosts repositories ≠ [] := by
  obtain ⟨repository, member⟩ := exists_mem_of_ne_nil _ nonempty
  apply ne_nil_of_mem (a := repository.host)
  rw [reviewHosts, hostSet, Finset.mem_sort, mem_toFinset]
  exact mem_map.2 ⟨repository, member, rfl⟩

theorem reviewFailure_store (cache : ReviewCache) (nonempty : repositories ≠ [])
    (targets : ReviewTargets) (found : List GitlabReview) (now : ℕ) (error : Failure) :
    let inbox := reviewFailure (storeReviews repositories targets found now cache) repositories error
    inbox.state = .stale ∧ inbox.reviews =
      ((gather (keepsReview repositories targets) (reviewHosts repositories) found).insertionSort
        fun left right => left.updateKey ≤ right.updateKey).take maxMergeRequests := by
  have complete : (reviewHosts repositories).all (fun host => (storeReviews repositories targets found
      now cache (reviewCacheKey host)).isSome) = true := by
    rw [all_eq_true]
    intro host member
    rw [storeReviews, foldl_update_owner reviewCacheKey _ member]
    rfl
  have fetched : (((reviewHosts repositories).filterMap fun host => storeReviews repositories targets
      found now cache (reviewCacheKey host)).map ReviewCacheEntry.fetchedAtUnixMs).min?.isSome =
        true := by
    apply isSome_min?_of_ne_nil
    rw [storeReviews, filterMap_written]
    simpa using reviewHosts_nonempty nonempty
  have gathered := flatMap_written reviewCacheKey (fun host => ({
    fetchedAtUnixMs := now
    reviews := found.filter (belongsTo repositories targets host) } : ReviewCacheEntry))
    (reviewHosts repositories) ReviewCacheEntry.reviews (fun _ => rfl) cache
  rw [reviewFailure]
  simp only
  rw [complete, fetched]
  refine ⟨rfl, ?_⟩
  exact congrArg (fun items => (items.insertionSort fun left right : GitlabReview =>
    left.updateKey ≤ right.updateKey).take maxMergeRequests) gathered

/-- A list that fails after a fresh one gives the fresh list back if the entries regroup it, and below the
limit only then. -/
def ReviewsRepeat (parseUrl : String → Option Url) (answers later : ReviewAnswers)
    (repositories : List GitlabReviewTrustedRepository) (adapter : Adapter) : Prop :=
  let first := listReviews parseUrl answers repositories adapter
  let second := listReviews parseUrl later repositories first.1
  first.2.state = .fresh → second.2.state ≠ .fresh →
    let regroups := Regroups GitlabReview.updateKey
      (keepsReview (trustedSet repositories) first.1.reviewTargets)
      (reviewHosts (trustedSet repositories)) first.2.reviews
    let repeats := second.2.state = .stale ∧ second.2.reviews = first.2.reviews
    (regroups → repeats) ∧ (first.2.reviews.length < maxMergeRequests → repeats → regroups)

theorem listReviews_repeats (parseUrl : String → Option Url) (answers later : ReviewAnswers)
    (repositories : List GitlabReviewTrustedRepository) (adapter : Adapter) :
    ReviewsRepeat parseUrl answers later repositories adapter := by
  unfold ReviewsRepeat
  intro first second isFresh notFresh
  by_cases none : trustedSet repositories = []
  · exact absurd (by simp only [second, listReviews, if_pos none]; rfl) notFresh
  rcases isFound : collectReviews parseUrl answers (trustedSet repositories) with error | collected
  · refine absurd ?_ (reviewFailure_state adapter.reviewCache (trustedSet repositories) error)
    simpa only [first, listReviews, if_neg none, isFound] using isFresh
  have isFirst : first.1.reviewCache = storeReviews (trustedSet repositories)
        (collectedTargets collected) (freshReviews collected) answers.now adapter.reviewCache ∧
      first.1.reviewTargets = collectedTargets collected ∧
      first.2.reviews = freshReviews collected := by
    simp only [first, listReviews, if_neg none, isFound]
    exact ⟨trivial, trivial, rfl⟩
  obtain ⟨isCache, isTargets, isReviews⟩ := isFirst
  rcases failed : collectReviews parseUrl later (trustedSet repositories) with error | again
  · have isSecond : second.2 =
        reviewFailure first.1.reviewCache (trustedSet repositories) error := by
      simp only [second, listReviews, if_neg none, failed]
    obtain ⟨sorted, short⟩ := freshReviews_sorted collected
    obtain ⟨isStale, isGathered⟩ := reviewFailure_store adapter.reviewCache none
      (collectedTargets collected) (freshReviews collected) answers.now error
    obtain ⟨enough, needed⟩ := take_sort_gather GitlabReview.updateKey
      (keepsReview (trustedSet repositories) (collectedTargets collected))
      (reviewHosts (trustedSet repositories)) short sorted
    simp only [isSecond, isCache, isTargets, isReviews]
    exact ⟨fun regroups => ⟨isStale, isGathered.trans (enough regroups)⟩,
      fun shorter repeats => needed shorter (isGathered.symm.trans repeats.2)⟩
  exact absurd (by simp only [second, listReviews, if_neg none, failed]; rfl) notFresh

/-- An adapter and the hosts whose reviews it has listed. -/
structure HostListing where
  adapter : Adapter
  listed : List String

def HostListing.perform (parseUrl : String → Option Url) (jsonLength : SavedReviewPatchCache → ℕ)
    (call : ReviewCall) (listing : HostListing) : HostListing where
  adapter := call.after parseUrl jsonLength listing.adapter
  listed :=
    match call with
    | .list answers repositories =>
      if (listReviews parseUrl answers repositories listing.adapter).2.state = .fresh then
        listing.listed ++ reviewHosts (trustedSet repositories)
      else
        listing.listed
    | _ => listing.listed

def HostListing.run (parseUrl : String → Option Url) (jsonLength : SavedReviewPatchCache → ℕ)
    (calls : List ReviewCall) (listing : HostListing) : HostListing :=
  calls.foldl (fun listing call => listing.perform parseUrl jsonLength call) listing

theorem listReviews_cases (parseUrl : String → Option Url) (answers : ReviewAnswers)
    (repositories : List GitlabReviewTrustedRepository) (adapter : Adapter) :
    (listReviews parseUrl answers repositories adapter).1.reviewCache = adapter.reviewCache ∨
      (listReviews parseUrl answers repositories adapter).2.state = .fresh ∧ ∃ targets found,
        (listReviews parseUrl answers repositories adapter).1.reviewCache =
          storeReviews (trustedSet repositories) targets found answers.now adapter.reviewCache := by
  simp only [listReviews]
  split
  · exact .inl rfl
  split
  · exact .inl rfl
  rename_i collected _
  exact .inr ⟨rfl, collectedTargets collected, freshReviews collected, rfl⟩

theorem HostListing.perform_known (parseUrl : String → Option Url)
    (jsonLength : SavedReviewPatchCache → ℕ) (call : ReviewCall) {listing : HostListing}
    (known : Known reviewCacheKey listing.adapter.reviewCache listing.listed) :
    Known reviewCacheKey (listing.perform parseUrl jsonLength call).adapter.reviewCache
      (listing.perform parseUrl jsonLength call).listed := by
  have unchanged : (∀ answers repositories, call ≠ .list answers repositories) →
      Known reviewCacheKey (call.after parseUrl jsonLength listing.adapter).reviewCache
        listing.listed := by
    intro notList
    rw [after_reviewCache parseUrl jsonLength notList listing.adapter]
    exact known
  cases call with
  | list answers repositories =>
    simp only [perform, ReviewCall.after]
    rcases listReviews_cases parseUrl answers repositories listing.adapter with
      same | ⟨isFresh, targets, found, stored⟩
    · rw [same]
      split
      · exact known.append _
      exact known
    rw [if_pos isFresh, stored]
    exact known.store _ _
  | remember repository iid => exact unchanged (fun _ _ same => by cases same)
  | patch provider repositoryId iid commitOid refresh => exact unchanged (fun _ _ same => by cases same)
  | patchForOrigin provider repositoryId iid origin commitOid refresh => exact unchanged (fun _ _ same => by cases same)
  | comment provider repositoryId iid request => exact unchanged (fun _ _ same => by cases same)
  | commentForOrigin provider repositoryId iid origin request => exact unchanged (fun _ _ same => by cases same)

/-- A stale list is returned only after a fresh list of each of its hosts, if no listed host has the
cache key of another one. -/
def ReviewsComplete (parseUrl : String → Option Url)
    (jsonLength : SavedReviewPatchCache → ℕ) (savesPatches : Bool) (file : Option CacheFile)
    (calls : List ReviewCall) (answers : ReviewAnswers)
    (repositories : List GitlabReviewTrustedRepository) : Prop :=
  let listing := HostListing.run parseUrl jsonLength calls {
    adapter := Adapter.new savesPatches file
    listed := [] }
  (listReviews parseUrl answers repositories listing.adapter).2.state = .stale →
    (∀ host ∈ reviewHosts (trustedSet repositories), ∀ other ∈ listing.listed,
      reviewCacheKey other = reviewCacheKey host → other = host) →
    ∀ host ∈ reviewHosts (trustedSet repositories), host ∈ listing.listed

theorem listReviews_complete (parseUrl : String → Option Url)
    (jsonLength : SavedReviewPatchCache → ℕ) (savesPatches : Bool) (file : Option CacheFile)
    (calls : List ReviewCall) (answers : ReviewAnswers)
    (repositories : List GitlabReviewTrustedRepository) :
    ReviewsComplete parseUrl jsonLength savesPatches file calls answers repositories := by
  unfold ReviewsComplete
  intro listing isStale alone host member
  have known : Known reviewCacheKey listing.adapter.reviewCache listing.listed :=
    List.foldlRecOn (motive := fun listing : HostListing =>
      Known reviewCacheKey listing.adapter.reviewCache listing.listed) calls _ (known_nothing _)
      fun _ known call _ => HostListing.perform_known parseUrl jsonLength call known
  refine known.listed ?_ (alone host member)
  simp only [listReviews] at isStale
  split at isStale
  · cases isStale
  split at isStale
  · rename_i error _
    rw [reviewFailure] at isStale
    simp only at isStale
    split at isStale
    · rename_i complete
      rw [Bool.and_eq_true, all_eq_true] at complete
      exact complete.1 host member
    exact absurd isStale (contract_state error).2
  cases isStale

end Reviews

end Gitlab

namespace Github

/-! ### Reviews of GitHub -/

def keepsReview (repositories : List GithubTrustedRepository) (repository : GithubTrustedRepository)
    (review : GithubReview) : Bool :=
  Gitlab.eqIgnoreAsciiCase review.repository (owner cacheKey repositories repository).nameWithOwner

variable {repositories : List GithubTrustedRepository}

theorem collectReviews_sorted {parseUrl : String → Option Gitlab.Url} {urlText : Gitlab.Url → String}
    {answers : ListAnswers} {found : List GithubReview}
    (isOk : collectReviews parseUrl urlText answers repositories = .ok found) :
    (found.Pairwise fun left right => left.updateKey ≤ right.updateKey) ∧
      found.length ≤ maxReviews := by
  rw [collectReviews] at isOk
  split at isOk
  · cases isOk
  split at isOk
  · split at isOk
    · cases isOk
    · obtain ⟨all, _, isOk⟩ := bind_eq_ok.1 isOk
      cases isOk
      refine ⟨?_, length_take_le _ _⟩
      have sorted := pairwise_insertionSort
        (fun left right : GithubReview => left.sortKey ≤ right.sortKey) all
      exact pairwise_fst (sorted.sublist (take_sublist _ _))
  cases isOk

theorem contract_state (error : Failure) :
    error.contract.1 ≠ .fresh ∧ error.contract.1 ≠ .stale := by
  rcases error with _ | _ | failure | _
  rotate_left 2
  · cases failure <;> exact ⟨(fun same => nomatch same), (fun same => nomatch same)⟩
  all_goals exact ⟨(fun same => nomatch same), (fun same => nomatch same)⟩

theorem failure_state (cache : ReviewCache) (repositories : List GithubTrustedRepository)
    (error : Failure) : (failure cache repositories error).state ≠ .fresh := by
  rw [failure]
  simp only
  split
  · exact fun same => nomatch same
  exact (contract_state error).1

theorem failure_store (cache : ReviewCache)
    (nonempty : repositories ≠ []) (found : List GithubReview) (now : ℕ) (error : Failure) :
    let inbox := failure (storeReviews repositories found now cache) repositories error
    inbox.state = .stale ∧ inbox.reviews =
      ((gather (keepsReview repositories) repositories found).insertionSort
        fun left right => left.updateKey ≤ right.updateKey).take maxReviews := by
  have fetched : ((repositories.filterMap fun repository => storeReviews repositories found now
      cache (cacheKey repository)).map CacheEntry.fetchedAtUnixMs).min?.isSome = true := by
    apply isSome_min?_of_ne_nil
    rw [storeReviews, filterMap_written]
    simpa using nonempty
  have gathered := flatMap_written cacheKey (fun repository => ({
    fetchedAtUnixMs := now
    reviews := found.filter fun review =>
      Gitlab.eqIgnoreAsciiCase review.repository repository.nameWithOwner } : CacheEntry))
    repositories CacheEntry.reviews (fun _ => rfl) cache
  rw [failure]
  simp only
  rw [fetched]
  refine ⟨rfl, ?_⟩
  exact congrArg (fun items => (items.insertionSort fun left right : GithubReview =>
    left.updateKey ≤ right.updateKey).take maxReviews) gathered

/-- A list that fails after a fresh one gives the fresh list back if the entries regroup it, and below the
limit only then. -/
def ListsRepeat (parseUrl : String → Option Gitlab.Url) (urlText : Gitlab.Url → String)
    (answers later : ListAnswers) (repositories : List GithubTrustedRepository)
    (cache : ReviewCache) : Prop :=
  let first := list parseUrl urlText answers repositories cache
  let second := list parseUrl urlText later repositories first.1
  first.2.state = .fresh → second.2.state ≠ .fresh →
    let regroups := Regroups GithubReview.updateKey (keepsReview (Gitlab.trustedSet repositories))
      (Gitlab.trustedSet repositories) first.2.reviews
    let repeats := second.2.state = .stale ∧ second.2.reviews = first.2.reviews
    (regroups → repeats) ∧ (first.2.reviews.length < maxReviews → repeats → regroups)

theorem list_repeats (parseUrl : String → Option Gitlab.Url) (urlText : Gitlab.Url → String)
    (answers later : ListAnswers) (repositories : List GithubTrustedRepository)
    (cache : ReviewCache) : ListsRepeat parseUrl urlText answers later repositories cache := by
  unfold ListsRepeat
  intro first second isFresh notFresh
  by_cases none : Gitlab.trustedSet repositories = []
  · exact absurd (by simp only [second, list, if_pos none]; rfl) notFresh
  rcases isFound : collectReviews parseUrl urlText answers (Gitlab.trustedSet repositories) with
    error | found
  · refine absurd ?_ (failure_state cache (Gitlab.trustedSet repositories) error)
    simpa only [first, list, if_neg none, isFound] using isFresh
  have isFirst : first = (storeReviews (Gitlab.trustedSet repositories) found answers.now cache,
      inbox .fresh found (some answers.now) Option.none
        "GitHub returned the current individual review requests.") := by
    simp only [first, list, if_neg none, isFound]
  rcases failed : collectReviews parseUrl urlText later (Gitlab.trustedSet repositories) with
    error | again
  · have isSecond : second.2 = failure first.1 (Gitlab.trustedSet repositories) error := by
      simp only [second, list, if_neg none, failed]
    obtain ⟨sorted, short⟩ := collectReviews_sorted isFound
    obtain ⟨isStale, isGathered⟩ := failure_store cache none found answers.now error
    obtain ⟨enough, needed⟩ := take_sort_gather GithubReview.updateKey
      (keepsReview (Gitlab.trustedSet repositories)) (Gitlab.trustedSet repositories) short sorted
    simp only [isSecond, isFirst]
    exact ⟨fun regroups => ⟨isStale, isGathered.trans (enough regroups)⟩,
      fun shorter repeats => needed shorter (isGathered.symm.trans repeats.2)⟩
  exact absurd (by simp only [second, list, if_neg none, failed]; rfl) notFresh

/-- A call of the inbox with the answers of the provider. -/
structure ListCall where
  answers : ListAnswers
  repositories : List GithubTrustedRepository

section Runs

variable (parseUrl : String → Option Gitlab.Url) (urlText : Gitlab.Url → String)

def ListCall.list (call : ListCall) (cache : ReviewCache) : ReviewCache × GithubReviewInbox :=
  Github.list parseUrl urlText call.answers call.repositories cache

def ListCall.perform (call : ListCall) (listing : Listing GithubTrustedRepository CacheEntry) :
    Listing GithubTrustedRepository CacheEntry where
  cache := (call.list parseUrl urlText listing.cache).1
  listed :=
    if (call.list parseUrl urlText listing.cache).2.state = .fresh then
      listing.listed ++ Gitlab.trustedSet call.repositories
    else
      listing.listed

def ListCall.run (calls : List ListCall) : Listing GithubTrustedRepository CacheEntry :=
  calls.foldl (fun listing call => call.perform parseUrl urlText listing) Listing.empty

theorem ListCall.list_cases (call : ListCall) (cache : ReviewCache) :
    (call.list parseUrl urlText cache).1 = cache ∨
      (call.list parseUrl urlText cache).2.state = .fresh ∧ ∃ found,
        (call.list parseUrl urlText cache).1 =
          storeReviews (Gitlab.trustedSet call.repositories) found call.answers.now cache := by
  simp only [list, Github.list]
  split
  · exact .inl rfl
  split
  · exact .inl rfl
  rename_i found _
  exact .inr ⟨rfl, found, rfl⟩

theorem ListCall.perform_known (call : ListCall)
    {listing : Listing GithubTrustedRepository CacheEntry}
    (known : Known cacheKey listing.cache listing.listed) :
    Known cacheKey (call.perform parseUrl urlText listing).cache
      (call.perform parseUrl urlText listing).listed := by
  rw [perform]
  rcases call.list_cases parseUrl urlText listing.cache with unchanged | ⟨isFresh, found, stored⟩
  · simp only [unchanged]
    split
    · exact known.append _
    exact known
  simp only [if_pos isFresh, stored]
  exact known.store _ _

theorem failure_stale_iff {cache : ReviewCache} {repositories : List GithubTrustedRepository}
    {error : Failure} : (failure cache repositories error).state = .stale ↔
      ∃ repository ∈ repositories, (cache (cacheKey repository)).isSome := by
  have fetched : ((repositories.filterMap fun repository => cache (cacheKey repository)).map
      CacheEntry.fetchedAtUnixMs).min?.isSome ↔
        ∃ repository ∈ repositories, (cache (cacheKey repository)).isSome := by
    rw [isSome_min?_iff, ne_eq, map_eq_nil_iff, filterMap_eq_nil_iff]
    simp [Option.isSome_iff_ne_none]
  rw [← fetched, failure]
  simp only
  split
  · rename_i isSome
    exact ⟨fun _ => isSome, fun _ => rfl⟩
  rename_i notSome
  exact ⟨fun isStale => absurd isStale (contract_state error).2, fun isSome => absurd isSome notSome⟩

/-- A stale list is returned only after a fresh list of each of its repositories, if no listed repository
has the cache key of another one, and either all of them have an entry or none. -/
def ListsComplete (calls : List ListCall) (call : ListCall) : Prop :=
  let listing := ListCall.run parseUrl urlText calls
  (call.list parseUrl urlText listing.cache).2.state = .stale →
    (∀ repository ∈ Gitlab.trustedSet call.repositories, ∀ other ∈ listing.listed,
      cacheKey other = cacheKey repository → other = repository) →
    (∀ repository ∈ Gitlab.trustedSet call.repositories,
      ∀ other ∈ Gitlab.trustedSet call.repositories, (listing.cache (cacheKey other)).isSome →
        (listing.cache (cacheKey repository)).isSome) →
    ∀ repository ∈ Gitlab.trustedSet call.repositories, repository ∈ listing.listed

theorem list_complete (calls : List ListCall) (call : ListCall) :
    ListsComplete parseUrl urlText calls call := by
  unfold ListsComplete
  intro listing isStale alone together repository member
  have known : Known cacheKey listing.cache listing.listed :=
    List.foldlRecOn (motive := fun listing : Listing GithubTrustedRepository CacheEntry =>
      Known cacheKey listing.cache listing.listed) calls _ (known_nothing _)
      fun _ known call _ => call.perform_known parseUrl urlText known
  refine known.listed ?_ (alone repository member)
  simp only [ListCall.list, list] at isStale
  split at isStale
  · cases isStale
  split at isStale
  · obtain ⟨other, isOther, found⟩ := failure_stale_iff.1 isStale
    exact together repository member other isOther found
  cases isStale

end Runs

end Github

/-- What holds of the inbox that stands in for a failed list, in each of the three lists. -/
structure StaleInboxes (parseUrl : String → Option Gitlab.Url) (urlText : Gitlab.Url → String)
    (jsonLength : Gitlab.SavedReviewPatchCache → ℕ) : Prop where
  mergeRequestsRepeat : ∀ answers later repositories links cache,
    Gitlab.MergeRequestsRepeat parseUrl answers later repositories links cache
  mergeRequestsComplete : ∀ calls call, Gitlab.MergeRequestsComplete parseUrl calls call
  reviewsRepeat : ∀ answers later repositories adapter,
    Gitlab.ReviewsRepeat parseUrl answers later repositories adapter
  reviewsComplete : ∀ savesPatches file calls answers repositories,
    Gitlab.ReviewsComplete parseUrl jsonLength savesPatches file calls answers repositories
  githubRepeat : ∀ answers later repositories cache,
    Github.ListsRepeat parseUrl urlText answers later repositories cache
  githubComplete : ∀ calls call, Github.ListsComplete parseUrl urlText calls call

/-- What a stale inbox shows, after any run of calls, in each of the three inboxes. -/
theorem stale_inboxes (parseUrl : String → Option Gitlab.Url) (urlText : Gitlab.Url → String)
    (jsonLength : Gitlab.SavedReviewPatchCache → ℕ) : StaleInboxes parseUrl urlText jsonLength where
  mergeRequestsRepeat := Gitlab.listWithLinks_repeats parseUrl
  mergeRequestsComplete := Gitlab.listWithLinks_complete parseUrl
  reviewsRepeat := Gitlab.listReviews_repeats parseUrl
  reviewsComplete := Gitlab.listReviews_complete parseUrl jsonLength
  githubRepeat := Github.list_repeats parseUrl urlText
  githubComplete := Github.list_complete parseUrl urlText

def sampleRepository (name : String) : Github.GithubTrustedRepository where
  repositoryId := name
  host := "github.com"
  nameWithOwner := name

def sampleCall (executable : Bool) (names : List String) : Github.ListCall where
  answers := {
    executable := executable
    authenticated := true
    query := .ok (some (some { viewer := "me", nodes := [] }))
    now := 0 }
  repositories := names.map sampleRepository

/-- One repository is listed with success, then two of them while the provider's command is missing: the
inbox is stale, and the second repository never had a list. -/
theorem partial_stale_counterexample :
    ¬ ∀ (parseUrl : String → Option Gitlab.Url) (urlText : Gitlab.Url → String)
      (calls : List Github.ListCall) (call : Github.ListCall),
      (call.list parseUrl urlText (Github.ListCall.run parseUrl urlText calls).cache).2.state = .stale →
        ∀ repository ∈ Gitlab.trustedSet call.repositories,
          repository ∈ (Github.ListCall.run parseUrl urlText calls).listed := by
  intro claim
  let listing := Github.ListCall.run (fun _ => none) (fun _ => "") [sampleCall true ["acme/api"]]
  have listed : listing.listed = [sampleRepository "acme/api"] := by decide +kernel
  have found : (listing.cache (Github.cacheKey (sampleRepository "acme/api"))).isSome := by
    decide +kernel
  have isApi : sampleRepository "acme/api" ∈
      Gitlab.trustedSet [sampleRepository "acme/api", sampleRepository "acme/web"] :=
    Gitlab.mem_trustedSet.2 mem_cons_self
  have isWeb : sampleRepository "acme/web" ∈
      Gitlab.trustedSet [sampleRepository "acme/api", sampleRepository "acme/web"] :=
    Gitlab.mem_trustedSet.2 (mem_cons_of_mem _ mem_cons_self)
  have isStale : ((sampleCall false ["acme/api", "acme/web"]).list (fun _ => none) (fun _ => "")
      listing.cache).2.state = .stale := by
    change (Github.list _ _ _ [sampleRepository "acme/api", sampleRepository "acme/web"] _).2.state = _
    rw [Github.list, if_neg (ne_nil_of_mem isApi)]
    exact Github.failure_stale_iff.2 ⟨_, isApi, found⟩
  have isListed := claim (fun _ => none) (fun _ => "") [sampleCall true ["acme/api"]]
    (sampleCall false ["acme/api", "acme/web"]) isStale _ isWeb
  change sampleRepository "acme/web" ∈ listing.listed at isListed
  rw [listed, mem_singleton] at isListed
  exact absurd isListed (by decide)

end Wts
