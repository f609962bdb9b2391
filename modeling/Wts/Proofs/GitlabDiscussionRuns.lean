/-
Module: Wts.Proofs.GitlabDiscussionRuns
Purpose: Reads of discussions, replies and comments in any interleaving.
Trusted boundary: none
Main exports: reads_own_writes
-/
import Wts.Proofs.GitlabDiscussions

namespace Wts.Gitlab

open Text DiscussionCache Function List

variable {list : GitlabDiscussions}

theorem getElem?_of_evict {rounds : ℕ} {entries : DiscussionEntries} {key : DiscussionKey}
    (isEntry : (evict rounds entries)[key]? = some list) : entries[key]? = some list := by
  induction rounds generalizing entries with
  | zero => exact isEntry
  | succ rounds ih =>
    rw [evict] at isEntry
    split at isEntry
    · split at isEntry
      · exact isEntry
      · have erased := ih isEntry
        rw [Std.TreeMap.getElem?_erase] at erased
        split at erased
        · cases erased
        exact erased
    exact isEntry

variable {cache : DiscussionCache}

theorem getElem?_of_store {generation : UInt64} {key other : DiscussionKey}
    {result : GitlabDiscussions}
    (isEntry : (cache.store generation key result).entries[other]? = some list) :
    cache.generation = generation ∧ other = key ∧ list = result ∨
      (cache.generation = generation → other ≠ key) ∧ cache.entries[other]? = some list := by
  rw [store] at isEntry
  split at isEntry
  · rename_i changed
    exact .inr ⟨fun same => absurd same changed, isEntry⟩
  rename_i same
  rw [not_not] at same
  have inserted := getElem?_of_evict isEntry
  rw [Std.TreeMap.getElem?_insert] at inserted
  split at inserted
  · rename_i isKey
    cases inserted
    exact .inl ⟨same, (compare_eq_iff_eq.1 isKey).symm, rfl⟩
  rename_i isOther
  refine .inr ⟨fun _ isKey => isOther ?_, inserted⟩
  rw [isKey, compare_eq_iff_eq]

theorem store_generation (generation : UInt64) (key : DiscussionKey) (result : GitlabDiscussions)
    (cache : DiscussionCache) : (cache.store generation key result).generation = cache.generation := by
  rw [store]
  split <;> rfl

theorem getElem?_of_invalidate {scope : String} {key : DiscussionKey}
    (isEntry : (cache.invalidate scope).entries[key]? = some list) :
    key.scopeId ≠ scope ∧ cache.entries[key]? = some list := by
  rw [invalidate, Std.TreeMap.getElem?_filter', Option.filter_eq_some_iff,
    decide_eq_true_eq] at isEntry
  exact ⟨isEntry.2, isEntry.1⟩

/-- Pages of discussions and when they were read. -/
structure PagesRead where
  pages : DiscussionPages
  time : ℕ

/-- A started get_discussions, with the pages once they are read. -/
structure GetCall where
  context : DiscussionContext
  repositoryId : String
  iid : ℕ
  generation : UInt64
  invalidations : ℕ
  read : Option PagesRead

/-- A reply that was posted, before the cache is invalidated. -/
structure ReplyCall where
  context : DiscussionContext
  request : ReplyRequest
  posted : Answer ReviewDiscussionNoteNode
  time : ℕ

/-- A write that the provider took, and when. -/
structure Written where
  place : MergeRequestPlace
  time : ℕ

/-- A comment that was posted, before its call returns. -/
structure CommentCall where
  written : Written
  accepted : Bool

def ReplyCall.scope (call : ReplyCall) : DiscussionScope :=
  call.context.scope call.request.iid

def ReplyCall.written (call : ReplyCall) : Written where
  place := call.scope.place
  time := call.time

section Runs

variable (parseUrl : String → Option Url) (jsonLength : SavedReviewPatchCache → ℕ)
  (scopeId : DiscussionScope → String)

def GetCall.place (call : GetCall) : MergeRequestPlace :=
  call.context.place call.iid

def GetCall.key (call : GetCall) : DiscussionKey :=
  discussionKey scopeId call.context call.repositoryId call.iid

def GetCall.finish (call : GetCall) (read : PagesRead) (now : ℕ) (cache : DiscussionCache) :
    DiscussionCache × Except String GitlabDiscussions :=
  finishDiscussions scopeId call.context call.repositoryId call.iid call.generation read.pages now
    cache

/-- The answer is good and no reply has raised the generation since the start. -/
def GetCall.stores (call : GetCall) (read : PagesRead) (cache : DiscussionCache) : Bool :=
  cache.generation = call.generation && (fetchDiscussions read.pages).toBool

/-! ### The adapter and its calls -/

structure World where
  cache : DiscussionCache
  gets : ℕ → Option GetCall
  replies : ℕ → Option ReplyCall
  comments : ℕ → Option CommentCall
  clock : ℕ
  invalidations : ℕ
  reads : DiscussionKey → PagesRead
  accepted : List Written

def World.empty : World where
  cache := DiscussionCache.empty
  gets := fun _ => none
  replies := fun _ => none
  comments := fun _ => none
  clock := 0
  invalidations := 0
  reads := fun _ => { pages := fun _ => .ok none, time := 0 }
  accepted := []

/-- The call notes the generation of the cache. -/
def World.started (id : ℕ) (context : DiscussionContext) (repositoryId : String) (iid : ℕ)
    (world : World) : World :=
  { world with
    gets := Function.update world.gets id (some {
      context := context
      repositoryId := repositoryId
      iid := iid
      generation := world.cache.generation
      invalidations := world.invalidations
      read := none }) }

/-- The pages are read. -/
def World.fetched (id : ℕ) (call : GetCall) (pages : DiscussionPages) (world : World) : World :=
  { world with
    gets := Function.update world.gets id
      (some { call with read := some { pages := pages, time := world.clock } })
    clock := world.clock + 1 }

/-- The list is stored, unless the generation has moved. -/
def World.finished (id : ℕ) (call : GetCall) (read : PagesRead) (now : ℕ) (world : World) : World :=
  { world with
    cache := (call.finish scopeId read now world.cache).1
    gets := Function.update world.gets id none
    reads :=
      if call.stores read world.cache then Function.update world.reads (call.key scopeId) read
      else world.reads }

/-- The reply reaches the provider. -/
def World.replied (id : ℕ) (context : DiscussionContext) (request : ReplyRequest)
    (posted : Answer ReviewDiscussionNoteNode) (world : World) : World :=
  { world with
    replies := Function.update world.replies id
      (some { context := context, request := request, posted := posted, time := world.clock })
    clock := world.clock + 1 }

/-- The lists of the reply's scope leave the cache. -/
def World.invalidated (id : ℕ) (call : ReplyCall) (world : World) : World :=
  { world with
    cache := world.cache.invalidate (scopeId call.scope)
    replies := Function.update world.replies id none
    invalidations := world.invalidations + 1
    accepted :=
      match replyResult call.context call.request call.posted with
      | .ok _ => call.written :: world.accepted
      | .error _ => world.accepted }

/-- The comment reaches the provider. -/
def World.published (id : ℕ) (place : MergeRequestPlace) (accepted : Bool) (world : World) : World :=
  { world with
    comments := Function.update world.comments id
      (some { written := { place := place, time := world.clock }, accepted := accepted })
    clock := world.clock + 1 }

/-- The call returns. -/
def World.reported (id : ℕ) (call : CommentCall) (world : World) : World :=
  { world with
    comments := Function.update world.comments id none
    accepted := if call.accepted then call.written :: world.accepted else world.accepted }

/-- The steps of the calls. -/
inductive Event where
  | getStart (id : ℕ) (answers : ContextAnswers) (adapter : Adapter) (repositoryId : String) (iid : ℕ)
      (workspaceRepository : Option GitlabTrustedRepository)
  | getRead (id : ℕ) (pages : DiscussionPages)
  | getStore (id now : ℕ)
  | replyWrite (id : ℕ) (answers : ContextAnswers)
      (thread : MergeRequestPlace → Answer ReviewDiscussionNode) (adapter : Adapter)
      (request : ReplyRequest) (posted : Answer ReviewDiscussionNoteNode)
  | replyCache (id : ℕ)
  | publishWrite (id : ℕ) (provider : CommentProvider) (repositoryId : String) (iid : ℕ)
      (host projectPath : String) (request : GitlabReviewCommentRequest)
      (verified : Option GitlabReviewPatch) (adapter : Adapter)
  | publishCache (id : ℕ)

def CommentPost.place (post : CommentPost) : MergeRequestPlace where
  host := post.host
  projectPath := post.projectPath
  iid := post.iid

/-- One step of one call; calls interleave freely. -/
def Event.step (event : Event) (world : World) : World :=
  match event with
  | .getStart id answers adapter repositoryId iid workspaceRepository =>
    match discussionContext parseUrl answers adapter repositoryId iid workspaceRepository with
    | .error _ => world
    | .ok context => world.started id context repositoryId iid
  | .getRead id pages =>
    match world.gets id with
    | none => world
    | some call => if call.read.isSome then world else world.fetched id call pages
  | .getStore id now =>
    match world.gets id with
    | none => world
    | some call =>
      match call.read with
      | none => world
      | some read => world.finished scopeId id call read now
  | .replyWrite id answers thread adapter request posted =>
    match replyContext parseUrl answers thread adapter request with
    | .error _ => world
    | .ok context => world.replied id context request posted
  | .replyCache id =>
    match world.replies id with
    | none => world
    | some call => world.invalidated scopeId id call
  | .publishWrite id provider repositoryId iid host projectPath request verified adapter =>
    let ending := publishReviewCommentToTarget jsonLength provider repositoryId iid host projectPath
      request verified adapter
    match ending.posted with
    | none => world
    | some post => world.published id post.place ending.result.toBool
  -- a comment leaves the cache as it is
  | .publishCache id =>
    match world.comments id with
    | none => world
    | some call => world.reported id call

/-- A list that a call returns, and the read it is from. -/
structure Served where
  place : MergeRequestPlace
  list : GitlabDiscussions
  read : PagesRead

/-- The list that a step returns from the cache or from the provider. -/
def World.serves (world : World) : Event → Option Served
  | .getStore id now =>
    match world.gets id with
    | none => none
    | some call =>
      match call.read with
      | none => none
      | some read =>
        match (call.finish scopeId read now world.cache).2 with
        | .error _ => none
        | .ok list => some {
            place := call.place
            list := list
            read := if list.fromCache then world.reads (call.key scopeId) else read }
  | _ => none

/-- A list from the cache was read after everything that was accepted for its merge request; a list
that is not truncated has every note. -/
structure Served.ReadsOwnWrites (served : Served) (accepted : List Written) : Prop where
  fromCache : served.list.fromCache = true → ∀ written ∈ accepted, written.place = served.place →
    written.time < served.read.time
  truncated : served.list.truncated = false → Whole served.read.pages served.list.discussions

/-- The scope is one of the merge request: of some user. -/
def IsAbout (scope : String) (place : MergeRequestPlace) : Prop :=
  ∃ userId, scopeId { place := place, userId := userId } = scope

/-- The provider took the reply. -/
def ReplyCall.Taken (call : ReplyCall) : Prop :=
  (replyResult call.context call.request call.posted).toBool = true

/-- The steps that leave no list of a merge request that is older than a reply or a comment. -/
def Event.Clean (event : Event) (world : World) : Prop :=
  match event with
  -- less than 2 ^ 64 replies since the call started
  | .getStore id _ => ∀ call, world.gets id = some call →
      world.invalidations < call.invalidations + 2 ^ 64
  -- the lists of other users were read after the reply was posted, if it was not refused
  | .replyCache id => ∀ call, world.replies id = some call → call.Taken → ∀ (key : DiscussionKey) list,
      world.cache.entries[key]? = some list → key.scopeId ≠ scopeId call.scope →
      IsAbout scopeId key.scopeId call.written.place → call.time < (world.reads key).time
  -- no list of the merge request is in the cache, or on its way to it, when a comment is not refused
  | .publishWrite _ provider repositoryId iid host projectPath request verified adapter =>
    let ending := publishReviewCommentToTarget jsonLength provider repositoryId iid host projectPath
      request verified adapter
    ∀ post, ending.posted = some post → ending.result.toBool = true →
    (∀ (key : DiscussionKey) list, world.cache.entries[key]? = some list →
      ¬ IsAbout scopeId key.scopeId post.place) ∧
    ∀ id call, world.gets id = some call → call.read.isSome →
      call.generation = world.cache.generation →
      ¬ IsAbout scopeId (call.key scopeId).scopeId post.place
  | _ => True

/-- A reply or a comment that was accepted, or a comment that is about to be. -/
def World.Settled (world : World) (written : Written) : Prop :=
  written ∈ world.accepted ∨
    ∃ id call, world.comments id = some call ∧ call.accepted = true ∧ call.written = written

/-- What was read at the time is later than everything that was settled for its merge request. -/
def World.Later (world : World) (scope : String) (time : ℕ) : Prop :=
  ∀ written, world.Settled written → IsAbout scopeId scope written.place → written.time < time

structure Consistent (world : World) : Prop where
  generation : world.cache.generation = UInt64.ofNat world.invalidations
  settled : ∀ written, world.Settled written → written.time < world.clock
  replies : ∀ id call, world.replies id = some call → call.time < world.clock
  started : ∀ id call, world.gets id = some call →
    call.invalidations ≤ world.invalidations ∧
      call.generation = UInt64.ofNat call.invalidations
  reading : ∀ id call, world.gets id = some call → ∀ read, call.read = some read →
    call.invalidations = world.invalidations →
    world.Later scopeId (call.key scopeId).scopeId read.time
  entries : ∀ (key : DiscussionKey) list, world.cache.entries[key]? = some list →
    world.Later scopeId key.scopeId (world.reads key).time
  whole : ∀ (key : DiscussionKey) list, world.cache.entries[key]? = some list → list.truncated = false →
    Whole (world.reads key).pages list.discussions

theorem empty_settled (written : Written) : ¬ World.empty.Settled written := by
  rintro (none | ⟨_, _, none, _, _⟩)
  · exact absurd none not_mem_nil
  cases none

theorem empty_consistent : Consistent scopeId World.empty where
  generation := rfl
  settled written isSettled := absurd isSettled (empty_settled written)
  replies _ _ none := by cases none
  started _ _ none := by cases none
  reading _ _ none := by cases none
  entries key list isEntry := by
    have absent : World.empty.cache.entries[key]? = none := Std.TreeMap.getElem?_emptyc
    rw [absent] at isEntry
    cases isEntry
  whole key list isEntry := by
    have absent : World.empty.cache.entries[key]? = none := Std.TreeMap.getElem?_emptyc
    rw [absent] at isEntry
    cases isEntry

variable {scopeId} {world : World}

theorem update_eq_some {κ α : Type} [DecidableEq κ] {values : κ → Option α} {key other : κ}
    {value : Option α} {found : α} (isFound : update values key value other = some found) :
    value = some found ∨ values other = some found := by
  rw [update_apply] at isFound
  split at isFound
  · exact .inl isFound
  exact .inr isFound

variable {after : World} {scope : String} {time now : ℕ}

theorem World.Later.mono (later : world.Later scopeId scope time)
    (fewer : ∀ written, after.Settled written → world.Settled written) :
    after.Later scopeId scope time :=
  fun written isSettled isAbout => later written (fewer written isSettled) isAbout

theorem World.Later.insert {added : Written} {taken : Prop} (later : world.Later scopeId scope time)
    (settled : ∀ written, after.Settled written → world.Settled written ∨ taken ∧ written = added)
    (new : taken → IsAbout scopeId scope added.place → added.time < time) :
    after.Later scopeId scope time := by
  intro written isSettled isAbout
  rcases settled written isSettled with before | ⟨isTaken, rfl⟩
  · exact later written before isAbout
  exact new isTaken isAbout

/-! ### One step -/

theorem started_consistent (consistent : Consistent scopeId world) (id : ℕ)
    (context : DiscussionContext) (repositoryId : String) (iid : ℕ) :
    Consistent scopeId (world.started id context repositoryId iid) where
  __ := consistent
  started other call isCall := by
    rcases update_eq_some isCall with isNew | isOld
    · cases isNew
      exact ⟨le_rfl, consistent.generation⟩
    exact consistent.started other call isOld
  reading other call isCall read isRead same := by
    rcases update_eq_some isCall with isNew | isOld
    · cases isNew
      cases isRead
    exact consistent.reading other call isOld read isRead same

variable {id : ℕ}

variable {call : GetCall}

theorem fetched_consistent (consistent : Consistent scopeId world)
    (isCall : world.gets id = some call) (pages : DiscussionPages) :
    Consistent scopeId (world.fetched id call pages) where
  __ := consistent
  settled written isSettled := Nat.lt_succ_of_lt (consistent.settled written isSettled)
  replies other reply isReply := Nat.lt_succ_of_lt (consistent.replies other reply isReply)
  started other found isFound := by
    rcases update_eq_some isFound with isNew | isOld
    · cases isNew
      exact consistent.started id call isCall
    exact consistent.started other found isOld
  reading other found isFound read isRead same := by
    rcases update_eq_some isFound with isNew | isOld
    · cases isNew
      cases isRead
      -- what is settled is in the past
      exact fun written isSettled _ => consistent.settled written isSettled
    exact consistent.reading other found isOld read isRead same

theorem finish_cache (call : GetCall) (read : PagesRead) (now : ℕ) (cache : DiscussionCache) :
    (call.finish scopeId read now cache).1 = cache ∨ ∃ discussions truncated,
      fetchDiscussions read.pages = .ok (discussions, truncated) ∧
      (call.finish scopeId read now cache).1 = cache.store call.generation (call.key scopeId)
        (freshDiscussions scopeId call.context call.repositoryId call.iid now
          (discussions, truncated)) := by
  rw [GetCall.finish, finishDiscussions]
  cases isFetched : fetchDiscussions read.pages with
  | ok found => exact .inr ⟨found.1, found.2, rfl, rfl⟩
  | error error =>
    refine .inl ?_
    simp only
    split <;> rfl

variable {list : GitlabDiscussions} {read : PagesRead}

theorem entry_of_finished {id : ℕ} {key : DiscussionKey}
    (isEntry : (world.finished scopeId id call read now).cache.entries[key]? = some list) :
    world.cache.generation = call.generation ∧ key = call.key scopeId ∧
        (world.finished scopeId id call read now).reads key = read ∧
        fetchDiscussions read.pages = .ok (list.discussions, list.truncated) ∨
      world.cache.entries[key]? = some list ∧
        (world.finished scopeId id call read now).reads key = world.reads key := by
  have isEntry : (call.finish scopeId read now world.cache).1.entries[key]? = some list := isEntry
  rcases hfetch : fetchDiscussions read.pages with error | ⟨discussions, truncated⟩
  · have unstored : call.stores read world.cache = false := by
      rw [GetCall.stores, hfetch]
      exact Bool.and_false _
    refine .inr ⟨?_, ?_⟩
    · rcases finish_cache call read now world.cache with unchanged | ⟨_, _, isOk, _⟩
      · rwa [unchanged] at isEntry
      · rw [hfetch] at isOk
        cases isOk
    simp only [World.finished, unstored, Bool.false_eq_true, if_false]
  have kept : (call.finish scopeId read now world.cache).1 =
      world.cache.store call.generation (call.key scopeId) (freshDiscussions scopeId call.context
        call.repositoryId call.iid now (discussions, truncated)) := by
    rw [GetCall.finish, finishDiscussions, hfetch]
    rfl
  have stored : call.stores read world.cache =
      decide (world.cache.generation = call.generation) := by
    rw [GetCall.stores, hfetch]
    exact Bool.and_true _
  rw [kept] at isEntry
  rcases getElem?_of_store isEntry with ⟨same, rfl, rfl⟩ | ⟨other, before⟩
  · refine .inl ⟨same, rfl, ?_, rfl⟩
    simp only [World.finished, stored, same, decide_true, if_true, update_self]
  refine .inr ⟨before, ?_⟩
  simp only [World.finished, stored, decide_eq_true_eq]
  split
  · rename_i same
    rw [update_of_ne (other same)]
  rfl

theorem finish_generation (call : GetCall) (read : PagesRead) (now : ℕ) (cache : DiscussionCache) :
    (call.finish scopeId read now cache).1.generation = cache.generation := by
  rcases (finish_cache call read now cache : (call.finish scopeId read now cache).1 = cache ∨ _)
    with unchanged | ⟨_, _, _, stored⟩
  · rw [unchanged]
  rw [stored, store_generation]

theorem eq_of_generation {earlier later : ℕ} (before : earlier ≤ later)
    (few : later < earlier + 2 ^ 64) (same : UInt64.ofNat later = UInt64.ofNat earlier) :
    earlier = later := by
  have values : later % 2 ^ 64 = earlier % 2 ^ 64 := by
    have sameNat := congrArg UInt64.toNat same
    rwa [UInt64.toNat_ofNat', UInt64.toNat_ofNat'] at sameNat
  omega

theorem finished_consistent (consistent : Consistent scopeId world)
    (isCall : world.gets id = some call) (isRead : call.read = some read)
    (now : ℕ) (few : world.invalidations < call.invalidations + 2 ^ 64) :
    Consistent scopeId (world.finished scopeId id call read now) where
  generation := (finish_generation call read now world.cache).trans consistent.generation
  __ := consistent
  started other found isFound := by
    rcases update_eq_some isFound with isNew | isOld
    · cases isNew
    exact consistent.started other found isOld
  reading other found isFound := by
    rcases update_eq_some isFound with isNew | isOld
    · cases isNew
    exact consistent.reading other found isOld
  entries key list isEntry := by
    rcases entry_of_finished isEntry with ⟨same, rfl, isSource, _⟩ | ⟨before, isSource⟩
    · obtain ⟨earlier, generation⟩ := consistent.started id call isCall
      rw [consistent.generation, generation] at same
      rw [isSource]
      exact consistent.reading id call isCall read isRead (eq_of_generation earlier few same)
    rw [isSource]
    exact consistent.entries key list before
  whole key list isEntry complete := by
    rcases entry_of_finished isEntry with ⟨_, _, isSource, fetched⟩ | ⟨before, isSource⟩
    · rw [isSource]
      rw [complete] at fetched
      exact fetchDiscussions_complete fetched
    rw [isSource]
    exact consistent.whole key list before complete

theorem replied_consistent (consistent : Consistent scopeId world) (id : ℕ)
    (context : DiscussionContext) (request : ReplyRequest)
    (posted : Answer ReviewDiscussionNoteNode) :
    Consistent scopeId (world.replied id context request posted) where
  __ := consistent
  settled written isSettled := Nat.lt_succ_of_lt (consistent.settled written isSettled)
  replies other reply isReply := by
    rcases update_eq_some isReply with isNew | isOld
    · cases isNew
      exact Nat.lt_succ_self _
    exact Nat.lt_succ_of_lt (consistent.replies other reply isOld)

variable {written : Written}

theorem settled_of_invalidated {call : ReplyCall}
    (isSettled : (world.invalidated scopeId id call).Settled written) :
    world.Settled written ∨ call.Taken ∧ written = call.written := by
  rcases isSettled with isAccepted | underWay
  · rw [World.invalidated] at isAccepted
    simp only at isAccepted
    split at isAccepted
    · rename_i isOk
      rcases mem_cons.1 isAccepted with isNew | isOld
      · refine .inr ⟨?_, isNew⟩
        rw [ReplyCall.Taken, isOk]
        rfl
      · exact .inl (.inl isOld)
    exact .inl (.inl isAccepted)
  exact .inl (.inr underWay)

theorem invalidated_consistent (consistent : Consistent scopeId world) {call : ReplyCall}
    (isCall : world.replies id = some call)
    (clean : call.Taken → ∀ (key : DiscussionKey) list, world.cache.entries[key]? = some list →
      key.scopeId ≠ scopeId call.scope → IsAbout scopeId key.scopeId call.written.place →
        call.time < (world.reads key).time) :
    Consistent scopeId (world.invalidated scopeId id call) where
  generation := by
    have next : (world.invalidated scopeId id call).cache.generation =
        world.cache.generation + 1 := rfl
    rw [next, consistent.generation]
    exact (UInt64.ofNat_add _ _).symm
  settled written isSettled := by
    rcases settled_of_invalidated isSettled with before | ⟨_, rfl⟩
    · exact consistent.settled written before
    exact consistent.replies id call isCall
  replies other reply isReply := by
    rcases update_eq_some isReply with isNew | isOld
    · cases isNew
    exact consistent.replies other reply isOld
  started other found isFound :=
    ⟨(consistent.started other found isFound).1.trans (Nat.le_succ _),
      (consistent.started other found isFound).2⟩
  reading other found isFound read isRead same :=
    absurd same (Nat.lt_succ_of_le (consistent.started other found isFound).1).ne
  entries key list isEntry := by
    obtain ⟨otherUser, before⟩ := getElem?_of_invalidate isEntry
    exact (consistent.entries key list before).insert (fun _ => settled_of_invalidated)
      fun taken => clean taken key list before otherUser
  whole key list isEntry := consistent.whole key list (getElem?_of_invalidate isEntry).2

variable {place : MergeRequestPlace}

theorem settled_of_published {accepted : Bool}
    (isSettled : (world.published id place accepted).Settled written) :
    world.Settled written ∨ accepted = true ∧ written = { place := place, time := world.clock } := by
  rcases isSettled with isAccepted | ⟨other, call, isCall, taken, rfl⟩
  · exact .inl (.inl isAccepted)
  rcases update_eq_some isCall with isNew | isOld
  · cases isNew
    exact .inr ⟨taken, rfl⟩
  exact .inl (.inr ⟨other, call, isOld, taken, rfl⟩)

theorem published_consistent (consistent : Consistent scopeId world) (id : ℕ) (accepted : Bool)
    (noList : accepted = true →
      (∀ (key : DiscussionKey) list, world.cache.entries[key]? = some list →
        ¬ IsAbout scopeId key.scopeId place) ∧
      ∀ id call, world.gets id = some call → call.read.isSome →
        call.generation = world.cache.generation →
          ¬ IsAbout scopeId (call.key scopeId).scopeId place) :
    Consistent scopeId (world.published id place accepted) where
  __ := consistent
  settled written isSettled := by
    rcases settled_of_published isSettled with before | ⟨_, rfl⟩
    · exact Nat.lt_succ_of_lt (consistent.settled written before)
    exact Nat.lt_succ_self _
  replies other reply isReply := Nat.lt_succ_of_lt (consistent.replies other reply isReply)
  reading other call isCall read isRead same := by
    have sameGeneration : call.generation = world.cache.generation := by
      rw [(consistent.started other call isCall).2, consistent.generation, same]
      rfl
    refine (consistent.reading other call isCall read isRead same).insert
      (fun _ => settled_of_published) fun taken isAbout => ?_
    exact absurd isAbout ((noList taken).2 other call isCall (by rw [isRead]; rfl) sameGeneration)
  entries key list isEntry :=
    (consistent.entries key list isEntry).insert (fun _ => settled_of_published)
      fun taken isAbout => absurd isAbout ((noList taken).1 key list isEntry)

theorem settled_of_reported {call : CommentCall} (isCall : world.comments id = some call)
    (isSettled : (world.reported id call).Settled written) : world.Settled written := by
  rcases isSettled with isAccepted | ⟨other, found, isFound, taken, rfl⟩
  · rw [World.reported] at isAccepted
    simp only at isAccepted
    split at isAccepted
    · rename_i taken
      rcases mem_cons.1 isAccepted with rfl | isOld
      · exact .inr ⟨id, call, isCall, taken, rfl⟩
      · exact .inl isOld
    exact .inl isAccepted
  rcases update_eq_some isFound with isNew | isOld
  · cases isNew
  exact .inr ⟨other, found, isOld, taken, rfl⟩

theorem reported_consistent (consistent : Consistent scopeId world) {call : CommentCall}
    (isCall : world.comments id = some call) : Consistent scopeId (world.reported id call) where
  __ := consistent
  settled written isSettled := consistent.settled written (settled_of_reported isCall isSettled)
  reading other found isFound read isRead same :=
    (consistent.reading other found isFound read isRead same).mono
      fun _ => settled_of_reported isCall
  entries key list isEntry :=
    (consistent.entries key list isEntry).mono fun _ => settled_of_reported isCall

theorem step_consistent (consistent : Consistent scopeId world) (event : Event)
    (clean : event.Clean jsonLength scopeId world) :
    Consistent scopeId (event.step parseUrl jsonLength scopeId world) := by
  cases event with
  | getStart id answers adapter repositoryId iid workspaceRepository =>
    rw [Event.step]
    split
    · exact consistent
    exact started_consistent consistent id _ repositoryId iid
  | getRead id pages =>
    rw [Event.step]
    split
    · exact consistent
    rename_i call isCall
    split
    · exact consistent
    exact fetched_consistent consistent isCall pages
  | getStore id now =>
    rw [Event.step]
    split
    · exact consistent
    rename_i call isCall
    split
    · exact consistent
    rename_i read isRead
    exact finished_consistent consistent isCall isRead now (clean call isCall)
  | replyWrite id answers thread adapter request posted =>
    rw [Event.step]
    split
    · exact consistent
    exact replied_consistent consistent id _ request posted
  | replyCache id =>
    rw [Event.step]
    split
    · exact consistent
    rename_i call isCall
    exact invalidated_consistent consistent isCall (clean call isCall)
  | publishWrite id provider repositoryId iid host projectPath request verified adapter =>
    simp only [Event.step]
    split
    · exact consistent
    rename_i post isPosted
    exact published_consistent consistent id _ (clean post isPosted)
  | publishCache id =>
    rw [Event.step]
    split
    · exact consistent
    rename_i call isCall
    exact reported_consistent consistent isCall

variable (scopeId)

/-- A world that is reached by steps which meet the condition. -/
inductive ReachedClean : World → Prop
  | start : ReachedClean World.empty
  | step (event : Event) (world : World) (before : ReachedClean world)
      (clean : event.Clean jsonLength scopeId world) :
      ReachedClean (event.step parseUrl jsonLength scopeId world)

theorem reached_consistent (reached : ReachedClean parseUrl jsonLength scopeId world) :
    Consistent scopeId world := by
  induction reached with
  | start => exact empty_consistent scopeId
  | step event world _ clean ih => exact step_consistent parseUrl jsonLength ih event clean

theorem serves_getStore {event : Event} {served : Served}
    (serves : world.serves scopeId event = some served) :
    ∃ id now call read, event = .getStore id now ∧ world.gets id = some call ∧
      call.read = some read ∧ served.place = call.place ∧
      (call.finish scopeId read now world.cache).2 = .ok served.list ∧
      served.read = if served.list.fromCache then world.reads (call.key scopeId) else read := by
  cases event with
  | getStore id now =>
    rw [World.serves] at serves
    split at serves
    · cases serves
    rename_i call isCall
    split at serves
    · cases serves
    rename_i read isRead
    split at serves
    · cases serves
    rename_i list isList
    cases serves
    exact ⟨id, now, call, read, rfl, isCall, isRead, rfl, isList, rfl⟩
  | _ => cases serves

theorem finish_list {cache : DiscussionCache}
    (isList : (call.finish scopeId read now cache).2 = .ok list) :
    list.fromCache = false ∧ fetchDiscussions read.pages = .ok (list.discussions, list.truncated) ∨
      list.fromCache = true ∧ ∃ entry, cache.entries[call.key scopeId]? = some entry ∧
        list.discussions = entry.discussions ∧ list.truncated = entry.truncated := by
  rw [GetCall.finish, finishDiscussions] at isList
  cases isFetched : fetchDiscussions read.pages with
  | ok found =>
    simp only [isFetched] at isList
    cases isList
    exact .inl ⟨rfl, rfl⟩
  | error error =>
    simp only [isFetched] at isList
    split at isList
    · rename_i entry isEntry
      cases isList
      exact .inr ⟨rfl, entry, isEntry, rfl, rfl⟩
    cases isList

/-- In every run of clean steps, every list that is served reads its own writes. -/
theorem reads_own_writes (world : World) (reached : ReachedClean parseUrl jsonLength scopeId world)
    (event : Event) (served : Served) (serves : world.serves scopeId event = some served) :
    served.ReadsOwnWrites world.accepted := by
  have consistent := reached_consistent parseUrl jsonLength scopeId reached
  obtain ⟨id, now, call, read, rfl, _, _, isPlace, isList, isRead⟩ := serves_getStore scopeId serves
  rcases finish_list scopeId isList with ⟨isFresh, fetched⟩ |
    ⟨isCached, entry, isEntry, sameDiscussions, sameTruncated⟩
  · rw [isFresh, if_neg Bool.false_ne_true] at isRead
    constructor
    · intro isCached
      rw [isFresh] at isCached
      cases isCached
    intro complete
    rw [complete] at fetched
    rw [isRead]
    exact fetchDiscussions_complete fetched
  · rw [isCached, if_pos rfl] at isRead
    constructor
    · intro _ written isAccepted samePlace
      rw [isRead]
      refine consistent.entries _ entry isEntry written (Or.inl isAccepted) ?_
      rw [samePlace, isPlace]
      exact ⟨call.context.user.id, rfl⟩
    · intro complete
      rw [sameTruncated] at complete
      rw [sameDiscussions, isRead]
      exact consistent.whole _ entry isEntry complete

def World.run (events : List Event) (world : World) : World :=
  events.foldl (fun world event => event.step parseUrl jsonLength scopeId world) world

theorem World.run_append (first second : List Event) (world : World) :
    world.run parseUrl jsonLength scopeId (first ++ second) =
      (world.run parseUrl jsonLength scopeId first).run parseUrl jsonLength scopeId second :=
  foldl_append

end Runs

def sampleContext : DiscussionContext where
  host := "gitlab.com"
  projectPath := "group/app"
  user := { id := 1, username := "ada" }

def sampleAdapter : Adapter :=
  (Adapter.new false none).target "app" 7 "git@gitlab.com:group/app"

def sampleContextAnswers : ContextAnswers where
  executable := true
  user := fun _ => .ok (some sampleContext.user)
  mergeRequest := fun _ => .ok none

def sampleStart (id : ℕ) : Event :=
  .getStart id sampleContextAnswers sampleAdapter "app" 7 none

def sampleProvider : CommentProvider where
  executable := true
  patches := fun _ _ => {
    executable := true
    commits := .ok none
    changes := .ok none
    commitChanges := fun _ => .ok none
    discussions := .ok none
    now := 0 }
  accepts := fun _ => true

def samplePublish (id : ℕ) : Event :=
  .publishWrite id sampleProvider "app" 7 "gitlab.com" "group/app"
    { body := "Please rename this.", filePath := none, side := none, line := none,
      expectedPosition := none, workspaceId := none }
    none sampleAdapter

theorem publish_sample (jsonLength : SavedReviewPatchCache → ℕ) (scopeId : DiscussionScope → String)
    (id : ℕ) (world : World) : (samplePublish id).step (fun _ => none) jsonLength scopeId world =
      world.published id (sampleContext.place 7) true := by
  have body : trim "Please rename this." = "Please rename this." := by decide +kernel
  have short : ¬ maxReviewCommentChars < "Please rename this.".length := by decide +kernel
  simp [samplePublish, Event.step, publishReviewCommentToTarget, sendComment, body, short,
    CommentPost.place, sampleContext, DiscussionContext.place, sampleProvider, Except.toBool]

theorem discussionContext_sample :
    discussionContext (fun _ => none) sampleContextAnswers sampleAdapter "app" 7 none =
      .ok sampleContext := by
  decide +kernel

section Sample

variable (jsonLength : SavedReviewPatchCache → ℕ) (scopeId : DiscussionScope → String)

def sampleKey : DiscussionKey :=
  discussionKey scopeId sampleContext "app" 7

def sampleNote : ReviewDiscussionNoteNode where
  id := 5
  body := "Please rename this."
  authorUsername := "ada"
  createdAt := "2024-05-01T10:00:00Z"
  system := false
  resolvable := false
  resolved := none
  position := none

/-- One thread with the note, on the first page. -/
def samplePages : PagesRead where
  pages := fun page => .ok (some (if page = 1 then [{ id := "d1", notes := [sampleNote] }] else []))
  time := 0

def sampleThreads : List GitlabReviewDiscussion :=
  validatedReviewDiscussions [{ id := "d1", notes := [sampleNote] }]

theorem fetchDiscussions_sample :
    fetchDiscussions samplePages.pages = .ok (sampleThreads, false) := by
  have counted : decide (commentCount sampleThreads < noteCount [{ id := "d1", notes := [sampleNote] }]) =
      false := by decide +kernel
  have firstPage : readPages samplePages.pages [] false pageNumbers =
      .ok ([{ id := "d1", notes := [sampleNote] }], false) := by
    simp [pageNumbers, maxReviewDiscussions, discussionsPerPage, readPages, samplePages,
      Answer.required, List.range_succ]
    rfl
  rw [fetchDiscussions, firstPage]
  show Except.ok (sampleThreads, false || decide (commentCount sampleThreads < noteCount _)) = _
  rw [counted]
  rfl

def sampleList : GitlabDiscussions :=
  freshDiscussions scopeId sampleContext "app" 7 1 (sampleThreads, false)

def sampleCall (pages : DiscussionPages) (world : World) : GetCall where
  context := sampleContext
  repositoryId := "app"
  iid := 7
  generation := world.cache.generation
  invalidations := world.invalidations
  read := some { pages := pages, time := world.clock }

def sampleRead (id : ℕ) (pages : DiscussionPages) : List Event :=
  [sampleStart id, .getRead id pages]

theorem run_sampleRead (id : ℕ) (pages : DiscussionPages) (world : World) :
    world.run (fun _ => none) jsonLength scopeId (sampleRead id pages) = { world with
        gets := update world.gets id (some (sampleCall pages world))
        clock := world.clock + 1 } := by
  simp only [World.run, sampleRead, foldl_cons, foldl_nil, Event.step, sampleStart,
    discussionContext_sample, World.started, update_self, Option.isSome_none,
    Bool.false_eq_true, if_false, World.fetched, update_idem, sampleCall]

theorem store_sample : (empty.store 0 (sampleKey scopeId) (sampleList scopeId)).entries[
      sampleKey scopeId]? = some (sampleList scopeId) := by
  have single : (empty.entries.insert (sampleKey scopeId)
      (sampleList scopeId)).size = 1 := by
    rw [Std.TreeMap.size_insert]
    rfl
  have same : ¬ empty.generation ≠ 0 := not_not.2 rfl
  rw [store, if_neg same]
  simp only [single, evict, if_neg (show ¬ maxSavedReviewPatches < 1 by decide)]
  exact Std.TreeMap.getElem?_insert_self

/-- The world after a call has read the pages and stored them. -/
def listed (world : World) : World :=
  (world.run (fun _ => none) jsonLength scopeId (sampleRead 0 samplePages.pages)).run
    (fun _ => none) jsonLength scopeId [.getStore 0 1]

variable {world : World}

theorem finished_reads {id now : ℕ} {call : GetCall} {read : PagesRead}
    (stores : call.stores read world.cache = true) :
    (world.finished scopeId id call read now).reads (call.key scopeId) = read := by
  rw [World.finished]
  simp only [stores, if_true, update_self]

theorem listed_eq (world : World) : listed jsonLength scopeId world =
      (world.run (fun _ => none) jsonLength scopeId (sampleRead 0 samplePages.pages)).finished
        scopeId 0 (sampleCall samplePages.pages world)
        { pages := samplePages.pages, time := world.clock } 1 := by
  rw [listed, run_sampleRead]
  simp only [World.run, foldl_cons, foldl_nil, Event.step, update_self, sampleCall]

theorem listed_cached (fresh : world.cache = DiscussionCache.empty) :
    (listed jsonLength scopeId world).cache.entries[sampleKey scopeId]? = some (sampleList scopeId) ∧
      (listed jsonLength scopeId world).reads (sampleKey scopeId) =
        { pages := samplePages.pages, time := world.clock } ∧
      (listed jsonLength scopeId world).clock = world.clock + 1 ∧
      (listed jsonLength scopeId world).accepted = world.accepted := by
  have stores : (sampleCall samplePages.pages world).stores
      { pages := samplePages.pages, time := world.clock } world.cache = true := by
    simp [GetCall.stores, sampleCall, fetchDiscussions_sample, Except.toBool]
  rw [listed_eq, run_sampleRead]
  refine ⟨?_, finished_reads scopeId stores, rfl, rfl⟩
  have entry := store_sample scopeId
  simp only [World.finished, GetCall.finish, finishDiscussions, fetchDiscussions_sample, sampleCall,
    fresh]
  exact entry

theorem serves_sample
    (isEntry : world.cache.entries[sampleKey scopeId]? = some (sampleList scopeId)) :
    (world.run (fun _ => none) jsonLength scopeId
        (sampleRead 1 fun _ => .error .timedOut)).serves scopeId (.getStore 1 2) =
      some {
        place := sampleContext.place 7
        list := { sampleList scopeId with fromCache := true }
        read := world.reads (sampleKey scopeId) } := by
  have failed : fetchDiscussions (fun _ => .error .timedOut) = .error "providerFailed" := rfl
  have isEntry : world.cache.entries[discussionKey scopeId sampleContext "app" 7]? =
      some (sampleList scopeId) := isEntry
  rw [run_sampleRead]
  simp only [World.serves, update_self, sampleCall, GetCall.finish, finishDiscussions, failed,
    isEntry]
  rfl

theorem reached_sampleRead (id : ℕ) (pages : DiscussionPages)
    (reached : ReachedClean (fun _ => none) jsonLength scopeId world) :
    ReachedClean (fun _ => none) jsonLength scopeId
      (world.run (fun _ => none) jsonLength scopeId (sampleRead id pages)) :=
  .step (.getRead id pages) _ (.step (sampleStart id) _ reached trivial) trivial

theorem reached_listed (reached : ReachedClean (fun _ => none) jsonLength scopeId world) :
    ReachedClean (fun _ => none) jsonLength scopeId (listed jsonLength scopeId world) := by
  refine .step (.getStore 0 1) _ (reached_sampleRead jsonLength scopeId 0 _ reached) ?_
  rw [run_sampleRead]
  intro call isCall
  have isSample : update world.gets 0 (some (sampleCall samplePages.pages world)) 0 = some call := isCall
  rw [update_self] at isSample
  cases isSample
  exact Nat.lt_add_of_pos_right (Nat.two_pow_pos 64)

theorem run_samplePublish (world : World) :
    world.run (fun _ => none) jsonLength scopeId [samplePublish 0, .publishCache 0] = { world with
        comments := update world.comments 0 none
        clock := world.clock + 1
        accepted := { place := sampleContext.place 7, time := world.clock } :: world.accepted } := by
  rw [World.run, foldl_cons, publish_sample, foldl_cons, foldl_nil]
  simp only [Event.step, World.published, update_self, World.reported, update_idem, if_true]

/-- The world after a comment was posted and reported as accepted. -/
def commentedWorld : World :=
  World.empty.run (fun _ => none) jsonLength scopeId [samplePublish 0, .publishCache 0]

theorem reached_commentedWorld :
    ReachedClean (fun _ => none) jsonLength scopeId (commentedWorld jsonLength scopeId) := by
  refine .step (.publishCache 0) _ (.step (samplePublish 0) _ .start ?_) trivial
  intro post isPosted taken
  refine ⟨fun key list isEntry => ?_, fun id call isCall => by cases isCall⟩
  rw [show World.empty.cache.entries[key]? = none from Std.TreeMap.getElem?_emptyc] at isEntry
  cases isEntry

end Sample

/-- A comment is accepted, then a list is read and cached; the next call cannot read the pages and is
served the list, which has the note. -/
theorem reads_own_writes_sample : ∃ (world : World) (served : Served),
    ReachedClean (fun _ => none) (fun _ => 0) (fun _ => "scope") world ∧
      world.serves (fun _ => "scope") (.getStore 1 2) = some served ∧
      world.accepted = [{ place := served.place, time := 0 }] ∧ served.list.fromCache = true ∧
      served.list.truncated = false ∧ commentCount served.list.discussions = 1 ∧
      served.ReadsOwnWrites world.accepted := by
  have start : (commentedWorld (fun _ => 0) fun _ => "scope").cache = DiscussionCache.empty := by
    rw [commentedWorld, run_samplePublish]
    rfl
  have before := reached_listed (fun _ => 0) (fun _ => "scope")
    (reached_commentedWorld (fun _ => 0) fun _ => "scope")
  obtain ⟨cached, -, -, same⟩ := listed_cached (fun _ => 0) (fun _ => "scope") start
  have reached := reached_sampleRead (fun _ => 0) (fun _ => "scope") 1 (fun _ => .error .timedOut) before
  have serves := serves_sample (fun _ => 0) (fun _ => "scope") cached
  refine ⟨_, _, reached, serves, ?_, rfl, rfl, ?_,
    reads_own_writes (fun _ => none) (fun _ => 0) (fun _ => "scope") _ reached (.getStore 1 2) _ serves⟩
  · rw [run_sampleRead]
    dsimp only
    rw [same, commentedWorld, run_samplePublish]
    rfl
  show commentCount sampleThreads = 1
  decide +kernel

/-- After a list was cached a comment is posted, which leaves it in the cache; a call that cannot read
the pages is then served the list without the comment. -/
theorem old_list_counterexample :
    ¬ ∀ (parseUrl : String → Option Url) (jsonLength : SavedReviewPatchCache → ℕ)
      (scopeId : DiscussionScope → String) (events : List Event) (event : Event) (served : Served),
      (World.empty.run parseUrl jsonLength scopeId events).serves scopeId event = some served →
      served.ReadsOwnWrites (World.empty.run parseUrl jsonLength scopeId events).accepted := by
  intro claim
  obtain ⟨cached, isFirst, isClock, -⟩ :=
    listed_cached (fun _ => 0) (fun _ => "scope") (show World.empty.cache = _ from rfl)
  have old := claim (fun _ => none) (fun _ => 0) (fun _ => "scope")
    (sampleRead 0 samplePages.pages ++ [.getStore 0 1] ++ [samplePublish 0, .publishCache 0] ++
      sampleRead 1 fun _ => .error .timedOut) (.getStore 1 2)
  rw [World.run_append, World.run_append, World.run_append, ← listed, run_samplePublish] at old
  -- the comment was posted at 1, the list was read at 0
  have served := (old _ (serves_sample _ _ cached)).fromCache rfl
    { place := sampleContext.place 7, time := (listed (fun _ => 0) (fun _ => "scope") World.empty).clock }
  rw [run_sampleRead] at served
  have later := served List.mem_cons_self rfl
  rw [isClock, show ({ (listed (fun _ => 0) (fun _ => "scope") World.empty) with
    clock := _ } : World).reads (sampleKey _) = _ from isFirst] at later
  exact absurd later (by decide)

end Wts.Gitlab
