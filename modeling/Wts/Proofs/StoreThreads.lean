/-
Module: Wts.Proofs.StoreThreads
Purpose: Review threads over runs: an accepted thread stays in its table with its target and comment
  and is listed with them; a resolved thread never changes again, so a resolution takes effect once.
Trusted boundary: none
Main exports: run_threadsKept
-/
import Wts.Proofs.StoreHistory

namespace Wts.Store

open Text List

variable {store : WorkspaceStore} {env : CallEnv} {tables written : Tables}
variable {workspaceId threadId : Uuid} {kind : ReviewKind}

/-- A row and what it is later: a resolved row stays as it is. -/
structure ThreadLater (row later : ReviewThreadRow kind.Anchor) : Prop where
  thread : later.threadId = row.threadId
  workspace : later.workspaceId = row.workspaceId
  anchor : later.anchor = row.anchor
  settled : row.state = .resolved → later = row

theorem ThreadLater.refl (row : ReviewThreadRow kind.Anchor) : ThreadLater row row :=
  ⟨rfl, rfl, rfl, fun _ => rfl⟩

theorem ThreadLater.trans {first second third : ReviewThreadRow kind.Anchor}
    (early : ThreadLater first second) (late : ThreadLater second third) :
    ThreadLater first third where
  thread := late.thread.trans early.thread
  workspace := late.workspace.trans early.workspace
  anchor := late.anchor.trans early.anchor
  settled := by
    intro resolved
    have same := early.settled resolved
    rw [late.settled (by rw [same, resolved]), same]

/-- The rows of a table are kept, and its comments are only appended. -/
structure TableLater (table after : ReviewTable kind.Anchor) : Prop where
  threads : ∀ row ∈ table.threads, ∃ later ∈ after.threads, ThreadLater row later
  comments : ∀ comment ∈ table.comments, comment ∈ after.comments

theorem TableLater.refl (table : ReviewTable kind.Anchor) : TableLater table table :=
  ⟨fun row member => ⟨row, member, .refl row⟩, fun _ member => member⟩

theorem TableLater.trans {first second third : ReviewTable kind.Anchor}
    (early : TableLater first second) (late : TableLater second third) :
    TableLater first third where
  threads := by
    intro row member
    obtain ⟨middle, inside, toMiddle⟩ := early.threads row member
    obtain ⟨last, present, toLast⟩ := late.threads middle inside
    exact ⟨last, present, toMiddle.trans toLast⟩
  comments := fun comment member => late.comments comment (early.comments comment member)

variable {table after : ReviewTable kind.Anchor}

theorem ReviewStep.later (sound : ReviewTableSound table)
    (step : ReviewStep table after) : TableLater table after := by
  cases step with
  | same => exact .refl table
  | created opening =>
    exact ⟨fun row member => ⟨row, mem_append_left _ member, .refl row⟩,
      fun comment member => mem_append_left _ member⟩
  | @resolved row revision updatedAtUnixMs present opened checked raised =>
    refine ⟨?_, fun comment member => member⟩
    intro other member
    refine ⟨_, mem_map_of_mem member, ?_⟩
    by_cases same : other = row
    · rw [same, resolveMatching_self]
      refine ⟨rfl, rfl, rfl, ?_⟩
      intro resolved
      rw [opened] at resolved
      cases resolved
    rw [sound.resolveMatching_of_ne present member same]
    exact .refl other

theorem ReviewsStep.later {reviews after : ReviewTables} (sound : ReviewsSound reviews)
    (step : ReviewsStep reviews after) (kind : ReviewKind) :
    TableLater (reviews kind) (after kind) := by
  cases step with
  | same => exact .refl _
  | @changed other table step =>
    by_cases same : kind = other
    · subst same
      rw [Function.update_self]
      exact step.later (sound kind)
    rw [Function.update_of_ne same]
    exact .refl _

theorem run_tableLater (calls : List (Call × CallEnv)) (sound : ReviewsSound tables.reviews)
    (kind : ReviewKind) :
    TableLater (tables.reviews kind) ((run store calls tables).reviews kind) := by
  induction calls generalizing tables with
  | nil => exact .refl _
  | cons step rest ih =>
    have first : HistoryStep store tables (perform store step.2 tables step.1).2 := perform_history step.1
    exact (first.reviewsStep.later sound kind).trans (ih (sound.step first.reviewsStep))

theorem TableLater.settled (later : TableLater table after)
    {row} (present : row ∈ table.threads) (resolved : row.state = .resolved) :
    row ∈ after.threads := by
  obtain ⟨last, inside, toLast⟩ := later.threads row present
  rwa [toLast.settled resolved] at inside

variable {body normalized : String}

theorem normalizeReviewBody_eq_ok
    (accepted : normalizeReviewBody body = .ok normalized) : normalized = trim body := by
  simp only [normalizeReviewBody] at accepted
  split at accepted
  · cases accepted
  split at accepted
  · cases accepted
  cases accepted
  rfl

variable {target : StoredReviewTarget}

variable {row : ReviewThreadRow kind.Anchor}

theorem listed_of_mem {comment : ReviewCommentRow}
    (sound : ReviewsSound tables.reviews) (present : row ∈ (tables.reviews kind).threads)
    (commented : comment ∈ (tables.reviews kind).comments)
    (thread : comment.threadId = row.threadId)
    (targeted : decodeTarget kind row.anchor = .ok target)
    (live : Live store tables row.workspaceId) :
    ∃ threads listed decoded, listReviewThreads store row.workspaceId tables = .ok threads ∧
      listed ∈ threads ∧ listed.threadId = row.threadId ∧ listed.target = target ∧
        listed.comments = [decoded] ∧ decoded.author = comment.author ∧
          decoded.body = comment.body := by
  obtain ⟨projection, required⟩ := live_iff_require.1 live
  obtain ⟨threads, listing, complete⟩ := exists_listReviewThreads sound required
  obtain ⟨only, decoded, filtered, accepted⟩ := (sound kind).comment row present
  have loaded := loadReviewThread_of_mem (sound kind) present targeted filtered accepted
  obtain ⟨read, listedHere⟩ := exists_loadReviewThreads (sound kind) row.workspaceId
  have isOnly : comment = only := by
    have inside : comment ∈ (tables.reviews kind).comments.filter
        (fun other => other.threadId = row.threadId) :=
      mem_filter.2 ⟨commented, by simpa using thread⟩
    rw [filtered] at inside
    exact mem_singleton.1 inside
  subst isOnly
  have decodedAs : decoded.author = comment.author ∧ decoded.body = comment.body := by
    simp only [decodeComment] at accepted
    split at accepted
    · cases accepted
    split at accepted
    · cases accepted
    cases accepted
    exact ⟨rfl, rfl⟩
  exact ⟨threads, _, decoded, listing,
    complete kind read listedHere _ (mem_loadReviewThreads listedHere present loaded), rfl, rfl,
    rfl, decodedAs.1, decodedAs.2⟩

variable {author : StoredReviewAuthor} {thread : StoredReviewThread}

theorem created_listed (sound : ReviewsSound tables.reviews)
    (created : createReviewThread store env workspaceId target author body tables =
      (.ok thread, written)) (further : List (Call × CallEnv))
    (live : Live store (run store further written) workspaceId) : ∃ threads listed comment,
      listReviewThreads store workspaceId (run store further written) = .ok threads ∧
        listed ∈ threads ∧ listed.threadId = thread.threadId ∧ listed.target = target ∧
          listed.comments = [comment] ∧ comment.author = author ∧ comment.body = trim body := by
  obtain ⟨normalized, valid, accepted, transacted⟩ := createReviewThread_eq_ok created
  obtain ⟨kind, row, comment, opening, targeted, identifier, rfl, rfl, sameBody, writes⟩ :=
    createReviewTransaction_eq_ok valid accepted transacted
  have present : row ∈ (written.reviews kind).threads := by
    rw [writes, setReviews_self]
    simp
  have commented : comment ∈ (written.reviews kind).comments := by
    rw [writes, setReviews_self]
    simp
  have soundWritten : ReviewsSound written.reviews := by
    rw [writes]
    exact sound.step (.changed (.created opening))
  have later : TableLater (written.reviews kind) ((run store further written).reviews kind) :=
    run_tableLater further soundWritten kind
  obtain ⟨last, inside, toLast⟩ := later.threads row present
  rw [← toLast.workspace] at live ⊢
  have targetedLast : decodeTarget kind last.anchor = .ok target := by
    rw [toLast.anchor]
    exact targeted
  obtain ⟨threads, listed, decoded, listing, member, id, sameTarget, comments, author, body⟩ :=
    listed_of_mem (run_reviewsSound_of further soundWritten) inside
      (later.comments comment commented) (opening.thread.trans toLast.thread.symm) targetedLast live
  refine ⟨threads, listed, decoded, listing, member, ?_, sameTarget, comments, author, ?_⟩
  · rw [id, toLast.thread, identifier]
  rw [body, sameBody, normalizeReviewBody_eq_ok accepted]

/-- A workspace in which a thread is created is live until it is removed. -/
theorem live_of_created (reached : Reached store tables)
    (created : createReviewThread store env workspaceId target author body tables =
      (.ok thread, written)) (further : List (Call × CallEnv))
    (remains : (run store further written).tombstoned workspaceId = false) :
    Live store (run store further written) workspaceId := by
  have called : run store ((.createReviewThread workspaceId target author body, env) :: further)
      tables = run store further written := by
    simp only [run, perform, created]
  have later := reached.run ((.createReviewThread workspaceId target author body, env) :: further)
  obtain ⟨_, _, _, transacted⟩ := createReviewThread_eq_ok created
  have live : Live store tables workspaceId := by
    simp only [createReviewTransaction] at transacted
    split at transacted
    · cases transacted
    rename_i required
    exact live_iff_require.2 ⟨_, required⟩
  have known := mem_createdIds_run store
    ((.createReviewThread workspaceId target author body, env) :: further) (reached.live_iff.1 live).1
  rw [called] at later known
  exact later.live_iff.2 ⟨known, remains⟩

theorem findReviewThread_unique {other : StoredReviewThread}
    (found : findReviewThread tables workspaceId threadId = .ok thread)
    (loaded : loadReviewThread kind tables workspaceId threadId = .ok (some other)) :
    other = thread := by
  simp only [findReviewThread] at found
  split at found
  · cases found
  rename_i planning first
  split at found
  · cases found
  rename_i verification second
  split at found
  · cases found
  rename_i code third
  split at found
  · cases found
  rename_i single
  split at found
  · cases found
  rename_i current chosen
  cases found
  cases kind with
  | planning =>
    obtain rfl := Except.ok.inj (loaded.symm.trans first)
    cases chosen
    rfl
  | verification =>
    obtain rfl := Except.ok.inj (loaded.symm.trans second)
    cases planning with
    | none =>
      cases chosen
      rfl
    | some thread => cases code <;> simp at single
  | code =>
    obtain rfl := Except.ok.inj (loaded.symm.trans third)
    cases planning with
    | none =>
      cases verification with
      | none =>
        cases chosen
        rfl
      | some thread => simp at single
    | some thread => cases verification <;> simp at single

theorem not_findsOpen_of_resolved
    (sound : ReviewsSound tables.reviews) (present : row ∈ (tables.reviews kind).threads)
    (resolved : row.state = .resolved) : ¬ FindsOpen tables row.workspaceId row.threadId := by
  rintro ⟨current, found, opened⟩
  obtain ⟨target, targeted⟩ := (sound kind).target row present
  obtain ⟨comment, decoded, only, accepted⟩ := (sound kind).comment row present
  have same := findReviewThread_unique found
    (loadReviewThread_of_mem (sound kind) present targeted only accepted)
  rw [← same] at opened
  simp only [threadOf, resolved, reduceCtorEq] at opened

theorem resolved_once {expectedRevision : UInt64} (sound : ReviewsSound tables.reviews) (effective :
      (resolveReviewThread store env workspaceId threadId expectedRevision tables).2 ≠ tables)
    (further : List (Call × CallEnv)) (now : CallEnv) (expected : UInt64) (later : Tables)
    (reached : later = run store further
      (resolveReviewThread store env workspaceId threadId expectedRevision tables).2) :
    (resolveReviewThread store now workspaceId threadId expected later).2 = later := by
  have outcome : (resolveReviewThread store env workspaceId threadId expectedRevision tables).2 =
      tables ∨ _ := resolveReviewThread_cases expectedRevision
  rcases outcome with kept | ⟨kind, row, revision, updatedAtUnixMs, resolving, _, writes⟩
  · exact absurd kept effective
  have soundWritten : ReviewsSound
      (resolveReviewThread store env workspaceId threadId expectedRevision tables).2.reviews := by
    rw [writes]
    exact sound.step (.changed (.resolved resolving.present resolving.opened resolving.checked
      resolving.raised))
  have present : resolvedRow revision updatedAtUnixMs row ∈
      ((resolveReviewThread store env workspaceId threadId expectedRevision tables).2.reviews
        kind).threads := by
    rw [writes, setReviews_self, ← resolveMatching_self]
    exact mem_map_of_mem resolving.present
  have settled : resolvedRow revision updatedAtUnixMs row ∈ (later.reviews kind).threads := by
    rw [reached]
    exact (run_tableLater further soundWritten kind).settled present rfl
  have soundLater : ReviewsSound later.reviews := by
    rw [reached]
    exact run_reviewsSound_of further soundWritten
  have again : (resolveReviewThread store now workspaceId threadId expected later).2 = later ∨ _ :=
    resolveReviewThread_cases expected
  rcases again with kept | ⟨_, _, _, _, _, findsOpen, _⟩
  · exact kept
  have notOpen := not_findsOpen_of_resolved soundLater settled rfl
  simp only [resolvedRow, resolving.workspace, resolving.thread] at notOpen
  exact absurd findsOpen notOpen

def Call.isReviewRequest : Call → Bool
  | .createReviewThread .. | .resolveReviewThread .. => true
  | _ => false

theorem perform_review_error {call : Call} (isRequest : call.isReviewRequest = true)
    (failed : (perform store env tables call).1.isError = true) :
    (perform store env tables call).2 = tables := by
  cases call <;> simp only [Call.isReviewRequest, Bool.false_eq_true] at isRequest
  case createReviewThread workspaceId target author body =>
    simp only [perform] at failed ⊢
    cases outcome : (createReviewThread store env workspaceId target author body tables).1 with
    | error error => exact createReviewThread_error outcome
    | ok thread =>
      rw [outcome] at failed
      cases failed
  case resolveReviewThread workspaceId threadId expectedRevision =>
    simp only [perform] at failed ⊢
    cases outcome : (resolveReviewThread store env workspaceId threadId expectedRevision
        tables).1 with
    | error error => exact resolveReviewThread_error outcome
    | ok thread =>
      rw [outcome] at failed
      cases failed

/-- What holds of the review threads of a state and of every run from it. -/
structure ThreadsKept (store : WorkspaceStore) (tables : Tables) : Prop where
  /-- The threads of a workspace that was created and is not removed are listed. -/
  listed : ∀ workspaceId, Remains tables workspaceId →
    ∃ threads, listReviewThreads store workspaceId tables = .ok threads
  /-- The threads of any other workspace are not found. -/
  missing : ∀ workspaceId, ¬ Remains tables workspaceId →
    listReviewThreads store workspaceId tables = .error (.workspaceNotFound workspaceId)
  /-- Until its workspace is removed, an accepted thread is listed with its target, its author and its
  trimmed body. -/
  created : ∀ env workspaceId target author body thread written,
    createReviewThread store env workspaceId target author body tables = (.ok thread, written) →
      ∀ further, (run store further written).tombstoned workspaceId = false →
        ∃ threads listed comment,
          listReviewThreads store workspaceId (run store further written) = .ok threads ∧
            listed ∈ threads ∧ listed.threadId = thread.threadId ∧ listed.target = target ∧
              listed.comments = [comment] ∧ comment.author = author ∧ comment.body = trim body
  /-- A resolution that takes effect finds an open row at the expected revision, raises it by one and
  leaves everything else. -/
  resolved : ∀ env workspaceId threadId expectedRevision,
    (resolveReviewThread store env workspaceId threadId expectedRevision tables).2 = tables ∨
      ∃ kind, ∃ row : ReviewThreadRow kind.Anchor, ∃ revision updatedAtUnixMs,
        Resolving (tables.reviews kind) workspaceId threadId expectedRevision row revision
          updatedAtUnixMs ∧
          (resolveReviewThread store env workspaceId threadId expectedRevision tables).2 =
            tables.setReviews kind
              { tables.reviews kind with
                threads := (tables.reviews kind).threads.map fun other =>
                  if other.threadId = row.threadId then resolvedRow revision updatedAtUnixMs row
                  else other }
  once : ∀ env workspaceId threadId expectedRevision,
    (resolveReviewThread store env workspaceId threadId expectedRevision tables).2 ≠ tables →
      ∀ further now expected later, later = run store further
          (resolveReviewThread store env workspaceId threadId expectedRevision tables).2 →
        (resolveReviewThread store now workspaceId threadId expected later).2 = later
  settled : ∀ (kind : ReviewKind) (row : ReviewThreadRow kind.Anchor),
    row ∈ (tables.reviews kind).threads → row.state = .resolved →
      ∀ further, row ∈ ((run store further tables).reviews kind).threads
  failed : ∀ env (call : Call), call.isReviewRequest = true →
    (perform store env tables call).1.isError = true → (perform store env tables call).2 = tables

/-- The review threads of a workspace after any run of calls. -/
theorem run_threadsKept (store : WorkspaceStore) (calls : List (Call × CallEnv)) :
    ThreadsKept store (run store calls Tables.empty) := by
  have sound := run_reviewsSound store calls
  have reached := run_reached store calls
  generalize run store calls Tables.empty = tables at sound reached
  refine ⟨?listed, ?missing, ?created, ?resolved, ?once, ?settled, ?failed⟩
  case listed =>
    intro workspaceId remains
    obtain ⟨decoded, required⟩ := live_iff_require.1 (reached.live_iff.2 remains)
    obtain ⟨threads, listing, _⟩ := exists_listReviewThreads sound required
    exact ⟨threads, listing⟩
  case missing =>
    intro workspaceId gone
    simp only [listReviewThreads, reached.require_error gone]
  case created =>
    intro env workspaceId target author body thread written created further remains
    exact created_listed sound created further (live_of_created reached created further remains)
  case resolved =>
    intro env workspaceId threadId expectedRevision
    have outcome : (resolveReviewThread store env workspaceId threadId expectedRevision tables).2 =
        tables ∨ _ := resolveReviewThread_cases expectedRevision
    rcases outcome with kept | ⟨kind, row, revision, updatedAtUnixMs, resolving, _, writes⟩
    · exact .inl kept
    refine .inr ⟨kind, row, revision, updatedAtUnixMs, resolving, ?_⟩
    have rows : (tables.reviews kind).threads.map (resolveMatching row revision updatedAtUnixMs) =
        (tables.reviews kind).threads.map fun other =>
          if other.threadId = row.threadId then resolvedRow revision updatedAtUnixMs row
          else other := by
      apply List.map_congr_left
      intro other member
      by_cases same : other = row
      · rw [if_pos (by rw [same]), same, resolveMatching_self]
      · have different : other.threadId ≠ row.threadId := fun identifier =>
          same ((sound kind).eq_of_threadId member resolving.present identifier)
        rw [if_neg different, (sound kind).resolveMatching_of_ne resolving.present member same]
    rw [writes, rows]
  case once =>
    intro env workspaceId threadId expectedRevision effective further now expected later reached
    exact resolved_once sound effective further now expected later reached
  case settled =>
    intro kind row present resolved further
    exact (run_tableLater further sound kind).settled present resolved
  case failed =>
    intro env call isRequest failed
    exact perform_review_error isRequest failed

/-! ### A creation that is accepted -/

def newThreadRow (kind : ReviewKind) (anchor : kind.Anchor) (threadId workspaceId : Uuid)
    (now : Int64) : ReviewThreadRow kind.Anchor where
  threadId := threadId
  workspaceId := workspaceId
  anchor := anchor
  state := .open
  revision := 1
  createdAtUnixMs := now
  updatedAtUnixMs := now
  resolvedAtUnixMs := none

variable {now : Int64}

theorem checkThreadRow_new (anchor : kind.Anchor) (threadId workspaceId : Uuid)
    (notBefore : ¬ now < 0) :
    checkThreadRow (newThreadRow kind anchor threadId workspaceId now) = true := by
  have nonneg : (0 : Int64) ≤ now := Int64.not_lt.1 notBefore
  have positive : (0 : Int64) < 1 := by decide
  simp [checkThreadRow, newThreadRow, nonneg, positive]

theorem createReviewThread_accepted {anchor : kind.Anchor}
    (live : Live store tables workspaceId) (valid : validateReviewTarget target = .ok ())
    (accepted : normalizeReviewBody body = .ok normalized) (timed : unixTimeMs env = .ok now)
    (room : countThreads tables workspaceId .planning + countThreads tables workspaceId .verification +
      countThreads tables workspaceId .code < maxReviewThreadsPerWorkspace)
    (stored : storedAnchor target = .ok ⟨kind, anchor⟩) (checked : checkAnchor kind anchor = true)
    (printed : sqlLength normalized ≠ 0)
    (newThread : ∀ row ∈ (tables.reviews kind).threads, row.threadId ≠ env.fresh 0)
    (newComment : ∀ row ∈ (tables.reviews kind).comments, row.commentId ≠ env.fresh 1) :
    (createReviewThread store env workspaceId target author body tables).1.isOk = true ∧
      (createReviewThread store env workspaceId target author body tables).2 =
        tables.setReviews kind
          { threads := (tables.reviews kind).threads ++
              [newThreadRow kind anchor (env.fresh 0) workspaceId now]
            comments := (tables.reviews kind).comments ++
              [{ commentId := env.fresh 1, threadId := env.fresh 0, author := author,
                 body := normalized, createdAtUnixMs := now }] } := by
  obtain ⟨decoded, required⟩ := live_iff_require.1 live
  have notBefore := unixTimeMs_notBefore timed
  have row := checkThreadRow_new anchor (env.fresh 0) workspaceId notBefore
  have threadFree : ((tables.reviews kind).threads.any fun other =>
      decide (other.threadId = env.fresh 0)) = false := by
    simpa [any_eq_false] using newThread
  have commentFree : ((tables.reviews kind).comments.any fun other =>
      decide (other.commentId = env.fresh 1)) = false := by
    simpa [any_eq_false] using newComment
  have inserted : insertReviewThread kind (newThreadRow kind anchor (env.fresh 0) workspaceId now)
      { commentId := env.fresh 1, threadId := env.fresh 0, author := author, body := normalized,
        createdAtUnixMs := now } tables = .ok (tables.setReviews kind
          { threads := (tables.reviews kind).threads ++
              [newThreadRow kind anchor (env.fresh 0) workspaceId now]
            comments := (tables.reviews kind).comments ++
              [{ commentId := env.fresh 1, threadId := env.fresh 0, author := author,
                 body := normalized, createdAtUnixMs := now }] }) := by
    have threaded : insertThread kind (newThreadRow kind anchor (env.fresh 0) workspaceId now)
        (tables.reviews kind) = .ok { tables.reviews kind with
            threads := (tables.reviews kind).threads ++
              [newThreadRow kind anchor (env.fresh 0) workspaceId now] } := by
      rw [insertThread, if_neg]
      rintro (unchecked | unchecked | taken)
      · exact unchecked checked
      · exact unchecked row
      exact absurd (threadFree.symm.trans taken) Bool.false_ne_true
    simp only [insertReviewThread, threaded, insertComment]
    rw [if_neg]
    rintro (empty | before | taken)
    · exact printed empty
    · exact notBefore before
    exact absurd (commentFree.symm.trans taken) Bool.false_ne_true
  simp only [newThreadRow] at inserted
  simp only [createReviewThread, valid, accepted, inTransaction, createReviewTransaction, required]
  rw [if_neg (not_le.2 room)]
  simp only [timed, stored, inserted]
  exact ⟨rfl, rfl⟩

theorem live_setReviews {table : ReviewTable kind.Anchor} :
    Live store (tables.setReviews kind table) workspaceId ↔ Live store tables workspaceId :=
  Iff.rfl

def sampleTarget : StoredReviewTarget :=
  .planningDocument "plan"
    "sha256:bbbbbbbbbbbbbbbbbbbbbbbbbbbbbbbbbbbbbbbbbbbbbbbbbbbbbbbbbbbbbbbb" none

def sampleBody : String := " Check this. "

def sampleThreadRow (time : ℕ) (now : Int64) : ReviewThreadRow ReviewKind.planning.Anchor :=
  newThreadRow .planning
    { documentId := "plan"
      documentSha256 := "sha256:bbbbbbbbbbbbbbbbbbbbbbbbbbbbbbbbbbbbbbbbbbbbbbbbbbbbbbbbbbbbbbbb"
      line := none : PlanningAnchor } ((sampleEnv time).fresh 0) 1000 now

def sampleComment (time : ℕ) (now : Int64) : ReviewCommentRow where
  commentId := (sampleEnv time).fresh 1
  threadId := (sampleEnv time).fresh 0
  author := .user
  body := "Check this."
  createdAtUnixMs := now

theorem sample_thread {time : ℕ} (live : Live sampleStore tables 1000)
    (timed : unixTimeMs (sampleEnv time) = .ok now)
    (room : countThreads tables 1000 .planning + countThreads tables 1000 .verification +
      countThreads tables 1000 .code < maxReviewThreadsPerWorkspace)
    (newThread : ∀ row ∈ (tables.reviews .planning).threads,
      row.threadId ≠ (sampleEnv time).fresh 0)
    (newComment : ∀ row ∈ (tables.reviews .planning).comments,
      row.commentId ≠ (sampleEnv time).fresh 1) :
    ∃ thread, createReviewThread sampleStore (sampleEnv time) 1000 sampleTarget .user sampleBody
      tables = (.ok thread, tables.setReviews .planning
        { threads := (tables.reviews .planning).threads ++ [sampleThreadRow time now]
          comments := (tables.reviews .planning).comments ++ [sampleComment time now] }) := by
  have valid : validateReviewTarget sampleTarget = .ok () := by decide
  have accepted : normalizeReviewBody sampleBody = .ok "Check this." := by decide
  have checked : checkAnchor .planning
      { documentId := "plan"
        documentSha256 := "sha256:bbbbbbbbbbbbbbbbbbbbbbbbbbbbbbbbbbbbbbbbbbbbbbbbbbbbbbbbbbbbbbbb"
        line := none : PlanningAnchor } = true := by
    decide
  have printed : sqlLength "Check this." ≠ 0 := by decide
  have outcome : (createReviewThread sampleStore (sampleEnv time) 1000 sampleTarget .user
      sampleBody tables).1.isOk = true ∧ _ :=
    createReviewThread_accepted live valid accepted timed room rfl checked printed newThread
      newComment
  obtain ⟨ok, writes⟩ := outcome
  cases outcome : createReviewThread sampleStore (sampleEnv time) 1000 sampleTarget .user
      sampleBody tables with
  | mk answer written =>
    rw [outcome] at ok writes
    cases answer with
    | error error => cases ok
    | ok thread => exact ⟨thread, congrArg (Prod.mk (Except.ok thread)) writes⟩

/-- The same request is accepted twice, and its thread has another text than the request. -/
theorem repeated_creation_counterexample : ∃ tables thread written,
      run sampleStore [(.create sampleKey sampleRequest, sampleEnv 1)] Tables.empty = tables ∧
        createReviewThread sampleStore (sampleEnv 2) 1000 sampleTarget .user sampleBody tables =
          (.ok thread, written) ∧
        (∃ threads listed comment, listReviewThreads sampleStore 1000 written = .ok threads ∧
          listed ∈ threads ∧ listed.threadId = thread.threadId ∧ listed.comments = [comment] ∧
            comment.body ≠ sampleBody) ∧
        (createReviewThread sampleStore (sampleEnv 3) 1000 sampleTarget .user sampleBody
          written).2 ≠ written ∧ listReviewThreads sampleStore 1 (run sampleStore [] Tables.empty) =
          .error (.workspaceNotFound 1) := by
  obtain ⟨tables, reached, live, _, _, reviews⟩ := sample_created
  have sound : ReviewsSound tables.reviews := by
    rw [← reached]
    exact run_reviewsSound _ _
  have none (kind : ReviewKind) : (tables.reviews kind).threads = [] ∧
      (tables.reviews kind).comments = [] := by
    rw [reviews]
    exact ⟨rfl, rfl⟩
  have secondClock : unixTimeMs (sampleEnv 2) = .ok 2 := by decide
  have thirdClock : unixTimeMs (sampleEnv 3) = .ok 3 := by decide
  obtain ⟨thread, created⟩ := sample_thread live secondClock
    (by simp [countThreads, none, maxReviewThreadsPerWorkspace]) (by simp [none]) (by simp [none])
  refine ⟨tables, thread, _, reached, created, ?_, ?_, rfl⟩
  · obtain ⟨threads, listed, comment, listing, member, id, _, comments, _, body⟩ :=
      created_listed sound created [] (live_setReviews.2 live)
    refine ⟨threads, listed, comment, listing, member, id, comments, ?_⟩
    rw [body]
    decide
  -- the thread that is there has other identifiers than the ones that are drawn now
  generalize after : tables.setReviews .planning _ = written at created ⊢
  have planning : written.reviews .planning =
      { threads := [sampleThreadRow 2 2], comments := [sampleComment 2 2] } := by
    rw [← after, setReviews_self, (none .planning).1, (none .planning).2]
    rfl
  have verification : written.reviews .verification = tables.reviews .verification := by
    rw [← after]
    rfl
  have code : written.reviews .code = tables.reviews .code := by
    rw [← after]
    rfl
  have liveAfter : Live sampleStore written 1000 := by
    rw [← after]
    exact live_setReviews.2 live
  obtain ⟨again, repeated⟩ := sample_thread liveAfter thirdClock
    (by
      simp only [countThreads, planning, verification, code, none]
      decide)
    (by
      simp only [planning, List.mem_singleton]
      rintro row rfl
      decide)
    (by
      simp only [planning, List.mem_singleton]
      rintro row rfl
      decide)
  rw [repeated]
  intro same
  have count := congrArg (fun tables : Tables => (tables.reviews .planning).threads.length) same
  simp [setReviews_self] at count
end Wts.Store
