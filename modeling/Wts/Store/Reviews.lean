/-
Module: Wts.Store.Reviews
Purpose: The review threads of a workspace: their targets and comments as they are validated, stored
  under the CHECK constraints of their tables and decoded again, and the calls that create, resolve
  and list them.
-/
import Wts.Store.Sqlite

namespace Wts.Store

open Text

def maxReviewCommentBytes : ℕ := 16 * 1024
def maxReviewThreadsPerWorkspace : ℕ := 2000

def documentIds : List String :=
  ["readme", "plan", "findings", "kanban", "programBacklog"]

/-- The two ways in which a digest is checked; the target of a document compares the length first. -/
def validDocumentSha256 (value : String) : Bool :=
  value.utf8ByteSize = 71 && startsWith "sha256:" value &&
    (value.toList.drop 7).all isLowercaseHexDigit

def validLine (line : ℕ) : Bool :=
  1 ≤ line && line ≤ 1000000

def isCheckIdChar (c : Char) : Bool :=
  isAsciiAlphanumeric c || c = '-' || c = '_' || c = '.'

def validOid (value : String) : Bool :=
  (value.utf8ByteSize = 40 || value.utf8ByteSize = 64) && value.toList.all isAsciiHexDigit

/-- A relative path whose components are all plain names. A single dot is a component at the start
only; empty pieces and other single dots are not components. -/
def validReviewPath (path : String) : Bool :=
  path ≠ "" && path.utf8ByteSize ≤ 4096 && '\x00' ∉ path.toList && !startsWith "/" path &&
    (split '/' path).head? ≠ some "." && ".." ∉ split '/' path

def sides : List String :=
  ["additions", "deletions"]

def validReviewTarget : StoredReviewTarget → Bool
  | .planningDocument documentId documentSha256 line =>
    documentId ∈ documentIds && validDocumentSha256 documentSha256 &&
      line.all fun line => validLine line.toNat
  | .verificationCheck planRevision completedAtUnixMs checkId =>
    planRevision ≠ 0 && planRevision.toNat ≤ maxInteger && 0 ≤ completedAtUnixMs &&
      checkId ≠ "" && checkId.utf8ByteSize ≤ 128 && checkId.toList.all isCheckIdChar
  | .codeChange repositoryId baseCommitOid headCommitOid patchSha256 filePath side line =>
    repositoryId ≠ "" && trim repositoryId = repositoryId && repositoryId.utf8ByteSize ≤ 512 &&
      validOid baseCommitOid && validOid headCommitOid && validSha256Digest patchSha256 &&
      validReviewPath filePath && side ∈ sides && validLine line.toNat

def validateReviewTarget (target : StoredReviewTarget) : Except WorkspaceStoreError Unit :=
  if validReviewTarget target then .ok () else .error .invalidReviewThread

/-- The limit on the size is on the text before it is trimmed. -/
def normalizeReviewBody (body : String) : Except WorkspaceStoreError String :=
  if body.utf8ByteSize > maxReviewCommentBytes then
    .error .reviewCommentTooLarge
  else if trim body = "" ∨
      (trim body).toList.any (fun c => isControl c && !(c = '\n' || c = '\x0d' || c = '\t')) then
    .error .invalidReviewThread
  else
    .ok (trim body)

/-- `length` counts the characters before the first NUL. -/
def sqlLength (text : String) : ℕ :=
  (text.toList.takeWhile (· ≠ '\x00')).length

/-- `length(x) = 71 AND substr(x, 1, 7) = 'sha256:' AND substr(x, 8) NOT GLOB '*[^0-9a-f]*'`. -/
def checkSha256Column (text : String) : Bool :=
  sqlLength text = 71 && text.toList.take 7 = "sha256:".toList &&
    (text.toList.drop 7).all isLowercaseHexDigit

def checkOidColumn (text : String) : Bool :=
  (sqlLength text = 40 || sqlLength text = 64) && text.toList.all isAsciiHexDigit

/-- The CHECK constraints on the columns of a target. -/
def checkAnchor : (kind : ReviewKind) → kind.Anchor → Bool
  | .planning, anchor =>
    anchor.documentId ∈ documentIds && checkSha256Column anchor.documentSha256 &&
      anchor.line.all fun line => 1 ≤ line && line ≤ 1000000
  | .verification, anchor =>
    0 < anchor.planRevision && 0 ≤ anchor.completedAtUnixMs && 1 ≤ sqlLength anchor.checkId &&
      sqlLength anchor.checkId ≤ 128 && anchor.checkId.toList.all isCheckIdChar
  | .code, anchor =>
    1 ≤ sqlLength anchor.repositoryId && sqlLength anchor.repositoryId ≤ 512 &&
      checkOidColumn anchor.baseCommitOid && checkOidColumn anchor.headCommitOid &&
      checkSha256Column anchor.patchSha256 && 1 ≤ sqlLength anchor.filePath &&
      sqlLength anchor.filePath ≤ 4096 && anchor.side ∈ sides && 1 ≤ anchor.line &&
      anchor.line ≤ 1000000

/-- `u32::try_from` on an integer column. -/
def line32 (line : Int64) : Option UInt32 :=
  if 0 ≤ line ∧ line.toInt < 2 ^ 32 then some (UInt32.ofNat line.toInt.toNat) else none

/-- `u64::try_from` on an integer column. -/
def revision64 (revision : Int64) : Option UInt64 :=
  if 0 ≤ revision then some (UInt64.ofNat revision.toInt.toNat) else none

/-- The table of a target and its columns there. -/
def storedAnchor :
    StoredReviewTarget → Except WorkspaceStoreError ((kind : ReviewKind) × kind.Anchor)
  | .planningDocument documentId documentSha256 line =>
    .ok ⟨.planning,
      { documentId := documentId
        documentSha256 := documentSha256
        line := line.map fun line => Int64.ofNat line.toNat : PlanningAnchor }⟩
  | .verificationCheck planRevision completedAtUnixMs checkId =>
    match integerVersion planRevision with
    | none => .error .invalidReviewThread
    | some planRevision =>
      .ok ⟨.verification,
        { planRevision := planRevision
          completedAtUnixMs := completedAtUnixMs
          checkId := checkId : VerificationAnchor }⟩
  | .codeChange repositoryId baseCommitOid headCommitOid patchSha256 filePath side line =>
    .ok ⟨.code,
      { repositoryId := repositoryId
        baseCommitOid := baseCommitOid
        headCommitOid := headCommitOid
        patchSha256 := patchSha256
        filePath := filePath
        side := side
        line := Int64.ofNat line.toNat : CodeAnchor }⟩

def rowTarget :
    (kind : ReviewKind) → kind.Anchor → Except WorkspaceStoreError StoredReviewTarget
  | .planning, anchor =>
    match anchor.line with
    | none => .ok (.planningDocument anchor.documentId anchor.documentSha256 none)
    | some line =>
      match line32 line with
      | none => .error .invalidReviewThread
      | some line => .ok (.planningDocument anchor.documentId anchor.documentSha256 (some line))
  | .verification, anchor =>
    match revision64 anchor.planRevision with
    | none => .error (.corruptRecord "workspace verification review plan revision is invalid")
    | some planRevision =>
      .ok (.verificationCheck planRevision anchor.completedAtUnixMs anchor.checkId)
  | .code, anchor =>
    match line32 anchor.line with
    | none => .error (.corruptRecord "workspace code review line is invalid")
    | some line =>
      .ok (.codeChange anchor.repositoryId anchor.baseCommitOid anchor.headCommitOid
        anchor.patchSha256 anchor.filePath anchor.side line)

/-- The middle of the messages of a table. -/
def ReviewKind.label : ReviewKind → String
  | .planning => "review"
  | .verification => "verification review"
  | .code => "code review"

def decodeTarget (kind : ReviewKind) (anchor : kind.Anchor) :
    Except WorkspaceStoreError StoredReviewTarget :=
  match rowTarget kind anchor with
  | .error error => .error error
  | .ok target =>
    if validReviewTarget target then .ok target
    else .error (.corruptRecord ("workspace " ++ kind.label ++ " target is invalid"))

/-! ### Reading threads -/

/-- The checks of the state, the revision and the times of a row. -/
def validateReviewThreadMetadata {Anchor : Type} (row : ReviewThreadRow Anchor) :
    Except WorkspaceStoreError UInt64 :=
  match revision64 row.revision with
  | none => .error (.corruptRecord "workspace review thread revision is invalid")
  | some revision =>
    if revision = 0 ∨ row.createdAtUnixMs < 0 ∨ row.updatedAtUnixMs < row.createdAtUnixMs ∨
        (row.resolvedAtUnixMs.any fun resolved => resolved < row.createdAtUnixMs) ∨
        row.state = .open ∧ row.resolvedAtUnixMs.isSome ∨
        row.state = .resolved ∧ row.resolvedAtUnixMs.isNone then
      .error (.corruptRecord "workspace review thread metadata is invalid")
    else
      .ok revision

def decodeComment (row : ReviewCommentRow) : Except WorkspaceStoreError StoredReviewComment :=
  match normalizeReviewBody row.body with
  | .error _ => .error (.corruptRecord "workspace review comment is invalid")
  | .ok body =>
    if body ≠ row.body ∨ row.createdAtUnixMs < 0 then
      .error (.corruptRecord "workspace review comment is invalid")
    else
      .ok
        { commentId := row.commentId
          author := row.author
          body := row.body
          createdAtUnixMs := row.createdAtUnixMs }

def loadReviewComments (comments : List ReviewCommentRow) (threadId : Uuid) :
    Except WorkspaceStoreError (List StoredReviewComment) :=
  (comments.filter fun row => row.threadId = threadId).mapM decodeComment

/-- `load_review_thread`, `load_verification_review_thread` and `load_code_review_thread`. -/
def loadReviewThread (kind : ReviewKind) (tables : Tables) (workspaceId threadId : Uuid) :
    Except WorkspaceStoreError (Option StoredReviewThread) :=
  match (tables.reviews kind).threads.find? fun row =>
      row.workspaceId = workspaceId ∧ row.threadId = threadId with
  | none => .ok none
  | some row =>
  match decodeTarget kind row.anchor with
  | .error error => .error error
  | .ok target =>
  match validateReviewThreadMetadata row with
  | .error error => .error error
  | .ok revision =>
  match loadReviewComments (tables.reviews kind).comments threadId with
  | .error error => .error error
  | .ok comments =>
  if comments = [] then
    .error (.corruptRecord ("workspace " ++ kind.label ++ " thread has no comments"))
  else
    .ok (some
      { threadId := threadId
        workspaceId := workspaceId
        target := target
        state := row.state
        revision := revision
        comments := comments
        createdAtUnixMs := row.createdAtUnixMs
        updatedAtUnixMs := row.updatedAtUnixMs
        resolvedAtUnixMs := row.resolvedAtUnixMs })

/-- The threads of a workspace in one table, the last updated first. -/
def threadIds (kind : ReviewKind) (tables : Tables) (workspaceId : Uuid) : List Uuid :=
  let rows := (tables.reviews kind).threads.filter fun row => row.workspaceId = workspaceId
  let ordered := rows.insertionSort fun left right =>
    right.updatedAtUnixMs < left.updatedAtUnixMs ∨
      right.updatedAtUnixMs = left.updatedAtUnixMs ∧ left.threadId ≤ right.threadId
  ordered.map ReviewThreadRow.threadId

/-- A thread that was listed is read again by its identifier. -/
def loadListedThread (kind : ReviewKind) (tables : Tables) (workspaceId threadId : Uuid) :
    Except WorkspaceStoreError StoredReviewThread :=
  match loadReviewThread kind tables workspaceId threadId with
  | .error error => .error error
  | .ok none =>
    .error (.corruptRecord ("workspace " ++ kind.label ++ " thread disappeared during a read"))
  | .ok (some thread) => .ok thread

/-- `load_review_threads`, `load_verification_review_threads` and `load_code_review_threads`. -/
def loadReviewThreads (kind : ReviewKind) (tables : Tables) (workspaceId : Uuid) :
    Except WorkspaceStoreError (List StoredReviewThread) :=
  (threadIds kind tables workspaceId).mapM (loadListedThread kind tables workspaceId)

variable (store : WorkspaceStore)

def listReviewThreads (workspaceId : Uuid) (tables : Tables) :
    Except WorkspaceStoreError (List StoredReviewThread) :=
  match requireProjection store tables workspaceId with
  | .error error => .error error
  | .ok _ =>
  match loadReviewThreads .planning tables workspaceId with
  | .error error => .error error
  | .ok planning =>
  match loadReviewThreads .verification tables workspaceId with
  | .error error => .error error
  | .ok verification =>
  match loadReviewThreads .code tables workspaceId with
  | .error error => .error error
  | .ok code =>
    .ok ((planning ++ verification ++ code).insertionSort fun left right =>
      right.updatedAtUnixMs < left.updatedAtUnixMs ∨
        right.updatedAtUnixMs = left.updatedAtUnixMs ∧ left.threadId ≤ right.threadId)

/-- The CHECK constraints on the state, the revision and the times of a row. -/
def checkThreadRow {Anchor : Type} (row : ReviewThreadRow Anchor) : Bool :=
  0 < row.revision && 0 ≤ row.createdAtUnixMs && row.createdAtUnixMs ≤ row.updatedAtUnixMs &&
    row.resolvedAtUnixMs.all (fun resolved => row.createdAtUnixMs ≤ resolved) &&
    (row.state = .open && row.resolvedAtUnixMs.isNone ||
      row.state = .resolved && row.resolvedAtUnixMs.isSome)

/-- `INSERT INTO` a table of threads: the identifier is unique. -/
def insertThread (kind : ReviewKind) (row : ReviewThreadRow kind.Anchor)
    (table : ReviewTable kind.Anchor) : Except WorkspaceStoreError (ReviewTable kind.Anchor) :=
  if ¬ checkAnchor kind row.anchor ∨ ¬ checkThreadRow row ∨
      (table.threads.any fun other => other.threadId = row.threadId) then
    .error .database
  else
    .ok { table with threads := table.threads ++ [row] }

def insertComment {Anchor : Type} (row : ReviewCommentRow) (table : ReviewTable Anchor) :
    Except WorkspaceStoreError (ReviewTable Anchor) :=
  if sqlLength row.body = 0 ∨ row.createdAtUnixMs < 0 ∨
      (table.comments.any fun other => other.commentId = row.commentId) then
    .error .database
  else
    .ok { table with comments := table.comments ++ [row] }

/-- One table is replaced. -/
def Tables.setReviews (tables : Tables) (kind : ReviewKind) (table : ReviewTable kind.Anchor) :
    Tables :=
  { tables with reviews := Function.update tables.reviews kind table }

/-- The thread and its first comment. -/
def insertReviewThread (kind : ReviewKind) (row : ReviewThreadRow kind.Anchor)
    (comment : ReviewCommentRow) (tables : Tables) : Except WorkspaceStoreError Tables :=
  match insertThread kind row (tables.reviews kind) with
  | .error error => .error error
  | .ok table =>
  match insertComment comment table with
  | .error error => .error error
  | .ok table => .ok (tables.setReviews kind table)

def countThreads (tables : Tables) (workspaceId : Uuid) (kind : ReviewKind) : ℕ :=
  (tables.reviews kind).threads.countP fun row => row.workspaceId = workspaceId

def createReviewTransaction (env : CallEnv) (workspaceId : Uuid)
    (target : StoredReviewTarget) (author : StoredReviewAuthor) (body : String)
    (tables : Tables) : Except WorkspaceStoreError (StoredReviewThread × Tables) :=
  match requireProjection store tables workspaceId with
  | .error error => .error error
  | .ok _ =>
  if countThreads tables workspaceId .planning + countThreads tables workspaceId .verification +
      countThreads tables workspaceId .code ≥ maxReviewThreadsPerWorkspace then
    .error .invalidReviewThread
  else
    match unixTimeMs env with
    | .error error => .error error
    | .ok createdAtUnixMs =>
    match storedAnchor target with
    | .error error => .error error
    | .ok ⟨kind, anchor⟩ =>
    match insertReviewThread kind
        { threadId := env.fresh 0
          workspaceId := workspaceId
          anchor := anchor
          state := .open
          revision := 1
          createdAtUnixMs := createdAtUnixMs
          updatedAtUnixMs := createdAtUnixMs
          resolvedAtUnixMs := none }
        { commentId := env.fresh 1
          threadId := env.fresh 0
          author := author
          body := body
          createdAtUnixMs := createdAtUnixMs } tables with
    | .error error => .error error
    | .ok tables =>
      .ok
        ({ threadId := env.fresh 0
           workspaceId := workspaceId
           target := target
           state := .open
           revision := 1
           comments :=
            [{ commentId := env.fresh 1, author := author, body := body,
               createdAtUnixMs := createdAtUnixMs }]
           createdAtUnixMs := createdAtUnixMs
           updatedAtUnixMs := createdAtUnixMs
           resolvedAtUnixMs := none }, tables)

def createReviewThread (env : CallEnv) (workspaceId : Uuid)
    (target : StoredReviewTarget) (author : StoredReviewAuthor) (body : String)
    (tables : Tables) : Outcome StoredReviewThread :=
  match validateReviewTarget target with
  | .error error => (.error error, tables)
  | .ok () =>
  match normalizeReviewBody body with
  | .error error => (.error error, tables)
  | .ok body =>
    inTransaction tables (createReviewTransaction store env workspaceId target author body)

def StoredReviewTarget.kind : StoredReviewTarget → ReviewKind
  | .planningDocument .. => .planning
  | .verificationCheck .. => .verification
  | .codeChange .. => .code

/-- The thread with the identifier, from whichever table has it. -/
def findReviewThread (tables : Tables) (workspaceId threadId : Uuid) :
    Except WorkspaceStoreError StoredReviewThread :=
  match loadReviewThread .planning tables workspaceId threadId with
  | .error error => .error error
  | .ok planning =>
  match loadReviewThread .verification tables workspaceId threadId with
  | .error error => .error error
  | .ok verification =>
  match loadReviewThread .code tables workspaceId threadId with
  | .error error => .error error
  | .ok code =>
  if [planning.isSome, verification.isSome, code.isSome].count true > 1 then
    .error (.corruptRecord "workspace review thread identifier is ambiguous")
  else
    match (planning.or verification).or code with
    | none => .error (.reviewThreadNotFound threadId)
    | some thread => .ok thread

def resolvedRow {Anchor : Type} (revision updatedAtUnixMs : Int64) (row : ReviewThreadRow Anchor) :
    ReviewThreadRow Anchor :=
  { row with
    state := .resolved
    revision := revision
    updatedAtUnixMs := updatedAtUnixMs
    resolvedAtUnixMs := some updatedAtUnixMs }

/-- The condition of `UPDATE`. -/
def matchesThread {Anchor : Type} (workspaceId threadId : Uuid) (revision : Int64)
    (row : ReviewThreadRow Anchor) : Bool :=
  row.workspaceId = workspaceId && row.threadId = threadId && row.revision = revision

/-- `UPDATE` of a table of threads, which the CHECK constraints can refuse, and the number of the
rows it changed. -/
def updateResolved (kind : ReviewKind) (workspaceId threadId : Uuid)
    (expected revision updatedAtUnixMs : Int64) (tables : Tables) :
    Except WorkspaceStoreError (ℕ × Tables) :=
  let table := tables.reviews kind
  let chosen := matchesThread workspaceId threadId expected
  if ¬ (table.threads.filter chosen).all fun row =>
      checkThreadRow (resolvedRow revision updatedAtUnixMs row) then
    .error .database
  else
    .ok (table.threads.countP chosen,
      tables.setReviews kind
        { table with
          threads := table.threads.map fun row =>
            if chosen row then resolvedRow revision updatedAtUnixMs row else row })

def resolveReviewTransaction (env : CallEnv) (workspaceId threadId : Uuid)
    (expectedRevision : UInt64) (tables : Tables) :
    Except WorkspaceStoreError (StoredReviewThread × Tables) :=
  match requireProjection store tables workspaceId with
  | .error error => .error error
  | .ok _ =>
  match findReviewThread tables workspaceId threadId with
  | .error error => .error error
  | .ok current =>
  if current.revision ≠ expectedRevision then
    .error (.reviewThreadConflict expectedRevision current.revision)
  else if current.state = .resolved then
    .ok (current, tables)
  else if current.revision.toNat + 1 ≥ 2 ^ 64 then
    .error .invalidReviewThread
  else
    match unixTimeMs env with
    | .error error => .error error
    | .ok updatedAtUnixMs =>
    match integerVersion (current.revision + 1), integerVersion expectedRevision with
    | some revision, some expected =>
      match updateResolved current.target.kind workspaceId threadId expected revision
          updatedAtUnixMs tables with
      | .error error => .error error
      | .ok (changed, tables) =>
        if changed ≠ 1 then
          .error (.reviewThreadConflict expectedRevision current.revision)
        else
          .ok
            ({ current with
               state := .resolved
               revision := current.revision + 1
               updatedAtUnixMs := updatedAtUnixMs
               resolvedAtUnixMs := some updatedAtUnixMs }, tables)
    | _, _ => .error .invalidReviewThread

def resolveReviewThread (env : CallEnv) (workspaceId threadId : Uuid)
    (expectedRevision : UInt64) (tables : Tables) : Outcome StoredReviewThread :=
  if expectedRevision = 0 then
    (.error .invalidReviewThread, tables)
  else
    inTransaction tables (resolveReviewTransaction store env workspaceId threadId expectedRevision)

end Wts.Store
