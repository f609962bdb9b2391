/-
Module: Wts.Integrations.GitlabPatches
Purpose: The patch of a merge request: how it is built from the answers of the provider, with its
  commits and discussions, and how patches are saved in a file and read back.
Trusted boundary: serde_json, whose readings are given; the length of a written file
-/
import Wts.Integrations.GitlabValues

namespace Wts.Gitlab

open Text

structure GitlabReviewCommit where
  oid : String
  parentOid : Option String
  shortId : String
  title : String
  authorName : String
  authoredAt : String

structure GitlabReviewDiscussionComment where
  id : ℕ
  body : String
  authorLogin : String
  createdAt : String

structure GitlabReviewDiscussionPosition where
  baseCommitOid : String
  startCommitOid : String
  headCommitOid : String

structure GitlabReviewDiscussion where
  id : String
  resolvable : Bool
  resolved : Bool
  automated : Bool
  filePath : Option String
  side : Option String
  line : Option ℕ
  comments : List GitlabReviewDiscussionComment
  position : Option GitlabReviewDiscussionPosition

structure GitlabReviewPatch where
  schemaVersion : ℕ
  repositoryId : String
  iid : ℕ
  baseCommitOid : String
  startCommitOid : String
  headCommitOid : String
  selectedCommitOid : Option String
  commits : List GitlabReviewCommit
  discussions : List GitlabReviewDiscussion
  patch : String
  patchTruncated : Bool
  fromCache : Bool
  fetchedAtUnixMs : ℕ

structure ReviewCommitNode where
  id : String
  parentIds : List String
  title : String
  authorName : String
  authoredDate : String

structure ReviewDiscussionPositionNode where
  baseSha : Option String
  startSha : Option String
  headSha : Option String
  oldPath : Option String
  newPath : Option String
  oldLine : Option ℕ
  newLine : Option ℕ

structure ReviewDiscussionNoteNode where
  id : ℕ
  body : String
  authorUsername : String
  createdAt : String
  system : Bool
  resolvable : Bool
  resolved : Option Bool
  position : Option ReviewDiscussionPositionNode

structure ReviewDiscussionNode where
  id : String
  notes : List ReviewDiscussionNoteNode

structure ReviewChange where
  oldPath : String
  newPath : String
  diff : String

structure ReviewChangesResponse where
  baseSha : String
  startSha : String
  headSha : String
  changes : List ReviewChange

def validatedReviewCommit (node : ReviewCommitNode) : Option GitlabReviewCommit := do
  let oid ← validatedOid node.id
  let oid := toAsciiLowercase oid
  let title ← boundedText node.title maxTextChars
  let authorName ← boundedText node.authorName maxTextChars
  let authoredAt ← boundedText node.authoredDate maxTextChars
  some {
    oid := oid
    parentOid := (node.parentIds.head?.bind validatedOid).map toAsciiLowercase
    shortId := String.ofList (oid.toList.take 8)
    title := title
    authorName := authorName
    authoredAt := authoredAt }

def validatedReviewCommits (nodes : List ReviewCommitNode) : List GitlabReviewCommit :=
  (nodes.take maxReviewCommits).filterMap validatedReviewCommit

def isAutomatedUsername (username : String) : Bool :=
  let username := toAsciiLowercase username
  username = "bot" || endsWith "bot" username || endsWith "-bot" username

def validatedComment (note : ReviewDiscussionNoteNode) : Option GitlabReviewDiscussionComment := do
  let body ← boundedText note.body maxReviewCommentChars
  let authorLogin ← validatedUsername note.authorUsername
  let createdAt ← boundedText note.createdAt maxTextChars
  some { id := note.id, body := body, authorLogin := authorLogin, createdAt := createdAt }

/-- The comments of one thread, when `count` comments were taken before. -/
def validatedComments (count : ℕ) :
    List ReviewDiscussionNoteNode → List GitlabReviewDiscussionComment
  | [] => []
  | note :: rest =>
    if note.system ∨ count ≥ maxReviewDiscussionComments ∨ note.id = 0 then
      validatedComments count rest
    else
      match validatedComment note with
      | none => validatedComments count rest
      | some comment => comment :: validatedComments (count + 1) rest

def validatedPosition (node : ReviewDiscussionPositionNode) :
    Option GitlabReviewDiscussionPosition := do
  let base ← node.baseSha.bind validatedOid
  let start ← node.startSha.bind validatedOid
  let head ← node.headSha.bind validatedOid
  some {
    baseCommitOid := toAsciiLowercase base
    startCommitOid := toAsciiLowercase start
    headCommitOid := toAsciiLowercase head }

/-- Where a thread is anchored: the file, the side and the line. -/
def anchorOf (node : ReviewDiscussionPositionNode) : Option String × Option String × Option ℕ :=
  match node.newLine, node.oldLine with
  | some line, _ => (node.newPath.bind validatedFilePath, some "additions", some line)
  | none, some line => (node.oldPath.bind validatedFilePath, some "deletions", some line)
  | none, none => (none, none, none)

/-- A thread, with the comments that are taken of it. -/
def threadOf (node : ReviewDiscussionNode) (comments : List GitlabReviewDiscussionComment) :
    GitlabReviewDiscussion :=
  let anchor := node.notes.findSome? ReviewDiscussionNoteNode.position
  let place := (anchor.map anchorOf).getD (none, none, none)
  let resolvable := node.notes.any ReviewDiscussionNoteNode.resolvable
  { id := node.id
    resolvable := resolvable
    resolved := resolvable &&
      (node.notes.filter ReviewDiscussionNoteNode.resolvable).all fun note =>
        note.resolved.getD false
    automated := comments.all fun comment => isAutomatedUsername comment.authorLogin
    filePath := place.1
    side := place.2.1
    line := place.2.2
    comments := comments
    position := anchor.bind validatedPosition }

def validThreadId (id : String) : Bool :=
  id ≠ "" && id.utf8ByteSize ≤ 128 && !containsAnyChar id ['\x00', '\n', '\r']

/-- The threads, when `count` comments were taken before. -/
def discussionsFrom (count : ℕ) : List ReviewDiscussionNode → List GitlabReviewDiscussion
  | [] => []
  | node :: rest =>
    if validThreadId node.id then
      let comments := validatedComments count node.notes
      if comments = [] then
        discussionsFrom count rest
      else
        threadOf node comments :: discussionsFrom (count + comments.length) rest
    else
      discussionsFrom count rest

def validatedReviewDiscussions (nodes : List ReviewDiscussionNode) : List GitlabReviewDiscussion :=
  discussionsFrom 0 (nodes.take maxReviewDiscussions)

def trimEnd (value : String) : String :=
  String.ofList (value.toList.rdropWhile isWhitespace)

def changeSection (oldPath newPath diff : String) : String :=
  "diff --git a/" ++ oldPath ++ " b/" ++ newPath ++ "\n--- a/" ++ oldPath ++ "\n+++ b/" ++ newPath ++
    "\n" ++ trimEnd diff ++ "\n"

/-- The rest of the patch text after `patch`. -/
def changesFrom (patch : String) : List ReviewChange → Except String (String × Bool)
  | [] => .ok (patch, false)
  | change :: rest =>
    match validatedFilePath change.oldPath, validatedFilePath change.newPath with
    | some oldPath, some newPath =>
      let part := changeSection oldPath newPath change.diff
      if patch.utf8ByteSize + part.utf8ByteSize > glabMaxOutputBytes then
        .ok (patch, true)
      else
        changesFrom (patch ++ part) rest
    | _, _ => .error "providerResponseInvalid"

def reviewChangesPatch (changes : List ReviewChange) : Except String (String × Bool) :=
  changesFrom "" (changes.take 500)

/-- What the provider answers when a patch is fetched from one project. -/
structure PatchAnswers where
  executable : Bool
  commits : Answer (List ReviewCommitNode)
  changes : Answer ReviewChangesResponse
  commitChanges : String → Answer (List ReviewChange)
  discussions : Answer (List ReviewDiscussionNode)
  now : ℕ

/-- The value of an answer, or the error of a failed or unreadable one. -/
def Answer.required {α : Type} : Answer α → Except String α
  | .error _ => .error "providerFailed"
  | .ok none => .error "providerResponseInvalid"
  | .ok (some value) => .ok value

def requiredOid (value : String) : Except String String :=
  match validatedOid value with
  | none => .error "providerResponseInvalid"
  | some oid => .ok oid

/-- The base, start and head of the changes, and the changes. -/
def selectChanges (answers : PatchAnswers) (commits : List GitlabReviewCommit)
    (selectedCommitOid : Option String) :
    Except String (String × String × String × List ReviewChange) :=
  match selectedCommitOid with
  | some selected => do
    let changes ← (answers.commitChanges selected).required
    match commits.find? fun commit => commit.oid = selected with
    | none => .error "invalidCommit"
    | some commit =>
      let parent := commit.parentOid.getD selected
      .ok (parent, parent, selected, changes)
  | none => do
    let response ← answers.changes.required
    .ok (response.baseSha, response.startSha, response.headSha, response.changes)

/-- The closure `fetched` of `fetch_review_patch`. -/
def buildReviewPatch (answers : PatchAnswers) (repositoryId : String) (iid : ℕ)
    (selectedCommitOid : Option String) (cachedPatch : Option GitlabReviewPatch) :
    Except String GitlabReviewPatch := do
  if !answers.executable then
    .error "glabMissing"
  else do
    let commitNodes ← answers.commits.required
    let commits := validatedReviewCommits commitNodes
    if selectedCommitOid.any fun selected => !commits.any fun commit => commit.oid = selected then
      .error "invalidCommit"
    else do
      let (base, start, head, changes) ← selectChanges answers commits selectedCommitOid
      let base ← requiredOid base
      let start ← requiredOid start
      let head ← requiredOid head
      let (patch, truncated) ← reviewChangesPatch changes
      let discussions :=
        match answers.discussions with
        | .ok (some nodes) => validatedReviewDiscussions nodes
        | _ => (cachedPatch.map GitlabReviewPatch.discussions).getD []
      .ok {
        schemaVersion := schemaVersion
        repositoryId := repositoryId
        iid := iid
        baseCommitOid := toAsciiLowercase base
        startCommitOid := toAsciiLowercase start
        headCommitOid := toAsciiLowercase head
        selectedCommitOid := selectedCommitOid
        commits := commits
        discussions := discussions
        patch := patch
        patchTruncated := truncated
        fromCache := false
        fetchedAtUnixMs := answers.now }

/-! ### Saved patches -/

structure ReviewPatchKey where
  repositoryId : String
  iid : ℕ
  selectedCommitOid : Option String
deriving DecidableEq

/-- The order of the key as a tuple; a key without a commit comes first. -/
def ReviewPatchKey.toTuple (key : ReviewPatchKey) : String ×ₗ ℕ ×ₗ WithBot String :=
  toLex (key.repositoryId, toLex (key.iid, key.selectedCommitOid))

theorem ReviewPatchKey.toTuple_injective : Function.Injective ReviewPatchKey.toTuple := by
  rintro ⟨_, _, _⟩ ⟨_, _, _⟩ same
  simp only [ReviewPatchKey.toTuple, EmbeddingLike.apply_eq_iff_eq, Prod.mk.injEq] at same
  obtain ⟨rfl, rfl, sameCommit⟩ := same
  congr

instance : LinearOrder ReviewPatchKey :=
  LinearOrder.lift' ReviewPatchKey.toTuple ReviewPatchKey.toTuple_injective

instance : Std.LawfulEqCmp (compare : ReviewPatchKey → ReviewPatchKey → Ordering) :=
  ⟨fun same => compare_eq_iff_eq.1 same⟩

abbrev ReviewPatches : Type :=
  Std.TreeMap ReviewPatchKey GitlabReviewPatch compare

structure SavedReviewPatchCache where
  schemaVersion : ℕ
  entries : List GitlabReviewPatch

/-- A regular file: its length, and what its bytes are read as. -/
structure CacheFile where
  length : ℕ
  content : Option SavedReviewPatchCache

def savedReviewPatchKey (patch : GitlabReviewPatch) : ReviewPatchKey where
  repositoryId := patch.repositoryId
  iid := patch.iid
  selectedCommitOid := patch.selectedCommitOid

def validSavedCommit (commit : GitlabReviewCommit) : Bool :=
  (validatedOid commit.oid).isSome && commit.parentOid.all (fun oid => (validatedOid oid).isSome) &&
    commit.title.length ≤ maxTextChars && commit.authorName.length ≤ maxTextChars

def validSavedComment (comment : GitlabReviewDiscussionComment) : Bool :=
  0 < comment.id && comment.body.length ≤ maxReviewCommentChars &&
    (validatedUsername comment.authorLogin).isSome && comment.createdAt.length ≤ maxTextChars

def validSavedDiscussion (discussion : GitlabReviewDiscussion) : Bool :=
  discussion.id ≠ "" && discussion.id.utf8ByteSize ≤ 128 &&
    discussion.filePath.all (fun path => (validatedFilePath path).isSome) &&
    discussion.side.all (fun side => side = "additions" || side = "deletions") &&
    discussion.comments.all validSavedComment

def commentCount (discussions : List GitlabReviewDiscussion) : ℕ :=
  (discussions.map fun discussion => discussion.comments.length).sum

def validSavedReviewPatch (patch : GitlabReviewPatch) : Bool :=
  patch.schemaVersion = schemaVersion && patch.repositoryId.utf8ByteSize ≤ maxTextChars &&
    0 < patch.iid && (validatedOid patch.baseCommitOid).isSome &&
    (validatedOid patch.startCommitOid).isSome && (validatedOid patch.headCommitOid).isSome &&
    patch.patch.utf8ByteSize ≤ glabMaxOutputBytes && patch.commits.length ≤ maxReviewCommits &&
    patch.discussions.length ≤ maxReviewDiscussions &&
    commentCount patch.discussions ≤ maxReviewDiscussionComments &&
    patch.commits.all validSavedCommit && patch.discussions.all validSavedDiscussion

/-- The patch as it is held when it was read from the file. -/
def GitlabReviewPatch.cached (patch : GitlabReviewPatch) : GitlabReviewPatch :=
  { patch with fromCache := true }

def loadSavedReviewPatches (file : Option CacheFile) : ReviewPatches :=
  match file with
  | none => ∅
  | some file =>
    if file.length > maxSavedReviewCacheBytes then
      ∅
    else
      match file.content with
      | none => ∅
      | some saved =>
        if saved.schemaVersion ≠ schemaVersion ∨
            saved.entries.length > maxSavedReviewPatches then
          ∅
        else
          (saved.entries.filter validSavedReviewPatch).foldl
            (fun patches patch => patches.insert (savedReviewPatchKey patch) patch.cached) ∅

/-- The patches that are saved: those with the last keys. -/
def savedEntries (patches : ReviewPatches) : SavedReviewPatchCache where
  schemaVersion := schemaVersion
  entries := (patches.toList.map Prod.snd).reverse.take maxSavedReviewPatches

/-- The file after `save_review_patches`, when writing succeeds. -/
def saveReviewPatches (jsonLength : SavedReviewPatchCache → ℕ) (patches : ReviewPatches)
    (file : Option CacheFile) : Option CacheFile :=
  let saved := savedEntries patches
  if jsonLength saved > maxSavedReviewCacheBytes then
    file
  else
    some { length := jsonLength saved, content := some saved }

end Wts.Gitlab
