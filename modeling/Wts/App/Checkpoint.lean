/-
Module: Wts.App.Checkpoint
Purpose: Captures of a worktree, their comparison, and the guarded write of one file.
-/
import Wts.Library.Text

namespace Wts.Checkpoint

open Text
open Std (ExtTreeMap ExtTreeSet)

/-- The errors of `LocalWtsError` that conversations, captures and their records give. -/
inductive LocalWtsError where
  | invalidAgentConversation
  | agentConversationNotFound
  | agentConversationConflict
  | agentConversationBusy
  | agentConversationUnavailable
  | agentConversationStorageFull
  | agentConversationLimit
  | agentConversationPlatformUnavailable
  | verificationCheckUnavailable
  | other
deriving DecidableEq

def eqIgnoreAsciiCase (left right : String) : Bool :=
  toAsciiUppercase left = toAsciiUppercase right

/-- `valid_file_path`; `components` of the Git service has the same checks. -/
def validFilePath (path : String) : Bool :=
  path ≠ "" && path.utf8ByteSize ≤ 4096 && !path.toList.contains '\\' &&
    !path.toList.any isControl && (split '/' path).length ≤ 64 &&
    (split '/' path).all fun part =>
      part ≠ "" && part ≠ "." && part ≠ ".." && !eqIgnoreAsciiCase part ".git"

/-- The contents of a file and its permission bits. -/
structure FileState where
  sha256 : String
  mode : UInt32
deriving DecidableEq

/-- A captured path. Hash and mode are recorded together; a path without them is a tracked file that
is deleted. -/
structure CapturedWorktreeFile where
  state : Option FileState
  unsupported : Bool

structure WorktreeCheckpointCapture where
  headCommitOid : String
  branchName : String
  indexSha256 : String
  files : ExtTreeMap String CapturedWorktreeFile
  omittedFileCount : ℕ
  stable : Bool

/-- `file_state`: an absent path has no state, as a deleted one. -/
def fileState (file : Option CapturedWorktreeFile) : Option FileState :=
  file.bind CapturedWorktreeFile.state

variable (capture : WorktreeCheckpointCapture)

def WorktreeCheckpointCapture.stateAt (path : String) :
    Option FileState :=
  fileState capture.files[path]?

structure CanonicalCapture where
  files : ExtTreeMap String FileState
  headCommitOid : String
  branchName : String
  indexSha256 : String
deriving DecidableEq

def WorktreeCheckpointCapture.complete : Bool :=
  capture.stable && capture.omittedFileCount = 0 &&
    capture.files.toList.all fun entry => !entry.2.unsupported

def canonicalCapture :
    Except LocalWtsError CanonicalCapture :=
  if capture.complete then
    .ok
      { files := capture.files.filterMap fun _ file => file.state
        headCommitOid := capture.headCommitOid
        branchName := capture.branchName
        indexSha256 := capture.indexSha256 }
  else
    .error .agentConversationConflict

def matchesCapture (expected current : WorktreeCheckpointCapture) : Bool :=
  match canonicalCapture expected, canonicalCapture current with
  | .ok left, .ok right => left = right
  | _, _ => false

/-- A capture with the file of one path put in or taken out. -/
def WorktreeCheckpointCapture.override (path : String)
    (file : Option CapturedWorktreeFile) : WorktreeCheckpointCapture :=
  { capture with
    files := match file with
      | some file => capture.files.insert path file
      | none => capture.files.erase path }

/-- The paths of two captures, in order, whose states differ. -/
def changedPaths (before after : WorktreeCheckpointCapture) : List String :=
  (ExtTreeSet.ofList (before.files.keys ++ after.files.keys)).toList.filter fun path =>
    before.stateAt path ≠ after.stateAt path

/-- A capture as `capture_worktree_checkpoint` takes it: a supported path was looked up through
`components`, and of its mode only the permission bits are kept. -/
structure TakenCapture extends WorktreeCheckpointCapture where
  supported : ∀ (path : String) (file : CapturedWorktreeFile), files[path]? = some file →
    file.unsupported = false →
    validFilePath path ∧ ∀ state ∈ file.state, state.mode ≤ 0o777

inductive AgentTurnFileStatus where
  | added
  | modified
  | deleted
  | typeChanged
deriving DecidableEq

/-- A worktree: the identity of its root, if it is a directory, whether Git answers in it, and what a
capture of it shows. -/
structure Worktree where
  identity : Option String
  gitAnswers : Bool
  contents : WorktreeCheckpointCapture

variable (worktree : Worktree)

def targetIdentity : Except LocalWtsError String :=
  match worktree.identity with
  | some identity => .ok identity
  | none => .error .agentConversationUnavailable

theorem targetIdentity_eq_ok {worktree : Worktree} {identity : String} :
    targetIdentity worktree = .ok identity ↔ worktree.identity = some identity := by
  unfold targetIdentity
  cases worktree.identity <;> simp

def captureWorktreeCheckpoint : Option WorktreeCheckpointCapture :=
  if worktree.gitAnswers then some worktree.contents else none

theorem captureWorktreeCheckpoint_eq_some {worktree : Worktree}
    {current : WorktreeCheckpointCapture} : captureWorktreeCheckpoint worktree = some current ↔
      worktree.gitAnswers = true ∧ current = worktree.contents := by
  unfold captureWorktreeCheckpoint
  cases worktree.gitAnswers <;> simp [eq_comm]

/-- The worktree after one file got a state or was removed. -/
def Worktree.withFile (path : String) (state : Option FileState) : Worktree :=
  { worktree with
    contents := worktree.contents.override path
      (state.map fun state => { state := some state, unsupported := false }) }

/-- What `restore_worktree_bytes_checked` requires before it writes: a valid path, a mode exactly when
there are contents, the expected root, and a file in the expected state. -/
def writeAllowed (path : String) (content : Option String)
    (mode : Option UInt32) (expected : Option FileState) (expectedRootIdentity : String) : Bool :=
  validFilePath path && mode.all (fun mode => mode ≤ 0o777) && content.isSome = mode.isSome &&
    worktree.identity = some expectedRootIdentity &&
    (worktree.contents.files[path]?).all (fun file => !file.unsupported) &&
    worktree.contents.stateAt path = expected

/-- The state that contents and a mode give to a file. -/
def writtenState (content : Option String) (mode : Option UInt32) : Option FileState :=
  match content, mode with
  | some sha256, some mode => some { sha256 := sha256, mode := mode }
  | _, _ => none

/-! ### States of captures -/

theorem stateAt_override (path : String) (file : Option CapturedWorktreeFile) (other : String) :
    (capture.override path file).stateAt other =
      if path = other then fileState file else capture.stateAt other := by
  unfold WorktreeCheckpointCapture.stateAt WorktreeCheckpointCapture.override
  cases file with
  | some file =>
    simp only [ExtTreeMap.getElem?_insert, Std.LawfulEqCmp.compare_eq_iff_eq]
    split <;> rfl
  | none =>
    simp only [ExtTreeMap.getElem?_erase, Std.LawfulEqCmp.compare_eq_iff_eq]
    split <;> rfl

theorem complete_iff {capture : WorktreeCheckpointCapture} :
    capture.complete ↔ capture.stable ∧ capture.omittedFileCount = 0 ∧
      ∀ (path : String) (file : CapturedWorktreeFile), capture.files[path]? = some file →
        file.unsupported = false := by
  simp only [WorktreeCheckpointCapture.complete, Bool.and_eq_true, decide_eq_true_eq,
    List.all_eq_true, and_assoc]
  constructor
  · intro ⟨stable, omitted, supported⟩
    refine ⟨stable, omitted, ?_⟩
    intro path file found
    have := supported (path, file) (ExtTreeMap.mem_toList_iff_getElem?_eq_some.2 found)
    simpa using this
  intro ⟨stable, omitted, supported⟩
  refine ⟨stable, omitted, ?_⟩
  intro entry member
  have := supported entry.1 entry.2 (ExtTreeMap.mem_toList_iff_getElem?_eq_some.1 member)
  simpa using this

/-- The Git state that a capture records. -/
def WorktreeCheckpointCapture.sameGit (first second : WorktreeCheckpointCapture) : Prop :=
  first.headCommitOid = second.headCommitOid ∧ first.branchName = second.branchName ∧
    first.indexSha256 = second.indexSha256

theorem matchesCapture_iff {expected current : WorktreeCheckpointCapture} :
    matchesCapture expected current ↔
      expected.complete ∧ current.complete ∧ expected.sameGit current ∧
        ∀ path, expected.stateAt path = current.stateAt path := by
  unfold matchesCapture canonicalCapture
  by_cases left : expected.complete = true
  · by_cases right : current.complete = true
    · simp only [left, right, if_true, decide_eq_true_eq, CanonicalCapture.mk.injEq, true_and]
      have files : (expected.files.filterMap fun _ file => file.state) =
          (current.files.filterMap fun _ file => file.state) ↔
          ∀ path, expected.stateAt path = current.stateAt path := by
        constructor
        · intro same path
          have at_path := congrArg (fun files => files[path]?) same
          simp only [ExtTreeMap.getElem?_filterMap'] at at_path
          exact at_path
        intro same
        apply ExtTreeMap.ext_getElem?
        intro path
        simp only [ExtTreeMap.getElem?_filterMap']
        exact same path
      rw [files]
      constructor
      · intro ⟨states, head, branch, index⟩
        exact ⟨⟨head, branch, index⟩, states⟩
      intro ⟨⟨head, branch, index⟩, states⟩
      exact ⟨states, head, branch, index⟩
    · simp [left, right]
  · simp [left]

theorem mem_changedPaths {before after : WorktreeCheckpointCapture} {path : String} :
    path ∈ changedPaths before after ↔ before.stateAt path ≠ after.stateAt path := by
  unfold changedPaths
  rw [List.mem_filter, ExtTreeSet.mem_toList, ExtTreeSet.mem_ofList, List.contains_iff_mem,
    List.mem_append, ExtTreeMap.mem_keys, ExtTreeMap.mem_keys, decide_eq_true_eq]
  constructor
  · intro ⟨_, differ⟩
    exact differ
  intro differ
  refine ⟨?_, differ⟩
  by_contra absent
  push Not at absent
  apply differ
  unfold WorktreeCheckpointCapture.stateAt
  rw [ExtTreeMap.getElem?_eq_none absent.1, ExtTreeMap.getElem?_eq_none absent.2]

theorem nodup_changedPaths (before after : WorktreeCheckpointCapture) :
    (changedPaths before after).Nodup := by
  apply List.Nodup.filter
  apply ExtTreeSet.distinct_toList.imp
  intro first second distinct same
  apply distinct
  rw [same]
  exact Std.ReflCmp.compare_self

theorem TakenCapture.validFilePath_of_stateAt {capture : TakenCapture}
    (complete : capture.complete) {path : String} {state : FileState}
    (found : capture.stateAt path = some state) : validFilePath path ∧ state.mode ≤ 0o777 := by
  obtain ⟨file, here, hasState⟩ := Option.bind_eq_some_iff.1 found
  have supported := (complete_iff.1 complete).2.2 path file here
  obtain ⟨valid, mode⟩ := capture.supported path file here supported
  exact ⟨valid, mode state hasState⟩

theorem validFilePath_of_mem_changedPaths {before after : TakenCapture}
    (beforeComplete : before.complete) (afterComplete : after.complete) {path : String}
    (changed : path ∈ changedPaths before.toWorktreeCheckpointCapture
      after.toWorktreeCheckpointCapture) : validFilePath path := by
  have differ := mem_changedPaths.1 changed
  cases old : before.stateAt path with
  | some state => exact (before.validFilePath_of_stateAt beforeComplete old).1
  | none =>
    cases new : after.stateAt path with
    | some state => exact (after.validFilePath_of_stateAt afterComplete new).1
    | none => exact absurd (old.trans new.symm) differ

theorem stateAt_withFile (path : String) (state : Option FileState)
    (other : String) : (worktree.withFile path state).contents.stateAt other =
      if path = other then state else worktree.contents.stateAt other := by
  rw [Worktree.withFile, stateAt_override]
  cases state <;> rfl

theorem complete_withFile {worktree : Worktree} (complete : worktree.contents.complete)
    (path : String) (state : Option FileState) :
    (worktree.withFile path state).contents.complete := by
  obtain ⟨stable, omitted, supported⟩ := complete_iff.1 complete
  rw [complete_iff]
  refine ⟨stable, omitted, ?_⟩
  intro other file found
  unfold Worktree.withFile WorktreeCheckpointCapture.override at found
  cases state with
  | some state =>
    simp only [Option.map_some, ExtTreeMap.getElem?_insert, Std.LawfulEqCmp.compare_eq_iff_eq]
      at found
    split at found
    · cases found
      rfl
    · exact supported other file found
  | none =>
    simp only [Option.map_none, ExtTreeMap.getElem?_erase, Std.LawfulEqCmp.compare_eq_iff_eq]
      at found
    split at found
    · cases found
    · exact supported other file found

/-- A capture of one file. -/
def sampleCapture (content : String) : TakenCapture where
  headCommitOid := "head"
  branchName := "main"
  indexSha256 := "index"
  files := (∅ : ExtTreeMap String CapturedWorktreeFile).insert "notes.md"
    { state := some { sha256 := content, mode := 420 }, unsupported := false }
  omittedFileCount := 0
  stable := true
  supported := by
    intro path file found unsupported
    rw [ExtTreeMap.getElem?_insert] at found
    split at found
    · rename_i same
      have here := Std.LawfulEqCmp.compare_eq_iff_eq.1 same
      subst here
      cases found
      refine ⟨by decide, ?_⟩
      intro state same
      cases same
      exact (by decide : (420 : UInt32) ≤ 0o777)
    · rw [ExtTreeMap.getElem?_empty] at found
      cases found

end Wts.Checkpoint
