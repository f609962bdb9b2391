/-
Module: Wts.Proofs.TurnReceipts
Purpose: A receipt in the state `ready` lists exactly the paths whose states differ between its two
  captures.
Trusted boundary: none
Main exports: ready_receipt_complete
-/
import Wts.App.TurnChanges
import Wts.Proofs.TurnRestoreJournal

namespace Wts.TurnChanges

open Checkpoint (LocalWtsError FileState CanonicalCapture TakenCapture AgentTurnFileStatus)
open Integration (AgentTurnCheckpoint)
open TurnRestore (AgentTurnRestoreFile)
open List WorktreeCapture Function
open Std (ExtTreeMap ExtTreeSet)

def jointState : Option String × Option UInt32 → Option FileState
  | (some sha256, some mode) => some { sha256 := sha256, mode := mode }
  | _ => none

theorem jointState_inj {first second : Option String × Option UInt32}
    (firstTogether : first.1.isSome = first.2.isSome)
    (secondTogether : second.1.isSome = second.2.isSome) :
    jointState first = jointState second ↔ first = second := by
  rcases first with ⟨_ | firstHash, _ | firstMode⟩ <;>
    rcases second with ⟨_ | secondHash, _ | secondMode⟩ <;>
    simp_all [jointState]

def toCheckpointFile (file : CapturedWorktreeFile) : Checkpoint.CapturedWorktreeFile where
  state := jointState (file.sha256, file.mode)
  unsupported := file.unsupported

def toCheckpoint (capture : WorktreeCheckpointCapture) : Checkpoint.WorktreeCheckpointCapture where
  headCommitOid := capture.headCommitOid
  branchName := capture.branchName
  indexSha256 := capture.indexSha256
  files := capture.files.map fun _ file => toCheckpointFile file
  omittedFileCount := capture.omittedFileCount
  stable := capture.stable

/-- Every entry of the capture is well formed and every unsupported one is counted. -/
def Sound (capture : WorktreeCheckpointCapture) : Prop :=
  WellFormed capture.files capture.omittedFileCount

theorem getElem?_toCheckpoint (capture : WorktreeCheckpointCapture) (path : String) :
    (toCheckpoint capture).files[path]? = capture.files[path]?.map toCheckpointFile := by
  unfold toCheckpoint
  rw [ExtTreeMap.getElem?_map]

theorem stateAt_toCheckpoint (capture : WorktreeCheckpointCapture) (path : String) :
    (toCheckpoint capture).stateAt path = jointState (stateAt capture path) := by
  unfold Checkpoint.WorktreeCheckpointCapture.stateAt Checkpoint.fileState stateAt fileState
  rw [getElem?_toCheckpoint]
  cases capture.files[path]? with
  | none => rfl
  | some file => rfl

variable {capture : WorktreeCheckpointCapture}

theorem Sound.together (sound : Sound capture)
    (path : String) : (stateAt capture path).1.isSome = (stateAt capture path).2.isSome := by
  unfold stateAt fileState
  cases found : capture.files[path]? with
  | none => rfl
  | some file => exact (sound.entries path file found).together

variable {first second : WorktreeCheckpointCapture}

theorem stateAt_toCheckpoint_inj
    (firstSound : Sound first) (secondSound : Sound second) (path : String) :
    (toCheckpoint first).stateAt path = (toCheckpoint second).stateAt path ↔
      stateAt first path = stateAt second path := by
  rw [stateAt_toCheckpoint, stateAt_toCheckpoint]
  exact jointState_inj (firstSound.together path) (secondSound.together path)

def canonicalJson (capture : CanonicalCapture) : Json :=
  .array [.array (capture.files.toList.map fun (path, state) =>
      .array [.string path, .string state.sha256, .number state.mode.toNat]),
    .string capture.headCommitOid, .string capture.branchName, .string capture.indexSha256]

theorem complete_toCheckpoint (capture : WorktreeCheckpointCapture) :
    (toCheckpoint capture).complete = !(!capture.stable || capture.omittedFileCount ≠ 0 ||
      capture.files.toList.any fun entry => entry.2.unsupported) := by
  have files : ((toCheckpoint capture).files.toList.all fun entry => !entry.2.unsupported) =
      !(capture.files.toList.any fun entry => entry.2.unsupported) := by
    unfold toCheckpoint
    rw [ExtTreeMap.toList_map, all_map, not_any_eq_all_not]
    rfl
  unfold Checkpoint.WorktreeCheckpointCapture.complete
  rw [files]
  simp only [Bool.not_or, Bool.not_not, decide_not]
  rfl

theorem entries_toCheckpoint (sound : Sound capture) :
    ((capture.files.toList.filter fun entry => entry.2.sha256.isSome).map
        fun (path, file) => Json.array [.string path, optionText file.sha256,
          optionMode file.mode]) =
      (((toCheckpoint capture).files.filterMap fun _ file => file.state).toList.map
        fun (path, state) => Json.array [.string path, .string state.sha256,
          .number state.mode.toNat]) := by
  unfold toCheckpoint
  rw [ExtTreeMap.toList_filterMap, ExtTreeMap.toList_map, filterMap_map,
    map_filterMap, ← filterMap_eq_map, ← filterMap_eq_filter,
    filterMap_filterMap]
  apply filterMap_congr
  intro entry member
  have found := ExtTreeMap.mem_toList_iff_getElem?_eq_some.1 member
  have together := (sound.entries entry.1 entry.2 found).together
  obtain ⟨path, file⟩ := entry
  cases hash : file.sha256 with
  | none => simp [hash, toCheckpointFile, jointState]
  | some sha256 =>
    cases bits : file.mode with
    | none => simp [hash, bits] at together
    | some mode => simp [hash, bits, toCheckpointFile, jointState, optionText, optionMode]

theorem canonicalCaptureDigest_eq (sound : Sound capture) : canonicalCaptureDigest capture =
      (Checkpoint.canonicalCapture (toCheckpoint capture)).map
        fun canonical => sha256Json (canonicalJson canonical) := by
  have entries := entries_toCheckpoint sound
  unfold canonicalCaptureDigest Checkpoint.canonicalCapture
  rw [complete_toCheckpoint]
  cases incomplete : (!capture.stable || capture.omittedFileCount ≠ 0 ||
      capture.files.toList.any fun entry => entry.2.unsupported) with
  | true => rfl
  | false =>
    simp only [entries]
    rfl

theorem canonicalCaptureDigest_congr (firstSound : Sound first) (secondSound : Sound second)
    (same : Checkpoint.matchesCapture (toCheckpoint first) (toCheckpoint second) = true) :
    ∃ digest, canonicalCaptureDigest first = .ok digest ∧
      canonicalCaptureDigest second = .ok digest := by
  rw [canonicalCaptureDigest_eq firstSound, canonicalCaptureDigest_eq secondSound]
  unfold Checkpoint.matchesCapture at same
  split at same
  · rename_i left right leftDigest rightDigest
    rw [leftDigest, rightDigest, of_decide_eq_true same]
    exact ⟨_, rfl, rfl⟩
  cases same

/-! ### The comparison -/

def listedFile (before after : WorktreeCheckpointCapture) (path : String) :
    Option AgentTurnChangedFile :=
  if stateAt before path = stateAt after path then none
  else some (changedFile path before.files[path]? after.files[path]?)

/-- What the comparison of files leaves of a receipt as it is. -/
structure SameTurn (first second : AgentTurnChanges) : Prop where
  conversationId : first.conversationId = second.conversationId
  requestId : first.requestId = second.requestId
  sessionId : first.sessionId = second.sessionId
  workspaceId : first.workspaceId = second.workspaceId
  repositoryId : first.repositoryId = second.repositoryId
  sourceContextSha256 : first.sourceContextSha256 = second.sourceContextSha256
  observation : first.observation = second.observation
  before : first.before = second.before
  after : first.after = second.after

theorem SameTurn.refl (receipt : AgentTurnChanges) : SameTurn receipt receipt :=
  ⟨rfl, rfl, rfl, rfl, rfl, rfl, rfl, rfl, rfl⟩

theorem SameTurn.trans {first second third : AgentTurnChanges} (left : SameTurn first second)
    (right : SameTurn second third) : SameTurn first third where
  conversationId := left.conversationId.trans right.conversationId
  requestId := left.requestId.trans right.requestId
  sessionId := left.sessionId.trans right.sessionId
  workspaceId := left.workspaceId.trans right.workspaceId
  repositoryId := left.repositoryId.trans right.repositoryId
  sourceContextSha256 := left.sourceContextSha256.trans right.sourceContextSha256
  observation := left.observation.trans right.observation
  before := left.before.trans right.before
  after := left.after.trans right.after

theorem files_withPatch (receipt : AgentTurnChanges) (patch : String) (truncated : Bool) :
    (receipt.withPatch patch truncated).files = receipt.files := by
  unfold AgentTurnChanges.withPatch
  split
  · rfl
  rfl

theorem sameTurn_withPatch (receipt : AgentTurnChanges) (patch : String) (truncated : Bool) :
    SameTurn receipt (receipt.withPatch patch truncated) := by
  unfold AgentTurnChanges.withPatch
  split
  · exact ⟨rfl, rfl, rfl, rfl, rfl, rfl, rfl, rfl, rfl⟩
  exact ⟨rfl, rfl, rfl, rfl, rfl, rfl, rfl, rfl, rfl⟩

/-- A path of a capture is not there as an unsupported file. -/
def Supported (capture : WorktreeCheckpointCapture) : Prop :=
  ∀ (path : String) (file : CapturedWorktreeFile), capture.files[path]? = some file →
    file.unsupported = false

theorem Supported.any (supported : Supported capture) (path : String) :
    capture.files[path]?.any CapturedWorktreeFile.unsupported = false := by
  cases found : capture.files[path]? with
  | none => rfl
  | some file => exact supported path file found

section Compare

variable {checkpointBlobPatch : String → String → Except GitError (String × Bool)}
variable {before after : WorktreeCheckpointCapture}

variable {receipt : AgentTurnChanges}

theorem comparePath_ok {next : AgentTurnChanges} {omitted left : ℕ} {path : String}
    (step : comparePath checkpointBlobPatch before after (receipt, omitted) path =
      .ok (next, left)) : omitted ≤ left ∧ SameTurn receipt next ∧
      (left = omitted → Supported before → Supported after →
        next.files = receipt.files ++ (listedFile before after path).toList) := by
  unfold comparePath at step
  simp only at step
  split at step
  · rename_i unsupported
    cases step
    refine ⟨le_refl _, SameTurn.refl _, ?_⟩
    intro _ beforeSupported afterSupported
    rw [beforeSupported.any, afterSupported.any] at unsupported
    cases unsupported
  split at step
  · cases step
    refine ⟨Nat.le_succ _, SameTurn.refl _, ?_⟩
    intro same
    exact absurd same (Nat.succ_ne_self _)
  split at step
  · rename_i same
    cases step
    refine ⟨le_refl _, SameTurn.refl _, ?_⟩
    intro _ _ _
    have unlisted : listedFile before after path = none := if_pos same
    rw [unlisted, Option.toList_none, append_nil]
  rename_i differ
  have listed : listedFile before after path =
      some (changedFile path before.files[path]? after.files[path]?) := if_neg differ
  split at step
  · cases step
    refine ⟨le_refl _, ⟨rfl, rfl, rfl, rfl, rfl, rfl, rfl, rfl, rfl⟩, ?_⟩
    intro _ _ _
    rw [listed]
    rfl
  split at step
  · cases step
  cases step
  refine ⟨le_refl _, ?_, ?_⟩
  · refine SameTurn.trans ?_ (sameTurn_withPatch _ _ _)
    exact ⟨rfl, rfl, rfl, rfl, rfl, rfl, rfl, rfl, rfl⟩
  intro _ _ _
  rw [files_withPatch, listed]
  rfl

theorem foldlM_comparePath_ok {listed : List String} {final : AgentTurnChanges} {omitted left : ℕ}
    (run : listed.foldlM (comparePath checkpointBlobPatch before after) (receipt, omitted) =
      .ok (final, left)) : omitted ≤ left ∧ SameTurn receipt final ∧
      (left = omitted → Supported before → Supported after →
        final.files = receipt.files ++ listed.filterMap (listedFile before after)) := by
  induction listed generalizing receipt omitted with
  | nil =>
    cases run
    refine ⟨le_refl _, SameTurn.refl _, ?_⟩
    intro _ _ _
    rw [filterMap_nil, append_nil]
  | cons path rest ih =>
    rw [foldlM_cons] at run
    cases step : comparePath checkpointBlobPatch before after (receipt, omitted) path with
    | error error =>
      rw [step] at run
      cases run
    | ok state =>
      obtain ⟨next, middle⟩ := state
      rw [step] at run
      obtain ⟨grows, sameStart, files⟩ := comparePath_ok step
      obtain ⟨growsRest, sameRest, filesRest⟩ := ih run
      refine ⟨grows.trans growsRest, sameStart.trans sameRest, ?_⟩
      intro unchanged beforeSupported afterSupported
      have stays : middle = omitted := by omega
      have staysRest : left = middle := by omega
      rw [filesRest staysRest beforeSupported afterSupported,
        files stays beforeSupported afterSupported, append_assoc]
      congr 1
      cases lists : listedFile before after path with
      | none =>
        rw [filterMap_cons_none lists]
        rfl
      | some file =>
        rw [filterMap_cons_some lists]
        rfl

theorem buildChanges_ready {built : AgentTurnChanges} (beforeSound : Sound before)
    (afterSound : Sound after)
    (done : buildChanges checkpointBlobPatch before after receipt = .ok built)
    (ready : built.state = .ready) :
    (toCheckpoint before).complete ∧ (toCheckpoint after).complete ∧ SameTurn receipt built ∧
      built.files = receipt.files ++
        (unionPaths before after).toList.filterMap (listedFile before after) := by
  unfold buildChanges at done
  simp only [bind, Except.bind, pure, Except.pure] at done
  split at done
  · cases done
  rename_i state run
  obtain ⟨final, left⟩ := state
  cases done
  have settled : (left = 0 ∧ before.stable = true) ∧ after.stable = true := by
    by_contra open_
    have incomplete : (decide (left = 0) && before.stable && after.stable) = false := by
      rw [Bool.eq_false_iff]
      intro all
      apply open_
      simpa using all
    simp only [incomplete] at ready
    cases ready
  obtain ⟨⟨none, beforeStable⟩, afterStable⟩ := settled
  obtain ⟨grows, same, files⟩ := foldlM_comparePath_ok run
  have counts : before.omittedFileCount = 0 ∧ after.omittedFileCount = 0 ∧
      (unionPaths before after).size ≤ MAX_CHECKPOINT_FILES := by omega
  obtain ⟨beforeCount, afterCount, fits⟩ := counts
  have supported : ∀ capture, Sound capture → capture.omittedFileCount = 0 →
      Supported capture := by
    intro capture sound zero path file found
    by_contra unsupported
    have positive := sound.counted path file found (by simpa using unsupported)
    omega
  have complete : ∀ capture, Sound capture → capture.stable = true →
      capture.omittedFileCount = 0 → (toCheckpoint capture).complete = true := by
    intro capture sound stable zero
    rw [Checkpoint.complete_iff]
    refine ⟨stable, zero, ?_⟩
    intro path file found
    rw [getElem?_toCheckpoint] at found
    obtain ⟨entry, present, rfl⟩ := Option.map_eq_some_iff.1 found
    exact supported capture sound zero path entry present
  have whole : (unionPaths before after).toList.take MAX_CHECKPOINT_FILES =
      (unionPaths before after).toList := by
    apply take_of_length_le
    rw [ExtTreeSet.length_toList]
    exact fits
  refine ⟨complete before beforeSound beforeStable beforeCount,
    complete after afterSound afterStable afterCount,
    same.trans ⟨rfl, rfl, rfl, rfl, rfl, rfl, rfl, rfl, rfl⟩, ?_⟩
  have kept := files (by omega) (supported before beforeSound beforeCount)
    (supported after afterSound afterCount)
  rw [whole] at kept
  exact kept

end Compare

section Listed

variable {before after : WorktreeCheckpointCapture}

variable {path : String}

theorem mem_unionPaths :
    path ∈ (unionPaths before after).toList ↔ path ∈ before.files ∨ path ∈ after.files := by
  unfold unionPaths
  rw [ExtTreeSet.mem_toList, ExtTreeSet.mem_ofList, contains_iff_mem, mem_append,
    ExtTreeMap.mem_keys, ExtTreeMap.mem_keys]

theorem mem_unionPaths_of_ne (differ : stateAt before path ≠ stateAt after path) :
    path ∈ (unionPaths before after).toList := by
  rw [mem_unionPaths]
  by_contra absent
  push Not at absent
  apply differ
  unfold stateAt
  rw [ExtTreeMap.getElem?_eq_none absent.1, ExtTreeMap.getElem?_eq_none absent.2]

theorem map_filePath_filterMap (paths : List String) :
    (paths.filterMap (listedFile before after)).map AgentTurnChangedFile.filePath =
      paths.filter fun path => stateAt before path ≠ stateAt after path := by
  induction paths with
  | nil => rfl
  | cons path rest ih =>
    by_cases same : stateAt before path = stateAt after path
    · have unlisted : listedFile before after path = none := if_pos same
      rw [filterMap_cons_none unlisted, ih, filter_cons_of_neg (by simpa using same)]
    have listed : listedFile before after path =
        some (changedFile path before.files[path]? after.files[path]?) := if_neg same
    rw [filterMap_cons_some listed, map_cons, ih, filter_cons_of_pos (by simpa using same)]
    rfl

theorem nodup_unionPaths : (unionPaths before after).toList.Nodup := by
  apply ExtTreeSet.distinct_toList.imp
  intro first second distinct same
  apply distinct
  rw [same]
  exact Std.ReflCmp.compare_self

/-- The status of a file fits the hashes on both sides; a file without a hash on either is not listed. -/
def StatusFits (status : AgentTurnFileStatus) : Option String → Option String → Prop
  | none, some _ => status = .added
  | some _, none => status = .deleted
  | some _, some _ => status = .modified
  | none, none => False

theorem mem_filterMap_listedFile {paths : List String} {file : AgentTurnChangedFile}
    (member : file ∈ paths.filterMap (listedFile before after)) :
    stateAt before file.filePath ≠ stateAt after file.filePath ∧
      file = changedFile file.filePath before.files[file.filePath]?
        after.files[file.filePath]? := by
  obtain ⟨path, _, listed⟩ := mem_filterMap.1 member
  unfold listedFile at listed
  split at listed
  · cases listed
  rename_i differ
  cases listed
  exact ⟨differ, rfl⟩

theorem statusFits_fileStatus (beforeSound : Sound before)
    (afterSound : Sound after) (differ : stateAt before path ≠ stateAt after path) :
    StatusFits (fileStatus (stateAt before path).1 (stateAt after path).1)
      (stateAt before path).1 (stateAt after path).1 := by
  have beforeTogether := beforeSound.together path
  have afterTogether := afterSound.together path
  cases old : stateAt before path with
  | mk oldHash oldMode =>
    cases new : stateAt after path with
    | mk newHash newMode =>
      rw [old] at beforeTogether differ
      rw [new] at afterTogether differ
      cases oldHash with
      | none =>
        cases newHash with
        | none =>
          -- Without hashes there are no modes, so the states would be one.
          cases oldMode with
          | some mode => cases beforeTogether
          | none =>
            cases newMode with
            | some mode => cases afterTogether
            | none => exact absurd rfl differ
        | some hash => rfl
      | some hash =>
        cases newHash with
        | none => rfl
        | some other => rfl

/-! ### Replacing and restoring -/

theorem getElem?_replaceListed (files : List AgentTurnRestoreFile)
    (expected : WorktreeCheckpointCapture) (path : String) :
    (replaceListed before expected files).files[path]? =
      if path ∈ files.map AgentTurnRestoreFile.filePath then before.files[path]?
      else expected.files[path]? := by
  unfold replaceListed
  induction files generalizing expected with
  | nil => rfl
  | cons file rest ih =>
    rw [foldl_cons, ih, map_cons]
    by_cases later : path ∈ rest.map AgentTurnRestoreFile.filePath
    · rw [if_pos later, if_pos (mem_cons_of_mem _ later)]
    rw [if_neg later]
    by_cases here : file.filePath = path
    · rw [if_pos (by rw [here]; exact mem_cons_self), here]
      cases original : before.files[path]? with
      | none =>
        simp only [ExtTreeMap.getElem?_erase, Std.LawfulEqCmp.compare_eq_iff_eq, if_true]
      | some entry =>
        simp only [ExtTreeMap.getElem?_insert, Std.LawfulEqCmp.compare_eq_iff_eq, if_true]
    have absent : path ∉ file.filePath :: rest.map AgentTurnRestoreFile.filePath := by
      rw [mem_cons, not_or]
      exact ⟨Ne.symm here, later⟩
    rw [if_neg absent]
    cases original : before.files[file.filePath]? with
    | none =>
      simp only [ExtTreeMap.getElem?_erase, Std.LawfulEqCmp.compare_eq_iff_eq, if_neg here]
    | some entry =>
      simp only [ExtTreeMap.getElem?_insert, Std.LawfulEqCmp.compare_eq_iff_eq, if_neg here]

theorem replaceListed_rest (files : List AgentTurnRestoreFile)
    (expected : WorktreeCheckpointCapture) : replaceListed before expected files =
      { expected with files := (replaceListed before expected files).files } := by
  unfold replaceListed
  induction files generalizing expected with
  | nil => rfl
  | cons file rest ih =>
    rw [foldl_cons]
    exact ih _

/-- Two captures show one commit, branch and index. -/
def SameGit (first second : WorktreeCheckpointCapture) : Prop :=
  first.headCommitOid = second.headCommitOid ∧ first.branchName = second.branchName ∧
    first.indexSha256 = second.indexSha256

theorem Supported.of_complete {capture : WorktreeCheckpointCapture}
    (complete : (toCheckpoint capture).complete) : Supported capture := by
  intro path file found
  apply (Checkpoint.complete_iff.1 complete).2.2 path (toCheckpointFile file)
  rw [getElem?_toCheckpoint, found]
  rfl

theorem canonicalCaptureDigest_replaceListed {files : List AgentTurnRestoreFile}
    (beforeSound : Sound before) (afterSound : Sound after)
    (beforeComplete : (toCheckpoint before).complete)
    (afterComplete : (toCheckpoint after).complete) (sameGit : SameGit before after)
    (listed : ∀ path, path ∈ files.map AgentTurnRestoreFile.filePath ↔
      stateAt before path ≠ stateAt after path) :
    ∃ digest, canonicalCaptureDigest before = .ok digest ∧
      canonicalCaptureDigest (replaceListed before after files) = .ok digest := by
  have origin : ∀ (path : String) (file : CapturedWorktreeFile),
      (replaceListed before after files).files[path]? = some file →
      before.files[path]? = some file ∨ after.files[path]? = some file := by
    intro path file found
    rw [getElem?_replaceListed] at found
    split at found
    · exact .inl found
    exact .inr found
  have supported : Supported (replaceListed before after files) := by
    intro path file found
    rcases origin path file found with fromBefore | fromAfter
    · exact Supported.of_complete beforeComplete path file fromBefore
    exact Supported.of_complete afterComplete path file fromAfter
  have sound : Sound (replaceListed before after files) := by
    constructor
    · intro path file found
      rcases origin path file found with fromBefore | fromAfter
      · exact beforeSound.entries path file fromBefore
      exact afterSound.entries path file fromAfter
    intro path file found unsupported
    rw [supported path file found] at unsupported
    cases unsupported
  apply canonicalCaptureDigest_congr beforeSound sound
  obtain ⟨stable, none, _⟩ := Checkpoint.complete_iff.1 afterComplete
  rw [Checkpoint.matchesCapture_iff]
  refine ⟨beforeComplete, ?_, ?_, ?_⟩
  · rw [Checkpoint.complete_iff, replaceListed_rest]
    refine ⟨stable, none, ?_⟩
    intro path file found
    rw [← replaceListed_rest, getElem?_toCheckpoint] at found
    obtain ⟨entry, present, rfl⟩ := Option.map_eq_some_iff.1 found
    exact supported path entry present
  · rw [replaceListed_rest]
    exact sameGit
  intro path
  rw [stateAt_toCheckpoint_inj beforeSound sound]
  have replaced : stateAt (replaceListed before after files) path =
      if path ∈ files.map AgentTurnRestoreFile.filePath then stateAt before path
      else stateAt after path := by
    unfold stateAt
    rw [getElem?_replaceListed]
    split
    · rfl
    rfl
  rw [replaced]
  split
  · rfl
  rename_i unlisted
  rw [listed, not_not] at unlisted
  exact unlisted

theorem foldl_update_apply {κ ι β : Type*} [DecidableEq κ] (key : ι → κ) (value : κ → β)
    (items : List ι) (start : κ → β) (at_ : κ) :
    items.foldl (fun states item => update states (key item) (value (key item))) start at_ =
      if at_ ∈ items.map key then value at_ else start at_ := by
  induction items generalizing start with
  | nil => rfl
  | cons item rest ih =>
    rw [foldl_cons, ih, map_cons]
    by_cases later : at_ ∈ rest.map key
    · rw [if_pos later, if_pos (mem_cons_of_mem _ later)]
    rw [if_neg later]
    by_cases here : at_ = key item
    · rw [here, update_self, if_pos mem_cons_self]
    rw [update_of_ne here, if_neg]
    rw [mem_cons, not_or]
    exact ⟨here, later⟩

theorem applyAction_eq (beforeSound : Sound before) {file : AgentTurnRestoreFile}
    (action : file.action = if (stateAt before file.filePath).1.isSome then .restore else .remove)
    (states : String → Option String × Option UInt32) : applyAction before states file =
      update states file.filePath (stateAt before file.filePath) := by
  have together := beforeSound.together file.filePath
  unfold applyAction
  rw [action]
  cases here : stateAt before file.filePath with
  | mk hash mode =>
    rw [here] at together
    cases hash with
    | some hash => rfl
    | none =>
      cases mode with
      | some mode => cases together
      | none => rfl

end Listed

/-- What a complete receipt is: it lists a path exactly when its states differ, once, with the status
that its hashes have; replacing the listed paths gives the capture from before the task, and so do its
restore actions, which no other path needs. -/
structure CompleteReceipt (receipt : AgentTurnChanges) (before after : WorktreeCheckpointCapture) :
    Prop where
  listed : ∀ path, path ∈ receipt.files.map AgentTurnChangedFile.filePath ↔
    stateAt before path ≠ stateAt after path
  once : (receipt.files.map AgentTurnChangedFile.filePath).Nodup
  status : ∀ file ∈ receipt.files, StatusFits file.status (stateAt before file.filePath).1
    (stateAt after file.filePath).1
  replaced : SameGit before after → ∃ digest, canonicalCaptureDigest before = .ok digest ∧
    canonicalCaptureDigest (replaceListed before after (actions receipt)) = .ok digest
  restored : (actions receipt).foldl (applyAction before) (stateAt after) = stateAt before
  kept : ∀ path, path ∉ receipt.files.map AgentTurnChangedFile.filePath →
    (actions receipt).foldl (applyAction before) (stateAt after) path = stateAt after path ∧
      stateAt before path = stateAt after path

theorem actions_eq (receipt : AgentTurnChanges) :
    actions receipt = receipt.files.map fun file =>
      { filePath := file.filePath
        action := if file.beforeSha256.isSome then .restore else .remove } := by
  unfold actions TurnRestore.actions AgentTurnChanges.restoreView
  rw [map_map]
  rfl

theorem map_filePath_actions (receipt : AgentTurnChanges) :
    (actions receipt).map AgentTurnRestoreFile.filePath =
      receipt.files.map AgentTurnChangedFile.filePath := by
  rw [actions_eq, map_map]
  rfl

theorem completeReceipt_of_ready
    {checkpointBlobPatch : String → String → Except GitError (String × Bool)}
    {before after : WorktreeCheckpointCapture} {receipt built : AgentTurnChanges}
    (beforeSound : Sound before) (afterSound : Sound after) (noFiles : receipt.files = [])
    (done : buildChanges checkpointBlobPatch before after receipt = .ok built)
    (ready : built.state = .ready) : CompleteReceipt built before after := by
  obtain ⟨beforeComplete, afterComplete, _, files⟩ :=
    buildChanges_ready beforeSound afterSound done ready
  rw [noFiles, nil_append] at files
  have paths : built.files.map AgentTurnChangedFile.filePath =
      (unionPaths before after).toList.filter
        fun path => stateAt before path ≠ stateAt after path := by
    rw [files, map_filePath_filterMap]
  have listed : ∀ path, path ∈ built.files.map AgentTurnChangedFile.filePath ↔
      stateAt before path ≠ stateAt after path := by
    intro path
    rw [paths, mem_filter, decide_eq_true_eq]
    constructor
    · intro ⟨_, differ⟩
      exact differ
    intro differ
    exact ⟨mem_unionPaths_of_ne differ, differ⟩
  have result : (actions built).foldl (applyAction before) (stateAt after) = stateAt before := by
    have acts : ∀ states : String → Option String × Option UInt32, ∀ file ∈ actions built,
        applyAction before states file =
          update states file.filePath (stateAt before file.filePath) := by
      intro states file member
      apply applyAction_eq beforeSound
      rw [actions_eq, files] at member
      obtain ⟨line, isLine, rfl⟩ := mem_map.1 member
      have same := (mem_filterMap_listedFile isLine).2
      have hash : line.beforeSha256 = (stateAt before line.filePath).1 :=
        congrArg AgentTurnChangedFile.beforeSha256 same
      rw [hash]
    rw [foldl_ext _ _ _ acts]
    funext path
    rw [foldl_update_apply, map_filePath_actions]
    split
    · rfl
    rename_i unlisted
    rw [listed, not_not] at unlisted
    exact unlisted.symm
  constructor
  case listed => exact listed
  case once =>
      rw [paths]
      exact nodup_unionPaths.filter _
  case status =>
      intro file member
      rw [files] at member
      obtain ⟨differ, same⟩ := mem_filterMap_listedFile member
      have status : file.status = fileStatus (stateAt before file.filePath).1
          (stateAt after file.filePath).1 := congrArg AgentTurnChangedFile.status same
      rw [status]
      exact statusFits_fileStatus beforeSound afterSound differ
  case replaced =>
      intro sameGit
      apply canonicalCaptureDigest_replaceListed beforeSound afterSound beforeComplete
        afterComplete sameGit
      intro path
      rw [map_filePath_actions]
      exact listed path
  case restored => exact result
  case kept =>
      intro path unlisted
      rw [listed, not_not] at unlisted
      exact ⟨(congrFun result path).trans unlisted, unlisted⟩

variable {directory directory' : BlobDirectory}

variable {checkpoint : AgentTurnCheckpoint}

theorem sound_persistCapture {checkpointId : Uuid}
    {clock : Int64} {persisted : WorktreeCheckpointCapture} (sound : Sound capture)
    (done : persistCapture directory checkpointId clock capture =
      .ok (directory', checkpoint, persisted)) : Sound persisted := by
  unfold persistCapture at done
  simp only [bind, Except.bind, pure, Except.pure] at done
  split at done
  · cases done
  cases done
  have origin : ∀ (path : String) (file : CapturedWorktreeFile),
      (capture.files.map fun _ file => withoutContent file)[path]? = some file →
      ∃ entry, capture.files[path]? = some entry ∧ file = withoutContent entry := by
    intro path file found
    rw [ExtTreeMap.getElem?_map] at found
    obtain ⟨entry, present, same⟩ := Option.map_eq_some_iff.1 found
    exact ⟨entry, present, same.symm⟩
  have unsupported : ∀ entry, (withoutContent entry).unsupported = entry.unsupported := by
    intro entry
    unfold withoutContent
    split
    · rfl
    rfl
  constructor
  case entries =>
      intro path file found
      obtain ⟨entry, present, rfl⟩ := origin path file found
      have wellFormed := sound.entries path entry present
      unfold withoutContent
      split
      · exact ⟨wellFormed.named, wellFormed.together, wellFormed.valid, wellFormed.permissions⟩
      exact ⟨wellFormed.named, wellFormed.together, wellFormed.valid, wellFormed.permissions⟩
  case counted =>
      intro path file found isUnsupported
      obtain ⟨entry, present, rfl⟩ := origin path file found
      rw [unsupported] at isUnsupported
      exact sound.counted path entry present isUnsupported

/-- A turn that began: its receipt is open and lists nothing, and the capture before it is sound. -/
structure Begun (stored : StoredTurn) : Prop where
  noFiles : stored.receipt.files = []
  open_ : stored.receipt.completedAtUnixMs = none
  before : ∀ capture ∈ stored.before, Sound capture
  after : stored.after = none

variable {env : CaptureEnv} {stored : StoredTurn}

theorem begun_beginTurnCapture {origin : TurnOrigin} {target : String}
    (began : beginTurnCapture env directory origin target = .ok (directory', stored)) :
    Begun stored := by
  unfold beginTurnCapture at began
  simp only [bind, Except.bind, pure, Except.pure] at began
  split at began
  · cases began
  split at began
  · cases began
  split at began
  · rename_i capture taken
    split at began
    · cases began
    rename_i result persisted
    cases began
    refine ⟨rfl, rfl, ?_, rfl⟩
    intro capture' same
    cases same
    exact sound_persistCapture (wellFormed_captureWorktreeCheckpoint taken) persisted
  cases began
  refine ⟨rfl, rfl, ?_, rfl⟩
  intro capture same
  cases same

theorem keepAfter_ok {kept : StoredTurn} (noAfter : stored.after = none)
    (done : keepAfter env directory stored = .ok (directory', kept)) :
    kept.before = stored.before ∧ kept.receipt.files = stored.receipt.files ∧
      ∀ capture ∈ kept.after, Sound capture := by
  unfold keepAfter at done
  cases captured : capturedAfter env stored with
  | none =>
    rw [captured] at done
    cases done
    refine ⟨rfl, rfl, ?_⟩
    intro capture same
    rw [noAfter] at same
    cases same
  | some capture =>
    have sound : Sound capture := by
      unfold capturedAfter at captured
      split at captured
      · cases taken : captureWorktreeCheckpoint env.repository env.later with
        | error error =>
          rw [taken] at captured
          cases captured
        | ok result =>
          rw [taken] at captured
          cases captured
          exact wellFormed_captureWorktreeCheckpoint taken
      cases captured
    rw [captured] at done
    simp only at done
    split at done
    · cases done
    rename_i persisted
    cases done
    refine ⟨rfl, rfl, ?_⟩
    intro capture' same
    cases same
    exact sound_persistCapture sound persisted

theorem finishTurnCaptureInner_ready
    {checkpointBlobPatch : String → String → Except GitError (String × Bool)}
    {recovered : Bool} {done : StoredTurn} (begun : Begun stored)
    (finished : finishTurnCaptureInner checkpointBlobPatch env recovered directory stored =
      .ok (directory', done)) (ready : done.receipt.state = .ready) :
    ∃ before after receipt, done.before = some before ∧ done.after = some after ∧
      Sound before ∧ Sound after ∧ receipt.files = [] ∧
      buildChanges checkpointBlobPatch before after receipt = .ok done.receipt := by
  unfold finishTurnCaptureInner at finished
  rw [begun.open_] at finished
  simp only [Option.isSome_none, Bool.false_eq_true, if_false, bind, Except.bind, pure,
    Except.pure] at finished
  split at finished
  · cases finished
  rename_i result captured
  obtain ⟨directory₁, kept⟩ := result
  obtain ⟨sameBefore, sameFiles, afterSound⟩ := keepAfter_ok (by exact begun.after) captured
  simp only at finished
  split at finished
  · cases finished
  rename_i compared comparison
  cases finished
  unfold compareStored at comparison
  split at comparison
  · rename_i before after hasBefore hasAfter
    split at comparison
    · cases comparison
    rename_i receipt built
    cases comparison
    refine ⟨before, after, kept.receipt, hasBefore, hasAfter, ?_, ?_, ?_, built⟩
    · exact begun.before before (sameBefore.symm.trans hasBefore)
    · exact afterSound after hasAfter
    exact sameFiles.trans begun.noFiles
  cases comparison
  cases ready

/-! ### A sample -/

def sampleRepository (source : Option (List UInt8 × UInt32)) : Repository where
  git := fun args => .ok
    { success := true
      stdoutTruncated := false
      stdout := if "--cached" ∈ args then [110, 0] else [] }
  openFile := fun _ => .ok source

def sampleMetadata : Metadata where
  head := ""
  branch := ""
  index := digest []
  files := ExtTreeSet.ofList ["n"]

theorem metadata_sampleRepository (source : Option (List UInt8 × UInt32)) :
    metadata (sampleRepository source) = .ok sampleMetadata := rfl

theorem toList_sample : sampleMetadata.files.toList.take MAX_CHECKPOINT_FILES = ["n"] := by
  decide

theorem size_sample : sampleMetadata.files.size - MAX_CHECKPOINT_FILES = 0 := by
  decide

def sampleDirty : ExtTreeSet String :=
  ExtTreeSet.ofList ([] : List String) ∪ ExtTreeSet.ofList ([] : List String)

theorem dirtyPaths_sampleRepository (source : Option (List UInt8 × UInt32)) :
    dirtyPaths (sampleRepository source) = .ok sampleDirty := rfl

def absentFile : CapturedWorktreeFile := emptyFile sampleDirty "n"

def presentFile : CapturedWorktreeFile :=
  { emptyFile sampleDirty "n" with
    content := some "hi", sha256 := some (digest [104, 105]), mode := some 0o644 }

def sampleCapture (file : CapturedWorktreeFile) : WorktreeCheckpointCapture where
  headCommitOid := ""
  branchName := ""
  indexSha256 := digest []
  files := (∅ : ExtTreeMap String CapturedWorktreeFile).insert "n" file
  omittedFileCount := 0
  stable := true

theorem toList_sampleCapture (file : CapturedWorktreeFile) :
    (sampleCapture file).files.toList = [("n", file)] := rfl

theorem captureWorktreeCheckpoint_sample {source : Option (List UInt8 × UInt32)}
    {file : CapturedWorktreeFile} {total : ℕ}
    (step : captureFile (sampleRepository source) sampleDirty
      { files := ∅, omitted := 0, total := 0 } "n" =
        .ok { files := (sampleCapture file).files, omitted := 0, total := total })
    (still : stableFile (sampleRepository source) file = true) :
    captureWorktreeCheckpoint (sampleRepository source) (sampleRepository source) =
      .ok (sampleCapture file) := by
  unfold captureWorktreeCheckpoint
  rw [metadata_sampleRepository, dirtyPaths_sampleRepository]
  simp only [bind, Except.bind, pure, Except.pure]
  rw [toList_sample, size_sample, foldlM_cons, step]
  simp only [bind, Except.bind, pure, Except.pure, foldlM_nil, toList_sampleCapture,
    all_cons, all_nil, still, Bool.or_true, decide_true, Bool.and_true]
  rfl

theorem capture_absent : captureWorktreeCheckpoint (sampleRepository none) (sampleRepository none) =
      .ok (sampleCapture absentFile) := by
  have step : captureFile (sampleRepository none) sampleDirty
      { files := ∅, omitted := 0, total := 0 } "n" =
        .ok { files := (sampleCapture absentFile).files, omitted := 0, total := 0 } := rfl
  exact captureWorktreeCheckpoint_sample step rfl

theorem capture_present : captureWorktreeCheckpoint (sampleRepository (some ([104, 105], 0o644)))
    (sampleRepository (some ([104, 105], 0o644))) = .ok (sampleCapture presentFile) := by
  have step : captureFile (sampleRepository (some ([104, 105], 0o644))) sampleDirty
      { files := ∅, omitted := 0, total := 0 } "n" =
        .ok { files := (sampleCapture presentFile).files, omitted := 0, total := 2 } := rfl
  apply captureWorktreeCheckpoint_sample step
  · have again : checkpointSourceDigest (sampleRepository (some ([104, 105], 0o644))) "n" =
        .ok (some (digest [104, 105], 0o644)) := rfl
    have path : presentFile.filePath = "n" := rfl
    unfold stableFile
    rw [path, again]
    simp [presentFile]

def sampleEnv (source : Option (List UInt8 × UInt32)) : CaptureEnv where
  identity := .ok "root"
  repository := sampleRepository source
  later := sampleRepository source
  checkpointId := 7
  clock := 20

def sampleOrigin : TurnOrigin where
  conversationId := 1
  requestId := 2
  sessionId := 3
  workspaceId := 4
  repositoryId := "repo"
  sourceContextSha256 := "context"
  createdAtUnixMs := 10

def emptyDirectory : BlobDirectory where
  blobs := fun _ => none
  writable := fun _ => true

def sampleCheckpoint (capture : WorktreeCheckpointCapture) : AgentTurnCheckpoint where
  checkpointId := 7
  headCommitOid := ""
  branchName := ""
  capturedAtUnixMs := 20
  treeSha256 := treeSha256 capture
  indexSha256 := digest []

def sampleStored : StoredTurn where
  receipt := { unavailable sampleOrigin with
    before := some (sampleCheckpoint (sampleCapture absentFile))
    state := .capturing
    detail := COVERAGE }
  target := "/task"
  targetIdentity := "root"
  before := some (sampleCapture absentFile)
  after := none

def sampleAfter : WorktreeCheckpointCapture :=
  sampleCapture { presentFile with content := none }

theorem persist_present : ∃ directory,
    persistCapture emptyDirectory 7 20 (sampleCapture presentFile) =
      .ok (directory, sampleCheckpoint sampleAfter, sampleAfter) :=
  ⟨_, rfl⟩

theorem begin_sample : ∃ directory,
    beginTurnCapture (sampleEnv none) emptyDirectory sampleOrigin "/task" =
      .ok (directory, sampleStored) := by
  have taken := capture_absent
  unfold beginTurnCapture sampleEnv
  simp only [taken]
  exact ⟨_, rfl⟩

def noPatch (_ _ : String) : Except GitError (String × Bool) := .ok ("", false)

def sampleLine : AgentTurnChangedFile :=
  changedFile "n" (some absentFile) (some { presentFile with content := none })

theorem comparePath_sample (receipt : AgentTurnChanges) : ∃ next,
    comparePath noPatch (sampleCapture absentFile) sampleAfter (receipt, 0) "n" = .ok (next, 0) :=
  ⟨AgentTurnChanges.withPatch { receipt with files := receipt.files ++ [sampleLine] }
    (filePatch "n" (some absentFile) (some { presentFile with content := none }) "") false, rfl⟩

theorem buildChanges_sample (receipt : AgentTurnChanges) : ∃ built,
    buildChanges noPatch (sampleCapture absentFile) sampleAfter receipt = .ok built ∧
      built.state = .ready := by
  obtain ⟨next, step⟩ := comparePath_sample receipt
  have run : ((unionPaths (sampleCapture absentFile) sampleAfter).toList.take
      MAX_CHECKPOINT_FILES).foldlM (comparePath noPatch (sampleCapture absentFile) sampleAfter)
      (receipt, max (sampleCapture absentFile).omittedFileCount sampleAfter.omittedFileCount +
        ((unionPaths (sampleCapture absentFile) sampleAfter).size - MAX_CHECKPOINT_FILES)) =
      .ok (next, 0) := by
    change ["n"].foldlM (comparePath noPatch (sampleCapture absentFile) sampleAfter)
      (receipt, 0) = .ok (next, 0)
    rw [foldlM_cons, step]
    rfl
  unfold buildChanges
  simp only [run, bind, Except.bind, pure, Except.pure]
  exact ⟨_, rfl, rfl⟩

theorem capturedAfter_sample (stored : StoredTurn) (same : stored.targetIdentity = "root") :
    capturedAfter (sampleEnv (some ([104, 105], 0o644))) stored =
      some (sampleCapture presentFile) := by
  have taken := capture_present
  unfold capturedAfter sampleEnv
  simp only [taken, same]
  rfl

theorem finishTurnCaptureInner_of_built
    {checkpointBlobPatch : String → String → Except GitError (String × Bool)} {env : CaptureEnv}
    {recovered : Bool} {directory directory' : BlobDirectory} {stored : StoredTurn}
    {capture before after : WorktreeCheckpointCapture}
    {built : AgentTurnChanges} (open_ : stored.receipt.completedAtUnixMs = none)
    (hasBefore : stored.before = some before) (captured : capturedAfter env stored = some capture)
    (persisted : persistCapture directory env.checkpointId env.clock capture =
      .ok (directory', checkpoint, after)) (compared : buildChanges checkpointBlobPatch before after
      { stored.receipt with
        observation := if recovered then .recovered else .normal
        completedAtUnixMs := some env.clock
        after := some checkpoint } = .ok built) :
    finishTurnCaptureInner checkpointBlobPatch env recovered directory stored =
      .ok (directory', { stored with receipt := built, after := some after }) := by
  obtain ⟨receipt, target, identity, saved, later⟩ := stored
  cases hasBefore
  have sameCapture : ∀ receipt, capturedAfter env ⟨receipt, target, identity, some before, later⟩ =
      some capture := fun _ => captured
  unfold finishTurnCaptureInner keepAfter compareStored
  simp only at open_ compared
  simp only [open_, Option.isSome_none, Bool.false_eq_true, if_false, sameCapture, persisted,
    bind, Except.bind, pure, Except.pure, compared]

theorem finish_sample (stored : StoredTurn) (open_ : stored.receipt.completedAtUnixMs = none)
    (hasBefore : stored.before = some (sampleCapture absentFile))
    (root : stored.targetIdentity = "root") : ∃ directory done,
      finishTurnCaptureInner noPatch (sampleEnv (some ([104, 105], 0o644))) false emptyDirectory
        stored = .ok (directory, done) ∧ done.receipt.state = .ready := by
  obtain ⟨directory, persisted⟩ := persist_present
  obtain ⟨built, compared, ready⟩ := buildChanges_sample { stored.receipt with
      observation := .normal
      completedAtUnixMs := some 20
      after := some (sampleCheckpoint sampleAfter) }
  exact ⟨directory, _, finishTurnCaptureInner_of_built open_ hasBefore
    (capturedAfter_sample stored root) persisted compared, ready⟩

/-- A turn that began and ended with a ready receipt has a complete one, whatever the worktree was
before and after the task. -/
theorem ready_receipt_complete
    {checkpointBlobPatch : String → String → Except GitError (String × Bool)}
    {first last : CaptureEnv} {recovered : Bool} {origin : TurnOrigin} {target : String}
    {directory directory₁ directory₂ directory₃ : BlobDirectory} {stored done : StoredTurn}
    (began : beginTurnCapture first directory origin target = .ok (directory₁, stored))
    (finished : finishTurnCaptureInner checkpointBlobPatch last recovered directory₂ stored =
      .ok (directory₃, done)) (ready : done.receipt.state = .ready) :
    ∃ before after, done.before = some before ∧ done.after = some after ∧
      CompleteReceipt done.receipt before after := by
  obtain ⟨before, after, receipt, hasBefore, hasAfter, beforeSound, afterSound, noFiles, built⟩ :=
    finishTurnCaptureInner_ready (begun_beginTurnCapture began) finished ready
  exact ⟨before, after, hasBefore, hasAfter,
    completeReceipt_of_ready beforeSound afterSound noFiles built ready⟩

theorem ready_receipt_complete_sample : ∃ (stored done : StoredTurn)
    (before after : WorktreeCheckpointCapture),
    stored.before = some (sampleCapture absentFile) ∧ done.receipt.state = .ready ∧
      done.before = some before ∧ done.after = some after ∧
      CompleteReceipt done.receipt before after := by
  obtain ⟨directory, began⟩ := begin_sample
  obtain ⟨directory', done, finished, ready⟩ := finish_sample sampleStored rfl rfl rfl
  obtain ⟨before, after, hasBefore, hasAfter, complete⟩ :=
    ready_receipt_complete began finished ready
  exact ⟨sampleStored, done, before, after, rfl, ready, hasBefore, hasAfter, complete⟩

end Wts.TurnChanges
