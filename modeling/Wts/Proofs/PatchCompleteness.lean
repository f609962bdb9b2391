/-
Module: Wts.Proofs.PatchCompleteness
Purpose: When a fetched patch that is not marked as truncated has every line of the changes.
Trusted boundary: none
Main exports: patch_complete_iff
-/
import Wts.Integrations.WorkspacePatches
import Wts.Proofs.GitlabPatches

namespace Wts.Gitlab

open List Text Interrupt

/-! ### The parts of a patch -/

variable (change : ReviewChange)

/-- The part of the patch text that is made for a change. -/
def sectionOf : String :=
  changeSection change.oldPath change.newPath change.diff

def sectionHeader : String :=
  "diff --git a/" ++ change.oldPath ++ " b/" ++ change.newPath ++ "\n--- a/" ++ change.oldPath ++
    "\n+++ b/" ++ change.newPath ++ "\n"

/-- The lines of a text, the last one terminated too. -/
def terminated (text : List Char) : List Char :=
  if text.getLast? = some '\n' then text else text ++ ['\n']

/-- A part with every line of the change. -/
def fullSection : List Char :=
  (sectionHeader change).toList ++ terminated change.diff.toList

/-- No whitespace stands at the end of the difference, one line end apart. -/
def Tidy : Prop :=
  change.diff = trimEnd change.diff ∨ change.diff = trimEnd change.diff ++ "\n"

/-- The parts for the first 500 changes do not fit. -/
def TooLarge (changes : List ReviewChange) : Prop :=
  glabMaxOutputBytes < ((changes.take 500).map fun change => (sectionOf change).utf8ByteSize).sum

theorem terminated_ne_nil (text : List Char) : terminated text ≠ [] := by
  rw [terminated]
  split
  · rename_i ends
    rintro rfl
    cases ends
  simp

theorem toList_sectionOf : (sectionOf change).toList =
    (sectionHeader change).toList ++ (change.diff.toList.rdropWhile isWhitespace ++ ['\n']) := by
  have parts : sectionOf change = sectionHeader change ++ trimEnd change.diff ++ "\n" := rfl
  have body : (trimEnd change.diff).toList = change.diff.toList.rdropWhile isWhitespace :=
    String.toList_ofList
  rw [parts, String.toList_append, String.toList_append, body, append_assoc]
  rfl

/-- Only what is not tidy loses characters. -/
theorem terminated_cases (text : List Char) :
    (text = text.rdropWhile isWhitespace ∨ text = text.rdropWhile isWhitespace ++ ['\n']) ∧
        text.rdropWhile isWhitespace ++ ['\n'] = terminated text ∨
      ¬ (text = text.rdropWhile isWhitespace ∨ text = text.rdropWhile isWhitespace ++ ['\n']) ∧
        (text.rdropWhile isWhitespace ++ ['\n']).length < (terminated text).length := by
  obtain ⟨cut, whole⟩ := rdropWhile_prefix isWhitespace text
  generalize kept : text.rdropWhile isWhitespace = rest at whole
  subst whole
  rcases eq_nil_or_concat' cut with rfl | ⟨others, last, rfl⟩
  · have plain : rest.getLast? ≠ some '\n' := by
      intro ends
      obtain ⟨front, rfl⟩ := getLast?_eq_some_iff.1 ends
      have shorter := congrArg List.length kept
      rw [append_nil, rdropWhile_concat_pos _ _ _ (by decide)] at shorter
      have bound := (List.rdropWhile_prefix isWhitespace front).length_le
      simp at shorter
      omega
    left
    simp [terminated, plain]
  by_cases feed : last = '\n'
  · subst feed
    have ends : (rest ++ (others ++ ['\n'])).getLast? = some '\n' := by
      rw [← append_assoc, getLast?_concat]
    rw [terminated, if_pos ends]
    cases others with
    | nil => simp
    | cons c others => simp
  have other : (rest ++ (others ++ [last])).getLast? ≠ some '\n' := by
    rw [← append_assoc, getLast?_concat]
    exact fun same => feed (Option.some.inj same)
  rw [terminated, if_neg other]
  cases others with
  | nil => simp [feed]
  | cons c others => simp

theorem section_cases : Tidy change ∧ (sectionOf change).toList = fullSection change ∨
      ¬ Tidy change ∧ (sectionOf change).toList.length < (fullSection change).length := by
  have tidy : Tidy change ↔ change.diff.toList = change.diff.toList.rdropWhile isWhitespace ∨
      change.diff.toList = change.diff.toList.rdropWhile isWhitespace ++ ['\n'] := by
    simp only [Tidy, trimEnd, ← String.toList_inj, String.toList_append, String.toList_ofList]
    rfl
  rw [tidy, toList_sectionOf, fullSection]
  rcases terminated_cases change.diff.toList with ⟨yes, same⟩ | ⟨no, longer⟩
  · exact .inl ⟨yes, by rw [same]⟩
  refine .inr ⟨no, ?_⟩
  simp only [length_append] at longer ⊢
  exact Nat.add_lt_add_left longer _

theorem length_le_flatMap (changes : List ReviewChange) :
    (changes.flatMap fun change => (sectionOf change).toList).length ≤
        (changes.flatMap fullSection).length ∧
      ((changes.flatMap fun change => (sectionOf change).toList).length =
        (changes.flatMap fullSection).length → ∀ change ∈ changes, Tidy change) := by
  induction changes with
  | nil => simp
  | cons change rest ih =>
    obtain ⟨le, all⟩ := ih
    rw [flatMap_cons, flatMap_cons, length_append, length_append]
    rcases section_cases change with ⟨tidy, same⟩ | ⟨-, longer⟩
    · rw [same]
      refine ⟨by omega, fun sizes => ?_⟩
      rw [forall_mem_cons]
      exact ⟨tidy, all (by omega)⟩
    exact ⟨by omega, fun sizes => by omega⟩

theorem flatMap_take_eq_iff (changes : List ReviewChange) (limit : ℕ) :
    (changes.take limit).flatMap (fun change => (sectionOf change).toList) =
        changes.flatMap fullSection ↔ changes.length ≤ limit ∧ ∀ change ∈ changes, Tidy change := by
  constructor
  · intro same
    have sizes := congrArg List.length same
    obtain ⟨le, tidy⟩ := length_le_flatMap (changes.take limit)
    have parts : (changes.flatMap fullSection).length =
        ((changes.take limit).flatMap fullSection).length +
          ((changes.drop limit).flatMap fullSection).length := by
      rw [← length_append, ← flatMap_append, take_append_drop]
    have few : changes.length ≤ limit := by
      by_contra many
      obtain ⟨change, inside⟩ := exists_mem_of_length_pos
        (show 0 < (changes.drop limit).length by rw [length_drop]; omega)
      have counted : (changes.drop limit).flatMap fullSection = [] :=
        length_eq_zero_iff.1 (by omega)
      have empty := flatMap_eq_nil_iff.1 counted change inside
      exact terminated_ne_nil _ (append_eq_nil_iff.1 empty).2
    rw [take_of_length_le few] at tidy sizes
    exact ⟨few, tidy sizes⟩
  rintro ⟨few, tidy⟩
  rw [take_of_length_le few]
  refine flatMap_congr fun change inside => ?_
  rcases section_cases change with ⟨-, same⟩ | ⟨untidy, -⟩
  · exact same
  exact absurd (tidy change inside) untidy

theorem validatedFilePath_eq {value path : String} (valid : validatedFilePath value = some path) :
    path = value := by
  rw [validatedFilePath] at valid
  split at valid
  · exact (Option.some.inj valid).symm
  cases valid

variable {changes : List ReviewChange} {text : String} {truncated : Bool}

theorem changesFrom_eq_ok {patch : String} (small : patch.utf8ByteSize ≤ glabMaxOutputBytes)
    (built : changesFrom patch changes = .ok (text, truncated)) :
    (truncated = true ↔ glabMaxOutputBytes < patch.utf8ByteSize +
        (changes.map fun change => (sectionOf change).utf8ByteSize).sum) ∧
      (truncated = false → text.toList =
        patch.toList ++ changes.flatMap fun change => (sectionOf change).toList) := by
  induction changes generalizing patch with
  | nil =>
    cases built
    simp [small]
  | cons change rest ih =>
    rw [changesFrom] at built
    split at built
    · rename_i oldPath newPath isOld isNew
      cases validatedFilePath_eq isOld
      cases validatedFilePath_eq isNew
      change (if patch.utf8ByteSize + (sectionOf change).utf8ByteSize > glabMaxOutputBytes then
        _ else changesFrom (patch ++ sectionOf change) rest) = _ at built
      rw [map_cons, sum_cons]
      split at built
      · cases built
        rename_i exceeds
        exact ⟨⟨fun _ => by omega, fun _ => rfl⟩, fun none => by cases none⟩
      rename_i fits
      rw [← String.utf8ByteSize_append] at fits
      obtain ⟨flag, whole⟩ := ih (Nat.not_lt.1 fits) built
      rw [String.utf8ByteSize_append, Nat.add_assoc] at flag
      refine ⟨flag, fun complete => ?_⟩
      rw [whole complete, String.toList_append, append_assoc, flatMap_cons]
    cases built

theorem reviewChangesPatch_eq_ok (built : reviewChangesPatch changes = .ok (text, truncated)) :
    (truncated = true ↔ TooLarge changes) ∧
      (truncated = false → (text.toList = changes.flatMap fullSection ↔
        changes.length ≤ 500 ∧ ∀ change ∈ changes, Tidy change)) := by
  obtain ⟨flag, whole⟩ := changesFrom_eq_ok (Nat.zero_le _) built
  rw [String.utf8ByteSize_empty, Nat.zero_add] at flag
  refine ⟨flag, fun complete => ?_⟩
  rw [whole complete, String.toList_empty, nil_append]
  exact flatMap_take_eq_iff changes 500

/-- A patch that is not marked as truncated is complete. -/
def HonestFlag (response : WorkspaceChangesResponse) (patch : GitlabReviewPatch) : Prop :=
  patch.patchTruncated = false →
    response.overflow = false ∧ patch.patch.toList = response.changes.flatMap fullSection

/-- The provider answers the call for the patch with the response; the changes of one commit come
without the flag. -/
def Gives (answers : PatchAnswers) (response : WorkspaceChangesResponse) : Option String → Prop
  | none => answers.changes = .ok (some response.toReviewChangesResponse)
  | some selected =>
      answers.commitChanges selected = .ok (some response.changes) ∧ response.overflow = false

variable {patch : GitlabReviewPatch} {response : WorkspaceChangesResponse}

theorem honestFlag_iff {marked : Bool}
    (built : reviewChangesPatch response.changes = .ok (text, truncated))
    (isText : patch.patch = text) (isFlag : patch.patchTruncated = (truncated || marked)) :
    HonestFlag response patch ↔ TooLarge response.changes ∨ marked = true ∨
      (response.overflow = false ∧ response.changes.length ≤ 500 ∧
        ∀ change ∈ response.changes, Tidy change) := by
  obtain ⟨flag, whole⟩ := reviewChangesPatch_eq_ok built
  rw [HonestFlag, isText, isFlag, ← flag]
  cases truncated with
  | true => simp
  | false =>
    rw [whole rfl]
    cases marked <;> simp

variable {iid : ℕ}

theorem buildReviewPatch_text {answers : PatchAnswers} {repositoryId : String}
    {selected : Option String} {cached : Option GitlabReviewPatch}
    (given : Gives answers response selected)
    (built : buildReviewPatch answers repositoryId iid selected cached = .ok patch) :
    reviewChangesPatch response.changes = .ok (patch.patch, patch.patchTruncated) := by
  rw [buildReviewPatch] at built
  split at built
  · cases built
  obtain ⟨commitNodes, _, built⟩ := bind_eq_ok.1 built
  simp only at built
  split at built
  · cases built
  obtain ⟨⟨base, start, head, changes⟩, isSelected, built⟩ := bind_eq_ok.1 built
  obtain ⟨_, _, built⟩ := bind_eq_ok.1 built
  obtain ⟨_, _, built⟩ := bind_eq_ok.1 built
  obtain ⟨_, _, built⟩ := bind_eq_ok.1 built
  obtain ⟨⟨text, truncated⟩, isText, built⟩ := bind_eq_ok.1 built
  cases built
  have same : changes = response.changes := by
    cases selected with
    | none =>
      rw [selectChanges, show answers.changes = _ from given] at isSelected
      cases isSelected
      rfl
    | some selected =>
      rw [selectChanges, given.1] at isSelected
      obtain ⟨_, read, isSelected⟩ := bind_eq_ok.1 isSelected
      cases read
      split at isSelected
      · cases isSelected
      cases isSelected
      rfl
  rw [← same]
  exact isText

theorem buildWorkspaceReviewPatch_text {parseUrl : String → Option Url}
    {answers : WorkspacePatchAnswers} {repository : GitlabTrustedRepository}
    {planBaseBranch : Option String} (given : answers.changes = .ok (some response))
    (built : buildWorkspaceReviewPatch parseUrl answers repository iid planBaseBranch = .ok patch) :
    ∃ truncated, reviewChangesPatch response.changes = .ok (patch.patch, truncated) ∧
      patch.patchTruncated = (truncated || response.overflow) := by
  rw [buildWorkspaceReviewPatch] at built
  split at built
  · cases built
  split at built
  · cases built
  obtain ⟨_, _, built⟩ := bind_eq_ok.1 built
  obtain ⟨_, _, built⟩ := bind_eq_ok.1 built
  rw [given] at built
  obtain ⟨_, read, built⟩ := bind_eq_ok.1 built
  cases read
  obtain ⟨_, _, built⟩ := bind_eq_ok.1 built
  obtain ⟨_, _, built⟩ := bind_eq_ok.1 built
  obtain ⟨_, _, built⟩ := bind_eq_ok.1 built
  split at built
  · cases built
  obtain ⟨⟨text, truncated⟩, isText, built⟩ := bind_eq_ok.1 built
  cases built
  exact ⟨truncated, isText, rfl⟩

/-- When the flag of the two callers is right, and when they agree. -/
theorem patch_complete_iff (response : WorkspaceChangesResponse) :
    (∀ answers repositoryId iid selected cached patch, Gives answers response selected →
      buildReviewPatch answers repositoryId iid selected cached = .ok patch →
        (HonestFlag response patch ↔ TooLarge response.changes ∨ (response.overflow = false ∧
          response.changes.length ≤ 500 ∧ ∀ change ∈ response.changes, Tidy change))) ∧
    (∀ parseUrl answers repository iid planBaseBranch patch, answers.changes = .ok (some response) →
      buildWorkspaceReviewPatch parseUrl answers repository iid planBaseBranch = .ok patch →
        (HonestFlag response patch ↔ TooLarge response.changes ∨ response.overflow = true ∨
          (response.changes.length ≤ 500 ∧ ∀ change ∈ response.changes, Tidy change))) ∧
    (∀ answers repositoryId iid selected cached parseUrl workspaceAnswers repository otherIid
        planBaseBranch patch workspacePatch, Gives answers response selected →
      buildReviewPatch answers repositoryId iid selected cached = .ok patch →
      workspaceAnswers.changes = .ok (some response) →
      buildWorkspaceReviewPatch parseUrl workspaceAnswers repository otherIid planBaseBranch =
          .ok workspacePatch → (patch.patchTruncated = workspacePatch.patchTruncated ↔
          TooLarge response.changes ∨ response.overflow = false)) := by
  refine ⟨?_, ?_, ?_⟩
  · intro answers repositoryId iid selected cached patch given built
    have marked := (Bool.or_false patch.patchTruncated).symm
    rw [honestFlag_iff (buildReviewPatch_text given built) rfl marked]
    simp
  · intro parseUrl answers repository iid planBaseBranch patch given built
    obtain ⟨truncated, isText, isFlag⟩ := buildWorkspaceReviewPatch_text given built
    rw [honestFlag_iff isText rfl isFlag]
    cases response.overflow <;> simp
  · intro answers repositoryId iid selected cached parseUrl workspaceAnswers repository otherIid
      planBaseBranch patch workspacePatch given built otherGiven otherBuilt
    have isText := buildReviewPatch_text given built
    obtain ⟨truncated, otherText, isFlag⟩ := buildWorkspaceReviewPatch_text otherGiven otherBuilt
    have same : truncated = patch.patchTruncated :=
      congrArg Prod.snd (Except.ok.inj (otherText.symm.trans isText))
    rw [isFlag, same, ← (reviewChangesPatch_eq_ok isText).1]
    cases patch.patchTruncated <;> cases response.overflow <;> decide

/-- A call returns a patch that it holds, or the one it builds. -/
theorem workspaceReviewPatch_cases {parseUrl : String → Option Url} {now : ℕ}
    {answers : WorkspacePatchAnswers} {repository : GitlabTrustedRepository}
    {planBaseBranch : Option String} {refresh : Bool} {patches : WorkspacePatches}
    (returned : (workspaceReviewPatch parseUrl now answers repository iid planBaseBranch refresh
      patches).2 = .ok patch) :
    (∃ held, patches[workspacePatchKey repository iid planBaseBranch]? = some held ∧
      patch.cached = held.cached ∧ (refresh = true → patch.fromCache = true)) ∨
    buildWorkspaceReviewPatch parseUrl answers repository iid planBaseBranch = .ok patch := by
  simp only [workspaceReviewPatch] at returned
  split at returned
  · cases returned
  split at returned
  · rename_i recent
    cases returned
    obtain ⟨held, young⟩ := Option.filter_eq_some_iff.1 recent
    refine .inl ⟨patch, held, rfl, fun isRefresh => ?_⟩
    rw [isRefresh] at young
    cases young
  split at returned
  · rename_i built
    cases returned
    exact .inr built
  split at returned
  · rename_i held
    split at returned
    · cases returned
      exact .inl ⟨_, held, rfl, fun _ => rfl⟩
    · cases returned
  · cases returned

/-- The flag of a patch that a refresh brings from the provider, for the two calls. -/
theorem refreshed_complete_iff (response : WorkspaceChangesResponse) :
    (∀ jsonLength (provider : PatchProvider) repositoryId iid host projectPath commitOid selected
        (adapter : Adapter) patch, selectedCommit commitOid = some selected →
      Gives (provider host projectPath) response selected →
      (fetchReviewPatch jsonLength provider repositoryId iid host projectPath commitOid true
        adapter).2 = .ok patch → patch.fromCache = false →
        (HonestFlag response patch ↔ TooLarge response.changes ∨ (response.overflow = false ∧
          response.changes.length ≤ 500 ∧ ∀ change ∈ response.changes, Tidy change))) ∧
    (∀ parseUrl now answers repository iid planBaseBranch patches patch,
      answers.changes = .ok (some response) →
      (workspaceReviewPatch parseUrl now answers repository iid planBaseBranch true patches).2 =
          .ok patch → patch.fromCache = false →
        (HonestFlag response patch ↔ TooLarge response.changes ∨ response.overflow = true ∨
          (response.changes.length ≤ 500 ∧ ∀ change ∈ response.changes, Tidy change))) := by
  constructor
  · intro jsonLength provider repositoryId iid host projectPath commitOid selected adapter patch
      isCommit given returned fresh
    have outcome := fetchReviewPatch_cases jsonLength provider repositoryId iid host projectPath
      commitOid true adapter
    generalize fetchReviewPatch jsonLength provider repositoryId iid host projectPath commitOid true
      adapter = ending at outcome returned
    cases outcome with
    | failed error => cases returned
    | held _ _ result _ _ _ marked =>
      cases returned
      rw [marked rfl] at fresh
      cases fresh
    | built other result isOther _ isBuilt =>
      cases returned
      cases Option.some.inj (isOther.symm.trans isCommit)
      have marked := (Bool.or_false patch.patchTruncated).symm
      rw [honestFlag_iff (buildReviewPatch_text given isBuilt) rfl marked]
      simp
  intro parseUrl now answers repository iid planBaseBranch patches patch given returned fresh
  rcases workspaceReviewPatch_cases returned with ⟨_, _, _, marked⟩ | built
  · rw [marked rfl] at fresh
    cases fresh
  obtain ⟨truncated, isText, isFlag⟩ := buildWorkspaceReviewPatch_text given built
  rw [honestFlag_iff isText rfl isFlag]
  cases response.overflow <;> simp

def overflowing : WorkspaceChangesResponse where
  baseSha := sampleOid
  startSha := sampleOid
  headSha := sampleOid
  changes := []
  overflow := true

theorem overflow_not_marked :
    ¬ ∀ (response : WorkspaceChangesResponse) (answers : PatchAnswers) (repositoryId : String) (iid : ℕ)
        (selected : Option String) (cached : Option GitlabReviewPatch) (patch : GitlabReviewPatch),
      Gives answers response selected →
        buildReviewPatch answers repositoryId iid selected cached = .ok patch →
          HonestFlag response patch := by
  intro always
  have complete := always overflowing sampleAnswers "app" 1 none none (samplePatch 1) rfl
    (buildReviewPatch_sample 1 none) rfl
  exact absurd complete.1 (by decide)

end Wts.Gitlab
