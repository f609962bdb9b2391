/-
Module: Wts.Proofs.RepositorySlug
Purpose: The name that a repository gets in a workspace is one plain component, for every label, and
  so the worktrees of a plan are entries of the workspace root.
Trusted boundary: none
Main exports: preflight_direct_children
-/
import Wts.Git.Inspection
import Wts.Library.JsonSize
import Wts.Proofs.WorkspaceSetup

namespace Wts.Worktree

open List Text Sha256

/-- Answers of Git in which every repository has its own identifier. -/
structure IdentifiedAnswers extends GitAnswers where
  identified : ∀ path repository, inspectRepository path = .ok repository →
    repository.id = repositoryId repository.gitCommonDir

/-- The answers that `inspect_repository` gives for what it reads of each checkout. -/
def IdentifiedAnswers.ofReads (reads : PathBuf → Except GitError RepositoryReads)
    (others : GitAnswers) : IdentifiedAnswers :=
  { others with
    inspectRepository := fun path => (reads path).map inspectRepository
    identified := by
      intro path repository inspected
      cases isRead : reads path with
      | error error =>
        rw [isRead] at inspected
        cases inspected
      | ok found =>
        rw [isRead] at inspected
        cases inspected
        exact inspectRepository_id found }

/-- A letter from a to z or a digit. -/
def IsSlugChar (c : Char) : Prop :=
  c.isLower = true ∨ c.isDigit = true

def Apart (first second : Char) : Prop :=
  ¬(first = '-' ∧ second = '-')

/-- Characters of a slug that may end with a dash. -/
structure SlugStart (chars : List Char) : Prop where
  letters : ∀ c ∈ chars, c = '-' ∨ IsSlugChar c
  first : chars.head? ≠ some '-'
  single : chars.IsChain Apart

/-- Letters and digits with single dashes between them. -/
structure IsSlug (chars : List Char) : Prop extends SlugStart chars where
  last : chars.getLast? ≠ some '-'

/-- The text is a path of one component, and that is a name. -/
structure NormalComponent (name : String) : Prop where
  path : PathBuf.ofText name = { absolute := false, components := [name] }
  notParent : name ≠ ".."

section Characters

variable {c : Char}

theorem IsSlugChar.ne_dash (letter : IsSlugChar c) : c ≠ '-' := by
  rintro rfl
  revert letter
  unfold IsSlugChar
  decide

theorem not_isUpper_of_isDigit (digit : c.isDigit = true) : ¬ c.isUpper = true := by
  simp only [Char.isDigit, Char.isUpper, Bool.and_eq_true, decide_eq_true_eq] at digit ⊢
  intro upper
  have low : 'A'.val ≤ '9'.val := UInt32.le_trans upper.1 digit.2
  exact absurd low (by decide)

theorem isSlugChar_toLower (alphanumeric : isAsciiAlphanumeric c = true) : IsSlugChar c.toLower := by
  rw [isAsciiAlphanumeric, Char.isAlphanum, Bool.or_eq_true] at alphanumeric
  rcases alphanumeric with letter | digit
  · left
    rw [Char.isLower_toLower_eq_isAlpha, letter]
  right
  rwa [Char.toLower_eq_of_not_isUpper (not_isUpper_of_isDigit digit)]

theorem IsSlugChar.alphanumeric (letter : IsSlugChar c) : isAsciiAlphanumeric c = true := by
  rw [isAsciiAlphanumeric, Char.isAlphanum, Char.isAlpha, Bool.or_eq_true, Bool.or_eq_true]
  rcases letter with letter | digit
  · exact .inl (.inr letter)
  exact .inr digit

theorem IsSlugChar.utf8Size (letter : IsSlugChar c) : c.utf8Size = 1 := by
  rcases letter with letter | digit
  · rw [Char.isLower, Bool.and_eq_true, decide_eq_true_eq, decide_eq_true_eq] at letter
    exact Char.utf8Size_eq_one_iff.2 (UInt32.le_trans letter.2 (by decide))
  exact utf8Size_of_isDigit digit

theorem isSlugChar_of_hex {bytes : List UInt8} (member : c ∈ hexChars bytes) : IsSlugChar c := by
  have digits : ∀ n : Fin 16, (hexDigit n).isLower = true ∨
      (hexDigit n).isDigit = true := by decide
  obtain ⟨byte, _, isDigit⟩ := mem_flatMap.1 member
  have bound := byte.toNat_lt
  rcases mem_pair.1 isDigit with rfl | rfl
  · exact digits ⟨byte.toNat / 16, by omega⟩
  exact digits ⟨byte.toNat % 16, Nat.mod_lt _ (by decide)⟩

theorem IsSlugChar.toLower (letter : IsSlugChar c) : c.toLower = c := by
  refine Char.toLower_eq_of_not_isUpper ?_
  rcases letter with letter | digit
  · exact Char.not_isUpper_of_isLower letter
  exact not_isUpper_of_isDigit digit

end Characters

section Loop

variable {limit : ℕ} {output chars rest : List Char} {c : Char}

theorem SlugStart.append (start : SlugStart output) (letter : c = '-' ∨ IsSlugChar c)
    (inner : c = '-' → output ≠ [] ∧ output.getLast? ≠ some '-') : SlugStart (output ++ [c]) where
  letters other member := by
    rcases mem_append.1 member with old | new
    · exact start.letters other old
    rwa [mem_singleton.1 new]
  first := by
    cases output with
    | nil =>
      intro dash
      exact (inner (Option.some.inj dash)).1 rfl
    | cons head tail => exact start.first
  single := by
    rw [isChain_append]
    refine ⟨start.single, isChain_singleton c, ?_⟩
    intro before atEnd after isNew both
    cases isNew
    exact (inner both.2).2 (both.1 ▸ atEnd)

/-- What holds of the characters that the loop has written. -/
structure Written (limit : ℕ) (output : List Char) : Prop extends SlugStart output where
  short : output.length ≤ limit
  last : output.getLast? = some '-' → output.length = limit

theorem Written.step (written : Written limit output) (pendingDash : Bool)
    (alphanumeric : isAsciiAlphanumeric c = true) :
    let dashed :=
      if pendingDash && output ≠ [] && output.length < limit then output ++ ['-'] else output
    Written limit (if dashed.length < limit then dashed ++ [c.toLower] else dashed) := by
  intro dashed
  have letter := isSlugChar_toLower alphanumeric
  have started : SlugStart dashed ∧ dashed.length ≤ limit := by
    simp only [dashed]
    split
    · rename_i pending
      simp only [Bool.and_eq_true, decide_eq_true_eq] at pending
      have ⟨⟨_, nonempty⟩, room⟩ := pending
      refine ⟨written.append (.inl rfl) fun _ => ⟨nonempty, ?_⟩, ?_⟩
      · exact fun dash => room.ne (written.last dash)
      rwa [length_append]
    exact ⟨written.toSlugStart, written.short⟩
  split
  · rename_i room
    refine ⟨started.1.append (.inr letter) fun dash => absurd dash letter.ne_dash, ?_, ?_⟩
    · rwa [length_append]
    rw [getLast?_concat]
    exact fun dash => absurd (Option.some.inj dash) letter.ne_dash
  rename_i full
  exact ⟨started.1, started.2, fun _ => started.2.antisymm (not_lt.1 full)⟩

theorem slugChars_written (written : Written limit output) (pendingDash : Bool) :
    Written limit (slugChars limit chars output pendingDash) := by
  induction chars generalizing output pendingDash with
  | nil => exact written
  | cons c rest ih =>
    rw [slugChars]
    split
    · rename_i alphanumeric
      exact ih (written.step pendingDash alphanumeric) false
    exact ih written true

/-- The loop writes again what it has written and a dash that is still pending. -/
theorem slugChars_of_isSlug {pendingDash : Bool}
    (slug : IsSlug (output ++ (if pendingDash then ['-'] else []) ++ rest))
    (short : (output ++ (if pendingDash then ['-'] else []) ++ rest).length ≤ limit) :
    slugChars limit rest output pendingDash =
      output ++ (if pendingDash then ['-'] else []) ++ rest := by
  induction rest generalizing output pendingDash with
  | nil =>
    cases pendingDash with
    | false => simp [slugChars]
    | true => exact absurd (by simp) slug.last
  | cons c rest ih =>
    rw [slugChars]
    rcases slug.letters c (by simp) with rfl | letter
    · have single := slug.single
      cases pendingDash with
      | false =>
        have again := @ih output true (by simpa using slug) (by simpa using short)
        simpa [isAsciiAlphanumeric] using again
      | true =>
        have apart := (isChain_append.1 single).2.2 '-' (by simp) '-' (by simp)
        exact absurd ⟨rfl, rfl⟩ apart
    rw [if_pos letter.alphanumeric, letter.toLower]
    cases pendingDash with
    | false =>
      have room : output.length < limit := by
        simp only [length_append, length_cons] at short
        omega
      have again := @ih (output ++ [c]) false (by simpa using slug) (by simpa using short)
      simpa [room] using again
    | true =>
      have room : output.length + 1 < limit := by
        simp only [length_append, length_cons, if_true] at short
        omega
      have nonempty : output ≠ [] := by
        rintro rfl
        exact slug.first (by simp)
      have again := @ih (output ++ ['-'] ++ [c]) false (by simpa using slug) (by simpa using short)
      have early : output.length < limit := by omega
      simpa [nonempty, room, early] using again

end Loop

section Slug

variable (label : String)

/-- `slug` gives a slug of at most 48 characters, also where no character of the label is usable. -/
theorem slug_isSlug :
    IsSlug (slug label).toList ∧ (slug label).toList.length ≤ 48 ∧ (slug label).toList ≠ [] := by
  rw [slug]
  split
  · have text : "repository".toList = ['r', 'e', 'p', 'o', 's', 'i', 't', 'o', 'r', 'y'] := rfl
    rw [text]
    refine ⟨⟨⟨?_, by decide, ?_⟩, by decide⟩, by decide, by decide⟩
    · simp [IsSlugChar, Char.isLower]
    unfold Apart
    decide
  rename_i kept
  rw [String.toList_ofList]
  have empty : Written 48 [] :=
    ⟨⟨fun _ member => absurd member not_mem_nil, by simp, .nil⟩, Nat.zero_le _, by simp⟩
  have written := @slugChars_written 48 [] label.toList empty false
  have start := rdropWhile_prefix (· = '-') (slugChars 48 label.toList [] false)
  refine ⟨⟨⟨fun c member => written.letters c (start.subset member), ?_,
    written.single.prefix start⟩, ?_⟩, start.length_le.trans written.short, kept⟩
  · obtain ⟨dropped, whole⟩ := start
    have first := written.first
    rwa [← whole, head?_append_of_ne_nil _ kept] at first
  rw [getLast?_eq_getLast_of_ne_nil kept]
  intro dash
  exact rdropWhile_last_not _ _ kept (by simpa using dash)

theorem slug_slug : slug (slug label) = slug label := by
  have ⟨isSlug, short, nonempty⟩ := slug_isSlug label
  have again := @slugChars_of_isSlug 48 [] _ false (by simpa using isSlug) (by simpa using short)
  have last : (slug label).toList.rdropWhile (· = '-') = (slug label).toList := by
    rw [rdropWhile_eq_self_iff]
    intro _ dash
    refine isSlug.last ?_
    rw [getLast?_eq_getLast_of_ne_nil nonempty]
    simpa using dash
  simp only [if_neg Bool.false_ne_true, append_nil, nil_append] at again
  rw [slug, again, last, if_neg nonempty, String.ofList_toList]

theorem utf8ByteSize_slug_le : (slug label).utf8ByteSize ≤ 48 := by
  have ⟨isSlug, short, _⟩ := slug_isSlug label
  rw [← byteSize_toList, byteSize_ascii]
  · exact short
  intro c member
  rcases isSlug.letters c member with rfl | letter
  · decide
  exact letter.utf8Size

end Slug

section Targets

variable {repository : RepositoryInspection}

theorem notMem_worktreeLeaf (identified : repository.id = repositoryId repository.gitCommonDir) :
    '/' ∉ repository.worktreeLeaf.toList := by
  intro slash
  have noLetter : ¬ IsSlugChar '/' := by
    unfold IsSlugChar
    decide
  rw [RepositoryInspection.worktreeLeaf, String.toList_append, String.toList_append,
    mem_append, mem_append] at slash
  rcases slash with (inSlug | dashes) | inId
  · rcases (slug_isSlug repository.label).1.letters '/' inSlug with dash | letter
    · exact absurd dash (by decide)
    · exact noLetter letter
  · exact absurd dashes (by decide)
  rw [String.toList_ofList] at inId
  have inText := mem_of_mem_take inId
  rw [identified, repositoryId, String.toList_append, mem_append] at inText
  rcases inText with start | digit
  · exact absurd start (by decide)
  rw [hexEncode, String.toList_ofList] at digit
  exact noLetter (isSlugChar_of_hex digit)

theorem worktreeLeaf_normal (identified : repository.id = repositoryId repository.gitCommonDir) :
    NormalComponent repository.worktreeLeaf := by
  have plain := notMem_worktreeLeaf identified
  -- two dashes follow at least one character, so the name is neither empty nor made of dots
  have long : 3 ≤ repository.worktreeLeaf.toList.length := by
    have some := length_pos_of_ne_nil (slug_isSlug repository.label).2.2
    have dashes : "--".toList.length = 2 := rfl
    rw [RepositoryInspection.worktreeLeaf, String.toList_append, String.toList_append,
      length_append, length_append, dashes]
    omega
  have other : ∀ name : String, name.toList.length < 3 → repository.worktreeLeaf ≠ name := by
    rintro name brief rfl
    omega
  refine ⟨?_, other ".." (by decide)⟩
  rw [PathBuf.ofText, split, splitOn_eq_singleton plain, map_singleton, String.ofList_toList]
  have relative : repository.worktreeLeaf.toList.head? ≠ some '/' :=
    fun slash => plain (mem_of_mem_head? slash)
  have kept : repository.worktreeLeaf ≠ "" ∧ repository.worktreeLeaf ≠ "." :=
    ⟨other "" (by decide), other "." (by decide)⟩
  simp [relative, kept]

/-- Every label has a slug, the slug of a slug is itself, the leaf that is made of it is one plain
component, and the targets of a plan are entries of its root. -/
theorem preflight_direct_children (answers : IdentifiedAnswers)
    (resolved : Except GitError (PathBuf × Bool)) (request : WorkspaceWorktreeRequest) :
    (∀ label, (slug label).utf8ByteSize ≤ 48 ∧ slug label ≠ "" ∧ IsSlug (slug label).toList ∧
      slug (slug label) = slug label) ∧ (∀ repository : RepositoryInspection,
      repository.id = repositoryId repository.gitCommonDir →
        NormalComponent repository.worktreeLeaf) ∧
    ∀ plan, preflight answers.toGitAnswers resolved request = .ok plan →
      ∀ planned ∈ plan.repositories, NormalComponent planned.repository.worktreeLeaf ∧
        planned.targetPath = { plan.workspaceRoot with
          components := plan.workspaceRoot.components ++
            (PathBuf.ofText planned.repository.worktreeLeaf).components } ∧
        planned.targetPath.parent = some plan.workspaceRoot := by
  refine ⟨fun label => ?_, fun repository identified => worktreeLeaf_normal identified, ?_⟩
  · have ⟨isSlug, _, nonempty⟩ := slug_isSlug label
    exact ⟨utf8ByteSize_slug_le label, fun empty => nonempty (by rw [empty]; rfl), isSlug,
      slug_slug label⟩
  intro plan accepted planned member
  rw [preflight] at accepted
  split at accepted
  · cases accepted
  obtain ⟨⟨workspaceRoot, willBeCreated⟩, -, accepted⟩ := Interrupt.bind_eq_ok.1 accepted
  obtain ⟨repositories, plans, accepted⟩ := Interrupt.bind_eq_ok.1 accepted
  cases accepted
  have ⟨each, _⟩ := Materialization.planWorktrees_planned plans
  obtain ⟨requested, _, isPlanned⟩ :=
    Traverse.forall₂_mem_left (List.Forall₂.flip (R := flip _) each) member
  have normal := worktreeLeaf_normal (answers.identified _ _ isPlanned.inspected)
  rw [isPlanned.target, normal.path]
  exact ⟨normal, rfl, PathBuf.parent_join⟩

end Targets

theorem absent_upstream : ∀ upstream ∈ (none : Option String), startsWith "refs/" upstream = true := by
  simp

/-- Two checkouts: one with an origin, and one whose name has no letter or digit. -/
def readsOf (path : PathBuf) : Except GitError RepositoryReads :=
  .ok
    { worktreeRoot := path
      gitCommonDir := path.join ".git"
      originUrl := if path.fileName = some "shop" then some "https://git.test/team/Web_Shop.git" else none
      currentBranchFullRef := none
      upstreamFullRef := none
      defaultBranch := (Materialization.sampleInspection "app").defaultBranch
      validUpstream := absent_upstream }

def twoCheckouts : IdentifiedAnswers :=
  .ofReads readsOf (Materialization.sampleAnswers "app")

/-- The first repository is planned from its default branch, the second one from a branch of its own. -/
def twoRepositories : WorkspaceWorktreeRequest where
  workspaceRoot := { absolute := true, components := ["work", "plan"] }
  branchName := "feature"
  repositories :=
    [{ trustedPath := { absolute := true, components := ["src", "shop"] }, baseRef := none },
      { trustedPath := { absolute := true, components := ["src", "__"] }, baseRef := some "develop" }]

def twoPlans : Except GitError WorktreePlan :=
  preflight twoCheckouts.toGitAnswers (.ok (twoRepositories.workspaceRoot, true)) twoRepositories

theorem preflight_direct_children_two : ∃ plan, twoPlans = .ok plan ∧
      plan.repositories.map (fun planned => slug planned.repository.label) =
        ["web-shop", "repository"] ∧
      ∀ planned ∈ plan.repositories, planned.targetPath.parent = some plan.workspaceRoot := by
  have planned : twoPlans.toOption.map (fun plan =>
      plan.repositories.map fun planned => slug planned.repository.label) =
        some ["web-shop", "repository"] := by decide +kernel
  cases isPlan : twoPlans with
  | error error =>
    rw [isPlan] at planned
    cases planned
  | ok plan =>
    rw [isPlan] at planned
    refine ⟨plan, rfl, Option.some.inj planned, fun entry member => ?_⟩
    exact ((preflight_direct_children twoCheckouts _ twoRepositories).2.2 plan isPlan entry member).2.2

end Wts.Worktree
