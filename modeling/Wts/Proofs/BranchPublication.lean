/-
Module: Wts.Proofs.BranchPublication
Purpose: What the counts of changed files and the names of tracking references amount to. A renamed
  file stands with its old path in the output of Git, and a remote can have a slash in its name: each
  result says for which outputs and names the code is right.
Trusted boundary: none
Main exports: countsAre_iff, decodes_iff
-/
import Wts.Library.Interrupt
import Wts.Git.BranchPublication

namespace Wts.Worktree

open List Text

/-- One entry: the two letters of the status, a path, and for a renamed or copied file the path that
it comes from. -/
structure StatusEntry where
  index : UInt8
  worktree : UInt8
  path : List UInt8
  source : Option (List UInt8)
  letters : index ≠ 0 ∧ worktree ≠ 0
  pathBytes : 0 ∉ path
  sourceBytes : ∀ bytes ∈ source, 0 ∉ bytes
  /-- `R` and `C`. -/
  moved : source.isSome ↔ index ∈ [82, 67] ∨ worktree ∈ [82, 67]

/-- The first field of an entry. -/
def StatusEntry.line (entry : StatusEntry) : List UInt8 :=
  entry.index :: entry.worktree :: 32 :: entry.path

/-- The bytes of an entry in `git status --porcelain -z`. -/
def StatusEntry.render (entry : StatusEntry) : List UInt8 :=
  entry.line ++ 0 :: (entry.source.elim [] (· ++ [0]))

/-- `git status --porcelain=v1 -z`. -/
def renderStatus (entries : List StatusEntry) : List UInt8 :=
  entries.flatMap StatusEntry.render

/-- The paths that moved files come from. -/
def sources (entries : List StatusEntry) : List (List UInt8) :=
  entries.filterMap StatusEntry.source

theorem fields_append {field : List UInt8} (noZero : 0 ∉ field) (rest : List UInt8) :
    fields (field ++ 0 :: rest) = field :: fields rest :=
  splitOn_append_cons_self_of_not_mem noZero rest

theorem StatusEntry.zero_notMem_line (entry : StatusEntry) : 0 ∉ entry.line := by
  simp only [StatusEntry.line, mem_cons, not_or]
  exact ⟨entry.letters.1.symm, entry.letters.2.symm, by decide, entry.pathBytes⟩

/-- A count of fields that takes every entry and no empty field also takes the sources it accepts. -/
theorem count_fields (counted : List UInt8 → Bool) (noEmpty : counted [] = false)
    (lines : ∀ entry : StatusEntry, counted entry.line = true) (entries : List StatusEntry) :
    ((fields (renderStatus entries)).filter counted).length =
      entries.length + ((sources entries).filter counted).length := by
  induction entries with
  | nil => simp [renderStatus, sources, fields, noEmpty]
  | cons entry rest ih =>
    have split : fields (renderStatus (entry :: rest)) =
        entry.line :: (entry.source.toList ++ fields (renderStatus rest)) := by
      rw [renderStatus, flatMap_cons, StatusEntry.render, append_assoc, cons_append,
        fields_append entry.zero_notMem_line]
      cases moved : entry.source with
      | none => rfl
      | some bytes =>
        rw [Option.elim_some, append_assoc]
        exact congrArg (entry.line :: ·) (fields_append (entry.sourceBytes bytes moved) _)
    have paths : sources (entry :: rest) = entry.source.toList ++ sources rest := by
      rw [sources, filterMap_cons]
      cases entry.source <;> rfl
    rw [split, filter_cons_of_pos (lines entry), paths, filter_append,
      filter_append, length_cons, length_cons, length_append,
      length_append, ih]
    omega

theorem length_le_renderStatus (entries : List StatusEntry) :
    entries.length ≤ (renderStatus entries).length := by
  induction entries with
  | nil => exact le_rfl
  | cons entry rest ih =>
    rw [renderStatus, flatMap_cons, length_append, ← renderStatus]
    simp only [StatusEntry.render, StatusEntry.line, length_append, length_cons]
    omega

/-- The commands of `inspect_worktree_activity` besides the status give their answers. -/
structure ActivityReads (remote : RemoteAnswers) (root : PathBuf) (base : String) : Prop where
  isCommit : isHexOid base = true
  ahead : ∃ counts, remote.revList root (base ++ "..HEAD") = .ok counts

/-- The commands of `inspect_branch_publication` besides the status give their answers: a branch is
checked out, it has an upstream whose remote has an address, and its commits can be read. -/
structure PublicationReads (answers : GitAnswers) (remote : RemoteAnswers)
    (repository : RepositoryInspection) : Prop where
  branch : ∃ name, currentBranchName repository = .ok name ∧ name ≠ ""
  upstream : ∃ upstream names, repository.upstreamFullRef = some upstream ∧
    upstreamSplit upstream = .ok names ∧
    (∃ url, remoteDisplayUrl remote repository.worktreeRoot names.1 = .ok (some url)) ∧
    (∃ commit, commitForRef answers repository.worktreeRoot upstream = .ok commit) ∧
    ∃ counts, remote.revList repository.worktreeRoot (upstream ++ "...HEAD") = .ok counts
  head : ∃ head, headCommitOid answers repository.worktreeRoot = .ok head
  subject : ∃ subject, remote.subject repository.worktreeRoot = .ok subject

/-- All three functions return the count, each if its other commands give their answers. -/
def CountsAre (answers : GitAnswers) (remote : RemoteAnswers) (path : PathBuf) (base : String)
    (count : ℕ) : Prop :=
  changedFileCount answers remote path = .ok count ∧
    ∀ repository, answers.inspectRepository path = .ok repository →
      (ActivityReads remote repository.worktreeRoot base →
        ∃ activity, inspectWorktreeActivity answers remote path base = .ok activity ∧
          activity.changedFileCount = count) ∧
      (PublicationReads answers remote repository →
        ∃ publication, inspectBranchPublication answers remote path = .ok publication ∧
          publication.changedFileCount = count)

section Counts

variable {answers : GitAnswers} {remote : RemoteAnswers} {path : PathBuf}
  {repository : RepositoryInspection} {entries : List StatusEntry}

/-- All three functions count the entries exactly if the output fits and no file moved. -/
theorem countsAre_iff (base : String) (inspected : answers.inspectRepository path = .ok repository)
    (printed : remote.status repository.worktreeRoot = .ok (true, renderStatus entries)) :
    CountsAre answers remote path base entries.length ↔
      (renderStatus entries).length ≤ stdoutLimit ∧ ∀ bytes ∈ sources entries, bytes = [] := by
  have output : gitStatus remote repository.worktreeRoot =
      .ok (readBounded true (renderStatus entries)) := by
    rw [gitStatus, printed]
    rfl
  by_cases whole : (renderStatus entries).length ≤ stdoutLimit
  case neg =>
    have failed : changedFileCount answers remote path = .error .other := by
      simp only [changedFileCount, inspected, output, bind, Except.bind, readBounded,
        decide_eq_true (not_le.1 whole)]
      rfl
    refine iff_of_false (fun counts => ?_) (fun both => whole both.1)
    rw [CountsAre, failed] at counts
    cases counts.1
  have kept : readBounded true (renderStatus entries) =
      { success := true, stdout := renderStatus entries, stdoutTruncated := false } := by
    rw [readBounded, take_of_length_le whole, decide_eq_false (not_lt.2 whole)]
  have few : entries.length < 2 ^ 32 :=
    lt_of_le_of_lt ((length_le_renderStatus entries).trans whole) (by decide)
  have fieldTotal : fieldCount (readBounded true (renderStatus entries)) =
      entries.length + ((sources entries).filter fun entry => !entry.isEmpty).length := by
    rw [kept]
    exact count_fields _ rfl (fun _ => rfl) entries
  have activityTotal : activityCount (readBounded true (renderStatus entries)) = entries.length +
      ((sources entries).filter fun entry => 3 ≤ entry.length && entry[2]? = some 32).length := by
    rw [kept]
    exact count_fields _ rfl (fun entry => by simp [StatusEntry.line]) entries
  have counted : changedFileCount answers remote path =
      toU32 (fieldCount (readBounded true (renderStatus entries))) := by
    simp only [changedFileCount, inspected, output, bind, Except.bind, kept]
    rfl
  constructor
  · intro counts
    refine ⟨whole, ?_⟩
    have total := counts.1
    rw [counted, fieldTotal, toU32] at total
    split at total
    · have same := Except.ok.inj total
      have nothing : ((sources entries).filter fun entry => !entry.isEmpty) = [] :=
        eq_nil_of_length_eq_zero (by omega)
      intro bytes member
      have empty := filter_eq_nil_iff.1 nothing bytes member
      simpa using empty
    · cases total
  · rintro ⟨_, empty⟩
    have noField : ((sources entries).filter fun entry => !entry.isEmpty) = [] := by
      rw [filter_eq_nil_iff]
      intro bytes member
      rw [empty bytes member]
      decide
    have noActivity : ((sources entries).filter fun entry =>
        3 ≤ entry.length && entry[2]? = some 32) = [] := by
      rw [filter_eq_nil_iff]
      intro bytes member
      rw [empty bytes member]
      decide
    rw [noField, length_nil, Nat.add_zero] at fieldTotal
    rw [noActivity, length_nil, Nat.add_zero] at activityTotal
    have fits : toU32 entries.length = .ok entries.length := if_pos few
    refine ⟨by rw [counted, fieldTotal, fits], fun other again => ?_⟩
    cases inspected.symm.trans again
    constructor
    · rintro ⟨isHex, counts, ahead⟩
      refine ⟨{ changedFileCount := entries.length, commitsAhead := counts.2 }, ?_, rfl⟩
      simp only [inspectWorktreeActivity, isHex, inspected, output, ahead, bind, Except.bind,
        activityTotal, fits]
      rw [kept]
      rfl
    rintro ⟨⟨name, isName, named⟩, ⟨upstream, names, isUpstream, split, ⟨url, isUrl⟩, ⟨commit, isCommit⟩,
      counts, isCounts⟩, ⟨head, isHead⟩, subject, isSubject⟩
    simp only [inspectBranchPublication, inspected, isName, if_neg named, isUpstream, orInvalid, split,
      isUrl, isHead, isCommit, isCounts, output, bind, Except.bind, fieldTotal, fits, isSubject]
    rw [kept]
    exact ⟨_, rfl, rfl⟩

end Counts

/-! ### Tracking references -/

theorem stripPrefix_append_self (start rest : String) :
    stripPrefix start (start ++ rest) = some rest := by
  rw [stripPrefix, String.toList_append, if_pos, drop_left, String.ofList_toList]
  exact isPrefixOf_iff_prefix.2 (prefix_append _ _)

/-- The name before the first slash is the whole name exactly when it has none. -/
theorem splitOnce_slash_iff (name branch : String) :
    splitOnce '/' (name ++ "/" ++ branch) = some (name, branch) ↔ '/' ∉ name.toList := by
  have chars : (name ++ "/" ++ branch).toList = name.toList ++ '/' :: branch.toList := by
    simp
  rw [splitOnce, if_pos (by simp), chars]
  constructor
  · intro found inside
    have first := congrArg (fun pair => ('/' ∈ pair.1.toList)) (Option.some.inj found)
    rw [String.toList_ofList] at first
    have stop := mem_takeWhile_imp (first.mpr inside)
    simp at stop
  intro absent
  have stop : ∀ c ∈ name.toList, decide (c ≠ '/') = true := by
    intro c member
    exact decide_eq_true fun same => absent (same ▸ member)
  rw [takeWhile_append_of_pos stop, dropWhile_append_of_pos stop]
  simp

section Tracking

variable {answers : GitAnswers} {remote : RemoteAnswers} {repository : RepositoryInspection}
  {tracking : TrackingRemote}

/-- The parts of a remote name and a branch joined as `resolve_remote_base` joins them. -/
theorem resolveRemoteBase_eq_ok {requested : String} {base : ResolvedBase}
    (resolved : resolveRemoteBase answers repository requested tracking = .ok base) :
    validRemoteName tracking.name = true ∧
      answers.checkRefFormat repository.worktreeRoot tracking.branch = .ok true ∧
      base.fullRef = "refs/remotes/" ++ (tracking.name ++ "/" ++ tracking.branch) := by
  rw [resolveRemoteBase] at resolved
  split at resolved
  · cases resolved
  rename_i valid
  obtain ⟨accepted, checked, rest⟩ := Interrupt.bind_eq_ok.1 resolved
  cases accepted with
  | false => cases rest
  | true =>
    obtain ⟨commit, _, rest⟩ := Interrupt.bind_eq_ok.1 rest
    cases commit with
    | none => cases rest
    | some commitOid =>
      cases rest
      exact ⟨by simpa using valid, checked, by simp [String.append_assoc]⟩

/-- The decoders of a reference to a remote branch find these parts. -/
def Decodes (answers : GitAnswers) (remote : RemoteAnswers) (repository : RepositoryInspection)
    (fullRef : String) (tracking : TrackingRemote) : Prop :=
  resolveTrackingRemote answers remote repository fullRef = .ok tracking ∧
    upstreamSplit fullRef = .ok (tracking.name, tracking.branch)

theorem upstreamSplit_eq_ok_iff (name branch : String) (named : name ≠ "") :
    upstreamSplit ("refs/remotes/" ++ (name ++ "/" ++ branch)) = .ok (name, branch) ↔
      '/' ∉ name.toList ∧ branch ≠ "" := by
  rw [← splitOnce_slash_iff name branch, upstreamSplit, stripPrefix_append_self]
  change orInvalid _ = _ ↔ _
  cases splitOnce '/' (name ++ "/" ++ branch) with
  | none => exact iff_of_false (fun same => by cases same) (fun both => by cases both.1)
  | some parts =>
    rw [Option.filter_some]
    split
    next present =>
      simp only [decide_eq_true_eq, Bool.and_eq_true] at present
      simp only [orInvalid, Except.ok.injEq, Option.some.injEq]
      exact ⟨fun same => ⟨same, by subst same; exact present.2⟩, And.left⟩
    next missing =>
      refine iff_of_false (fun same => by cases same) fun both => missing ?_
      rw [Option.some.inj both.1]
      simpa using ⟨named, both.2⟩

theorem explicitRemote_eq (root : PathBuf) (remotes : List String)
    (plain : '/' ∉ tracking.name.toList) : explicitRemote answers remote root remotes
        ("refs/remotes/" ++ (tracking.name ++ "/" ++ tracking.branch)) =
      .ok (some tracking.name, tracking.branch) := by
  rw [explicitRemote, stripPrefix_append_self]
  simp only [(splitOnce_slash_iff _ _).2 plain]
  rfl

/-- The decoders find the parts of a resolved base exactly when the remote's name has no slash, and the
reference is one that they look at. -/
theorem decodes_iff (requested : String) (base : ResolvedBase)
    (resolved : resolveRemoteBase answers repository requested tracking = .ok base) :
    Decodes answers remote repository base.fullRef tracking ↔
      '/' ∉ tracking.name.toList ∧ tracking.branch ≠ "" ∧ validUserRef base.fullRef = true ∧
        (∃ remotes, remoteNames remote repository.worktreeRoot = .ok remotes ∧
          tracking.name ∈ remotes) ∧ ∃ configured, remote.optionalConfig repository.worktreeRoot
          ("branch." ++ tracking.branch ++ ".remote") = .ok configured := by
  obtain ⟨valid, accepted, same⟩ := resolveRemoteBase_eq_ok resolved
  have named : tracking.name ≠ "" := by
    simp only [validRemoteName, Bool.and_eq_true, decide_eq_true_eq] at valid
    exact valid.1.1.1
  have noHead : stripPrefix "refs/heads/" base.fullRef = none := by
    rw [same, stripPrefix, String.toList_append]
    rfl
  rw [Decodes]
  constructor
  · rintro ⟨tracked, split⟩
    rw [same] at split
    obtain ⟨plain, present⟩ := (upstreamSplit_eq_ok_iff _ _ named).1 split
    rw [resolveTrackingRemote] at tracked
    split at tracked
    · cases tracked
    next isRef =>
      obtain ⟨remotes, listed, tracked⟩ := Interrupt.bind_eq_ok.1 tracked
      rw [noHead, Option.getD_none, same] at tracked
      obtain ⟨parts, found, tracked⟩ := Interrupt.bind_eq_ok.1 tracked
      rw [explicitRemote_eq _ _ plain] at found
      cases found
      obtain ⟨isAccepted, checked, tracked⟩ := Interrupt.bind_eq_ok.1 tracked
      rw [accepted] at checked
      cases checked
      rw [if_pos rfl] at tracked
      obtain ⟨configured, read, tracked⟩ := Interrupt.bind_eq_ok.1 tracked
      obtain ⟨name, chosen, _⟩ := Interrupt.bind_eq_ok.1 tracked
      refine ⟨plain, present, by simpa using isRef, ⟨remotes, listed, ?_⟩, configured, read⟩
      by_contra missing
      rw [chosenRemote, contains_eq_mem, decide_eq_false missing] at chosen
      cases chosen
  · rintro ⟨plain, present, isRef, ⟨remotes, listed, member⟩, configured, read⟩
    refine ⟨?_, same ▸ (upstreamSplit_eq_ok_iff _ _ named).2 ⟨plain, present⟩⟩
    have explicit : explicitRemote answers remote repository.worktreeRoot remotes
        ("refs/remotes/" ++ (tracking.name ++ "/" ++ tracking.branch)) =
          .ok (some tracking.name, tracking.branch) :=
      explicitRemote_eq _ remotes plain
    rw [same] at isRef noHead
    simp only [same, resolveTrackingRemote, isRef, noHead, Option.getD_none, bind, Except.bind, listed,
      explicit, accepted, read, chosenRemote, contains_eq_mem, member, Bool.not_true,
      Bool.false_eq_true, if_false, if_true, decide_true, pure, Except.pure, valid]

end Tracking

theorem no_upstream : ∀ upstream ∈ (none : Option String), startsWith "refs/" upstream = true := by
  simp

def sampleRepository : RepositoryInspection where
  id := "1f"
  label := "app"
  worktreeRoot := ⟨true, ["app"]⟩
  gitCommonDir := ⟨true, ["app", ".git"]⟩
  currentBranchFullRef := some "refs/heads/main"
  upstreamFullRef := none
  originUrl := none
  defaultBranch :=
    { name := "main"
      fullRef := "refs/heads/main"
      commitOid := "1111111111111111111111111111111111111111"
      valid := by decide }
  validUpstream := no_upstream

/-- Every reference is the same commit. -/
def sampleAnswers : GitAnswers where
  inspectRepository _ := .ok sampleRepository
  checkRefFormat _ _ := .ok true
  localBranchExists _ _ := .ok false
  objectIsCommit _ _ := .ok true
  revParse _ _ := .ok (some "1111111111111111111111111111111111111111")
  targetPresent _ := some false

def sampleRemote (entries : List StatusEntry) : RemoteAnswers where
  remoteLines _ := .ok ["origin", "team/core"]
  optionalConfig _ _ := .ok none
  status _ := .ok (true, renderStatus entries)
  revList _ _ := .ok (0, 0)
  subject _ := .ok "first"

/-- The file `a` is changed in the worktree. -/
def changedEntry : StatusEntry where
  index := 32
  worktree := 77
  path := [97]
  source := none
  letters := by decide
  pathBytes := by decide
  sourceBytes := fun _ none => by cases none
  moved := by decide

/-- The file `a` is renamed to `b`. -/
def renamedEntry : StatusEntry where
  index := 82
  worktree := 32
  path := [98]
  source := some [97]
  letters := by decide
  pathBytes := by decide
  sourceBytes := by simp
  moved := by decide

/-- The file `b` is not tracked. -/
def untrackedEntry : StatusEntry where
  index := 63
  worktree := 63
  path := [98]
  source := none
  letters := by decide
  pathBytes := by decide
  sourceBytes := fun _ none => by cases none
  moved := by decide

/-- A worktree whose branch has an upstream. -/
def publishedRepository : RepositoryInspection :=
  { sampleRepository with
    upstreamFullRef := some "refs/remotes/origin/main"
    validUpstream := by decide }

def publishedAnswers : GitAnswers :=
  { sampleAnswers with inspectRepository := fun _ => .ok publishedRepository }

def publishedRemote (entries : List StatusEntry) : RemoteAnswers :=
  { sampleRemote entries with
    optionalConfig := fun _ name =>
      .ok (if name = "remote.origin.url" then some "https://git.test/app.git" else none) }

/-- All three functions succeed and count a changed and an untracked file. -/
theorem countsAre_iff_changed :
    changedFileCount publishedAnswers (publishedRemote [changedEntry, untrackedEntry])
        ⟨true, ["app"]⟩ = .ok 2 ∧
      (∃ activity, inspectWorktreeActivity publishedAnswers
          (publishedRemote [changedEntry, untrackedEntry]) ⟨true, ["app"]⟩
          "1111111111111111111111111111111111111111" = .ok activity ∧
        activity.changedFileCount = 2) ∧
      ∃ publication, inspectBranchPublication publishedAnswers
          (publishedRemote [changedEntry, untrackedEntry]) ⟨true, ["app"]⟩ = .ok publication ∧
        publication.changedFileCount = 2 := by
  obtain ⟨counted, others⟩ := (@countsAre_iff publishedAnswers
    (publishedRemote [changedEntry, untrackedEntry]) ⟨true, ["app"]⟩ publishedRepository
    [changedEntry, untrackedEntry] "1111111111111111111111111111111111111111" rfl rfl).2
      ⟨by decide, by decide⟩
  obtain ⟨activity, publication⟩ := others publishedRepository rfl
  refine ⟨counted, activity ⟨by decide, (0, 0), rfl⟩, publication ⟨⟨"main", by decide, by decide⟩, ?_,
    ⟨"1111111111111111111111111111111111111111", by decide⟩, "first", rfl⟩⟩
  exact ⟨"refs/remotes/origin/main", ("origin", "main"), rfl, by decide,
    ⟨"https://git.test/app.git", by decide +kernel⟩,
    ⟨some "1111111111111111111111111111111111111111", by decide⟩, (0, 0), rfl⟩

theorem renamed_file_counterexample :
    ¬ CountsAre sampleAnswers (sampleRemote [renamedEntry]) ⟨true, ["app"]⟩ ""
      [renamedEntry].length := by
  intro counts
  exact absurd (show Except.ok 2 = Except.ok 1 from counts.1) (by decide)

/-- A branch of the remote with a plain name. -/
theorem decodes_iff_origin :
    Decodes sampleAnswers (sampleRemote []) sampleRepository "refs/remotes/origin/main"
      { name := "origin", branch := "main" } :=
  (decodes_iff "main"
    { requested := "main"
      name := "main"
      fullRef := "refs/remotes/origin/main"
      commitOid := "1111111111111111111111111111111111111111" } (by decide)).2
    ⟨by decide, by decide, by decide, ⟨["origin", "team/core"], by decide, by decide⟩, none, rfl⟩

/-- The branch `main` of `team/core` is read as the branch `core/main` of `team`. -/
theorem remote_with_slash_counterexample : (resolveRemoteBase sampleAnswers sampleRepository "main"
        { name := "team/core", branch := "main" }).toOption.map ResolvedBase.fullRef =
        some "refs/remotes/team/core/main" ∧
      ¬ Decodes sampleAnswers (sampleRemote []) sampleRepository "refs/remotes/team/core/main"
        { name := "team/core", branch := "main" } := by
  refine ⟨by decide, fun decoded => ?_⟩
  exact absurd (show Except.ok ("team", "core/main") = Except.ok ("team/core", "main") from
    decoded.2) (by decide)

end Wts.Worktree
