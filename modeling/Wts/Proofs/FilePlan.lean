/-
Module: Wts.Proofs.FilePlan
Purpose: A worktree that is taken from one capture to another, file by file.
Trusted boundary: none
Main exports: FilePlan, Shows
-/
import Wts.App.Checkpoint

namespace Wts.Checkpoint

open List FileState

/-- What a checkpointed operation does: each file goes from its start to its goal. -/
structure FilePlan (φ : Type) where
  start : TakenCapture
  goal : TakenCapture
  identity : String
  path : φ → String
  files : List φ
  startComplete : start.complete
  goalComplete : goal.complete
  uniquePaths : (files.map path).Nodup
  changed : ∀ name, name ∈ files.map path ↔ start.stateAt name ≠ goal.stateAt name

namespace FilePlan

variable {φ : Type} [DecidableEq φ] {plan : FilePlan φ} {worktree : Worktree}

omit [DecidableEq φ] in
theorem eq_of_path_eq {first second : φ} (left : first ∈ plan.files) (right : second ∈ plan.files)
    (same : plan.path first = plan.path second) : first = second :=
  inj_on_of_nodup_map plan.uniquePaths left right same

omit [DecidableEq φ] in
theorem states_ne_of_mem {file : φ} (member : file ∈ plan.files) :
    plan.start.stateAt (plan.path file) ≠ plan.goal.stateAt (plan.path file) :=
  (plan.changed _).1 (mem_map_of_mem member)

omit [DecidableEq φ] in
theorem states_eq_of_not_mem {path : String} (missing : ¬∃ file ∈ plan.files, plan.path file = path) :
    plan.start.stateAt path = plan.goal.stateAt path := by
  by_contra differ
  obtain ⟨file, member, same⟩ := mem_map.1 ((plan.changed path).2 differ)
  exact missing ⟨file, member, same⟩

/-- The worktree is as at the start, with some files as at the goal. -/
structure Shows (plan : FilePlan φ) (worktree : Worktree) (done : List φ) : Prop where
  identity : worktree.identity = some plan.identity
  git : worktree.gitAnswers = true
  complete : worktree.contents.complete
  sameGit : worktree.contents.sameGit plan.start.toWorktreeCheckpointCapture
  stateAt : ∀ path, worktree.contents.stateAt path =
    if ∃ file ∈ done, plan.path file = path then plan.goal.stateAt path
    else plan.start.stateAt path

omit [DecidableEq φ] in
theorem Shows.mem_iff {done : List φ} (shows : plan.Shows worktree done)
    (inside : ∀ file ∈ done, file ∈ plan.files) {file : φ} (here : file ∈ plan.files) :
    file ∈ done ↔ worktree.contents.stateAt (plan.path file) =
      plan.goal.stateAt (plan.path file) := by
  rw [shows.stateAt]
  constructor
  · intro member
    rw [if_pos ⟨file, member, rfl⟩]
  intro same
  by_contra missing
  rw [if_neg] at same
  · exact states_ne_of_mem here same
  intro ⟨other, member, atPath⟩
  rw [eq_of_path_eq (inside other member) here atPath] at member
  exact missing member

omit [DecidableEq φ] in
theorem Shows.congr {first second : List φ} (shows : plan.Shows worktree first)
    (same : ∀ file, file ∈ first ↔ file ∈ second) : plan.Shows worktree second where
  __ := shows
  stateAt := by
    intro path
    rw [shows.stateAt]
    simp only [same]

omit [DecidableEq φ] in
theorem Shows.withFile {done : List φ} (shows : plan.Shows worktree done) (file : φ) :
    plan.Shows (worktree.withFile (plan.path file) (plan.goal.stateAt (plan.path file)))
      (done ++ [file]) where
  __ := shows
  complete := complete_withFile shows.complete _ _
  stateAt := by
    intro path
    rw [stateAt_withFile, shows.stateAt]
    by_cases here : plan.path file = path
    · subst here
      rw [if_pos rfl, if_pos ⟨file, by simp, rfl⟩]
    rw [if_neg here]
    congr 1
    apply propext
    constructor
    · intro ⟨other, member, same⟩
      exact ⟨other, mem_append_left _ member, same⟩
    intro ⟨other, member, same⟩
    rcases mem_append.1 member with old | last
    · exact ⟨other, old, same⟩
    rw [mem_singleton.1 last] at same
    exact absurd same here

omit [DecidableEq φ] in
theorem Shows.captured {done : List φ} (shows : plan.Shows worktree done) :
    captureWorktreeCheckpoint worktree = some worktree.contents :=
  if_pos shows.git

omit [DecidableEq φ] in
theorem Shows.matchesCapture {done : List φ} (shows : plan.Shows worktree done)
    {expected : WorktreeCheckpointCapture} (complete : expected.complete)
    (git : expected.sameGit plan.start.toWorktreeCheckpointCapture)
    (states : ∀ path, expected.stateAt path =
      if ∃ file ∈ done, plan.path file = path then plan.goal.stateAt path
      else plan.start.stateAt path) : matchesCapture expected worktree.contents := by
  apply matchesCapture_iff.2
  refine ⟨complete, shows.complete, ?_, ?_⟩
  · obtain ⟨head, branch, index⟩ := git
    obtain ⟨sameHead, sameBranch, sameIndex⟩ := shows.sameGit
    exact ⟨head.trans sameHead.symm, branch.trans sameBranch.symm, index.trans sameIndex.symm⟩
  intro path
  rw [states, shows.stateAt]

omit [DecidableEq φ] in
theorem Shows.matchesGoal {done : List φ} (shows : plan.Shows worktree done)
    (all : ∀ file ∈ plan.files, file ∈ done)
    (git : plan.goal.toWorktreeCheckpointCapture.sameGit plan.start.toWorktreeCheckpointCapture) :
    Checkpoint.matchesCapture plan.goal.toWorktreeCheckpointCapture worktree.contents := by
  apply shows.matchesCapture plan.goalComplete git
  intro path
  split
  · rfl
  rename_i missing
  apply Eq.symm
  apply states_eq_of_not_mem
  intro ⟨file, member, same⟩
  exact missing ⟨file, all file member, same⟩

omit [DecidableEq φ] in
theorem Shows.matchesStart (shows : plan.Shows worktree []) :
    Checkpoint.matchesCapture plan.start.toWorktreeCheckpointCapture worktree.contents := by
  apply shows.matchesCapture plan.startComplete ⟨rfl, rfl, rfl⟩
  intro path
  rw [if_neg]
  intro ⟨file, member, _⟩
  cases member

omit [DecidableEq φ] in
theorem shows_of_matchesStart (identity : worktree.identity = some plan.identity)
    (git : worktree.gitAnswers = true)
    (same : Checkpoint.matchesCapture plan.start.toWorktreeCheckpointCapture worktree.contents) :
    plan.Shows worktree [] := by
  obtain ⟨_, complete, ⟨head, branch, index⟩, states⟩ := matchesCapture_iff.1 same
  constructor
  case identity => exact identity
  case git => exact git
  case complete => exact complete
  case sameGit => exact ⟨head.symm, branch.symm, index.symm⟩
  case stateAt =>
    intro path
    rw [← states, if_neg]
    intro ⟨file, member, _⟩
    cases member

/-! ### Crediting files -/

/-- A file counts as done when it is confirmed, or pending and seen as at the goal. -/
def Credits (plan : FilePlan φ) (current : WorktreeCheckpointCapture) (confirmed : List φ)
    (pending : Option φ) (file : φ) : Prop :=
  file ∈ confirmed ∨ (pending = some file ∧
    current.stateAt (plan.path file) = plan.goal.stateAt (plan.path file))

instance (plan : FilePlan φ) (current : WorktreeCheckpointCapture) (confirmed : List φ)
    (pending : Option φ) (file : φ) : Decidable (plan.Credits current confirmed pending file) :=
  inferInstanceAs (Decidable (_ ∨ _))

def confirm (confirmed : List φ) (file : φ) : List φ :=
  if file ∈ confirmed then confirmed else confirmed ++ [file]

theorem mem_confirm {confirmed : List φ} {file other : φ} :
    other ∈ confirm confirmed file ↔ other ∈ confirmed ∨ other = file := by
  unfold confirm
  split
  · rename_i present
    constructor
    · exact .inl
    intro either
    rcases either with old | equal
    · exact old
    rw [equal]
    exact present
  exact mem_append.trans (or_congr Iff.rfl mem_singleton)

def creditFile (plan : FilePlan φ) (current : WorktreeCheckpointCapture) (pending : Option φ)
    (state : List φ × WorktreeCheckpointCapture) (file : φ) : List φ × WorktreeCheckpointCapture :=
  if plan.Credits current state.1 pending file then
    (confirm state.1 file, state.2.override (plan.path file) plan.goal.files[plan.path file]?)
  else
    state

def expectedFrom (plan : FilePlan φ) (current : WorktreeCheckpointCapture) (confirmed : List φ)
    (pending : Option φ) : List φ × WorktreeCheckpointCapture :=
  plan.files.foldl (plan.creditFile current pending)
    (confirmed, plan.start.toWorktreeCheckpointCapture)

variable {current : WorktreeCheckpointCapture}

theorem credits_confirm {confirmed : List φ}
    {pending : Option φ} {file other : φ} (credits : plan.Credits current confirmed pending file) :
    plan.Credits current (confirm confirmed file) pending other ↔
      plan.Credits current confirmed pending other := by
  unfold Credits
  rw [mem_confirm]
  constructor
  · intro either
    rcases either with (old | equal) | isPending
    · exact .inl old
    · rw [equal]
      exact credits
    exact .inr isPending
  intro either
  rcases either with old | isPending
  · exact .inl (.inl old)
  exact .inr isPending

omit [DecidableEq φ] in
theorem complete_override {capture : WorktreeCheckpointCapture} {goal : TakenCapture}
    (complete : capture.complete) (goalComplete : goal.complete) (path : String) :
    (capture.override path goal.files[path]?).complete := by
  obtain ⟨stable, omitted, supported⟩ := complete_iff.1 complete
  rw [complete_iff]
  refine ⟨stable, omitted, ?_⟩
  intro other file found
  unfold WorktreeCheckpointCapture.override at found
  cases here : goal.files[path]? with
  | some chosen =>
    rw [here] at found
    simp only [Std.ExtTreeMap.getElem?_insert, Std.LawfulEqCmp.compare_eq_iff_eq] at found
    split at found
    · cases found
      exact (complete_iff.1 goalComplete).2.2 path file here
    exact supported other file found
  | none =>
    rw [here] at found
    simp only [Std.ExtTreeMap.getElem?_erase, Std.LawfulEqCmp.compare_eq_iff_eq] at found
    split at found
    · cases found
    exact supported other file found

/-- What the loop over some of the files does. -/
structure Credited (plan : FilePlan φ) (current : WorktreeCheckpointCapture) (pending : Option φ)
    (files : List φ) (before after : List φ × WorktreeCheckpointCapture) : Prop where
  mem : ∀ file, file ∈ after.1 ↔
    file ∈ before.1 ∨ (file ∈ files ∧ plan.Credits current before.1 pending file)
  stateAt : ∀ path, after.2.stateAt path =
    if ∃ file ∈ files, plan.path file = path ∧ plan.Credits current before.1 pending file then
      plan.goal.stateAt path
    else before.2.stateAt path
  sameGit : after.2.sameGit before.2
  complete : before.2.complete → after.2.complete

theorem credited_foldl {pending : Option φ} (files : List φ)
    (state : List φ × WorktreeCheckpointCapture) : plan.Credited current pending files state
      (files.foldl (plan.creditFile current pending) state) := by
  induction files generalizing state with
  | nil =>
    constructor
    · simp
    · simp
    · exact ⟨rfl, rfl, rfl⟩
    exact fun complete => complete
  | cons file rest ih =>
    obtain ⟨confirmed, expected⟩ := state
    rw [foldl_cons]
    by_cases credits : plan.Credits current confirmed pending file
    · have step : plan.creditFile current pending (confirmed, expected) file =
          (confirm confirmed file,
            expected.override (plan.path file) plan.goal.files[plan.path file]?) :=
        if_pos credits
      rw [step]
      have inner := ih (confirm confirmed file,
        expected.override (plan.path file) plan.goal.files[plan.path file]?)
      generalize rest.foldl (plan.creditFile current pending) _ = final at inner ⊢
      have same : ∀ other, plan.Credits current (confirm confirmed file) pending other ↔
          plan.Credits current confirmed pending other := fun other => credits_confirm credits
      constructor
      · intro other
        rw [inner.mem, same, mem_confirm, mem_cons]
        constructor
        · intro either
          rcases either with (old | equal) | ⟨inRest, isCredited⟩
          · exact .inl old
          · rw [equal]
            exact .inr ⟨.inl rfl, credits⟩
          exact .inr ⟨.inr inRest, isCredited⟩
        intro either
        rcases either with old | ⟨equal | inRest, isCredited⟩
        · exact .inl (.inl old)
        · exact .inl (.inr equal)
        exact .inr ⟨inRest, isCredited⟩
      · intro path
        rw [inner.stateAt]
        simp only [same, stateAt_override, mem_cons, exists_eq_or_imp]
        by_cases here : plan.path file = path
        · subst here
          simp only [credits, and_self, true_or, if_true]
          split
          · rfl
          rfl
        simp only [here, false_and, false_or, if_false]
      · exact inner.sameGit
      intro complete
      exact inner.complete (complete_override complete plan.goalComplete _)
    have step : plan.creditFile current pending (confirmed, expected) file =
        (confirmed, expected) := if_neg credits
    rw [step]
    have inner := ih (confirmed, expected)
    generalize rest.foldl (plan.creditFile current pending) _ = final at inner ⊢
    constructor
    · intro other
      rw [inner.mem, mem_cons]
      constructor
      · intro either
        rcases either with old | ⟨inRest, isCredited⟩
        · exact .inl old
        exact .inr ⟨.inr inRest, isCredited⟩
      intro either
      rcases either with old | ⟨equal | inRest, isCredited⟩
      · exact .inl old
      · rw [equal] at isCredited
        exact absurd isCredited credits
      exact .inr ⟨inRest, isCredited⟩
    · intro path
      rw [inner.stateAt]
      simp only [mem_cons, exists_eq_or_imp, credits, and_false, false_or]
    · exact inner.sameGit
    exact inner.complete

theorem mem_expectedFrom {confirmed : List φ} {pending : Option φ} {file : φ} :
    file ∈ (plan.expectedFrom current confirmed pending).1 ↔ file ∈ confirmed ∨
        (file ∈ plan.files ∧ plan.Credits current confirmed pending file) :=
  (credited_foldl plan.files (confirmed, plan.start.toWorktreeCheckpointCapture)).mem file

/-- A record of the progress: the worktree shows the confirmed files and perhaps the pending one. -/
def Records (plan : FilePlan φ) (worktree : Worktree) (confirmed : List φ) (pending : Option φ) :
    Prop :=
  ∃ done, plan.Shows worktree done ∧ (∀ file ∈ confirmed, file ∈ done) ∧
    ∀ file ∈ done, file ∈ confirmed ∨ pending = some file

omit [DecidableEq φ] in
theorem Shows.records {done : List φ} (shows : plan.Shows worktree done) (pending : Option φ) :
    plan.Records worktree done pending :=
  ⟨done, shows, fun _ member => member, fun _ member => .inl member⟩

theorem Records.of_credited {confirmed : List φ} {pending : Option φ}
    (records : plan.Records worktree (plan.expectedFrom current confirmed pending).1 pending) :
    plan.Records worktree confirmed pending := by
  obtain ⟨done, shows, inside, onlyPending⟩ := records
  refine ⟨done, shows, ?_, ?_⟩
  · intro file member
    exact inside file (mem_expectedFrom.2 (.inl member))
  intro file member
  rcases onlyPending file member with isCredited | isPending
  · rcases mem_expectedFrom.1 isCredited with old | ⟨_, old | ⟨isPending, _⟩⟩
    · exact .inl old
    · exact .inl old
    · exact .inr isPending
  exact .inr isPending

theorem Records.shows {confirmed : List φ} {pending : Option φ}
    (records : plan.Records worktree confirmed pending)
    (listed : ∀ file ∈ confirmed, file ∈ plan.files)
    (isListed : ∀ file, pending = some file → file ∈ plan.files) :
    plan.Shows worktree (plan.expectedFrom worktree.contents confirmed pending).1 := by
  obtain ⟨done, shows, inside, onlyPending⟩ := records
  have doneListed : ∀ file ∈ done, file ∈ plan.files := by
    intro file member
    rcases onlyPending file member with old | isPending
    · exact listed file old
    exact isListed file isPending
  apply shows.congr
  intro file
  rw [mem_expectedFrom]
  constructor
  · intro member
    have here := doneListed file member
    rcases onlyPending file member with old | isPending
    · exact .inl old
    exact .inr ⟨here, .inr ⟨isPending, (shows.mem_iff doneListed here).1 member⟩⟩
  intro either
  rcases either with old | ⟨_, old | ⟨isPending, observed⟩⟩
  · exact inside file old
  · exact inside file old
  exact (shows.mem_iff doneListed (isListed file isPending)).2 observed

theorem credited_expectedFrom (plan : FilePlan φ) (current : WorktreeCheckpointCapture)
    (confirmed : List φ) (pending : Option φ) :
    plan.Credited current pending plan.files (confirmed, plan.start.toWorktreeCheckpointCapture)
      (plan.expectedFrom current confirmed pending) :=
  credited_foldl _ _

section

variable {confirmed : List φ} {pending : Option φ} (listed : ∀ file ∈ confirmed, file ∈ plan.files)
include listed

theorem stateAt_expectedFrom (path : String) :
    (plan.expectedFrom current confirmed pending).2.stateAt path =
      if ∃ file ∈ (plan.expectedFrom current confirmed pending).1, plan.path file = path then
        plan.goal.stateAt path else plan.start.stateAt path := by
  have credited := credited_expectedFrom plan current confirmed pending
  rw [credited.stateAt]
  congr 1
  apply propext
  constructor
  · intro ⟨file, member, here, credits⟩
    exact ⟨file, (credited.mem file).2 (.inr ⟨member, credits⟩), here⟩
  intro ⟨file, member, here⟩
  rcases (credited.mem file).1 member with old | ⟨inFiles, credits⟩
  · exact ⟨file, listed file old, here, .inl old⟩
  exact ⟨file, inFiles, here, credits⟩

theorem matches_expectedFrom
    (shows : plan.Shows worktree (plan.expectedFrom worktree.contents confirmed pending).1) :
    matchesCapture (plan.expectedFrom worktree.contents confirmed pending).2 worktree.contents := by
  have credited := credited_expectedFrom plan worktree.contents confirmed pending
  apply shows.matchesCapture
  · exact credited.complete plan.startComplete
  · exact credited.sameGit
  exact stateAt_expectedFrom listed

theorem shows_of_matches
    (identity : worktree.identity = some plan.identity) (git : worktree.gitAnswers = true)
    (same : matchesCapture (plan.expectedFrom worktree.contents confirmed pending).2
      worktree.contents) :
    plan.Shows worktree (plan.expectedFrom worktree.contents confirmed pending).1 := by
  have credited := credited_expectedFrom plan worktree.contents confirmed pending
  obtain ⟨_, complete, ⟨head, branch, index⟩, states⟩ := matchesCapture_iff.1 same
  obtain ⟨startHead, startBranch, startIndex⟩ := credited.sameGit
  constructor
  case identity => exact identity
  case git => exact git
  case complete => exact complete
  case sameGit =>
    exact ⟨head.symm.trans startHead, branch.symm.trans startBranch, index.symm.trans startIndex⟩
  case stateAt =>
    intro path
    rw [← states]
    exact stateAt_expectedFrom listed path

end

theorem Shows.recorded {confirmed : List φ} {pending : Option φ}
    (shows : plan.Shows worktree (plan.expectedFrom worktree.contents confirmed pending).1) :
    plan.Records worktree confirmed pending :=
  (shows.records pending).of_credited

omit [DecidableEq φ] in
theorem Shows.writeAllowed {done : List φ} (shows : plan.Shows worktree done)
    (inside : ∀ other ∈ done, other ∈ plan.files) {file : φ} (here : file ∈ plan.files)
    (fresh : file ∉ done) {identity : String} (sameRoot : identity = plan.identity) :
    writeAllowed worktree (plan.path file) ((plan.goal.stateAt (plan.path file)).map sha256)
      ((plan.goal.stateAt (plan.path file)).map FileState.mode)
      (plan.start.stateAt (plan.path file)) identity := by
  have valid : validFilePath (plan.path file) := by
    apply validFilePath_of_mem_changedPaths plan.startComplete plan.goalComplete
    exact mem_changedPaths.2 (states_ne_of_mem here)
  have mode : ((plan.goal.stateAt (plan.path file)).map FileState.mode).all
      (fun mode => mode ≤ 0o777) = true := by
    cases found : plan.goal.stateAt (plan.path file) with
    | none => rfl
    | some state =>
      exact decide_eq_true (plan.goal.validFilePath_of_stateAt plan.goalComplete found).2
  have supported : (worktree.contents.files[plan.path file]?).all
      (fun file => !file.unsupported) = true := by
    cases found : worktree.contents.files[plan.path file]? with
    | none => rfl
    | some present =>
      rw [Option.all_some, (complete_iff.1 shows.complete).2.2 _ present found]
      rfl
  have before : worktree.contents.stateAt (plan.path file) =
      plan.start.stateAt (plan.path file) := by
    rw [shows.stateAt, if_neg]
    intro ⟨other, member, atPath⟩
    rw [eq_of_path_eq (inside other member) here atPath] at member
    exact fresh member
  have sameShape : ((plan.goal.stateAt (plan.path file)).map sha256).isSome =
      ((plan.goal.stateAt (plan.path file)).map FileState.mode).isSome := by
    rw [Option.isSome_map, Option.isSome_map]
  simp only [Checkpoint.writeAllowed, Bool.and_eq_true, decide_eq_true_eq]
  rw [sameRoot]
  exact ⟨⟨⟨⟨⟨valid, mode⟩, sameShape⟩, shows.identity⟩, supported⟩, before⟩

end FilePlan

theorem writtenState_saved (state : Option FileState) :
    writtenState (state.map sha256) (state.map FileState.mode) = state := by
  cases state with
  | none => rfl
  | some state => rfl

end Wts.Checkpoint
