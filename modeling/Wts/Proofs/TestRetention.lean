/-
Module: Wts.Proofs.TestRetention
Purpose: The retention of test runs keeps the longest start of the newest runs that is within the
  limits, and neither the beginning nor the finalizing of a run removes that run.
Trusted boundary: none
Main exports: retention_newestPrefix
-/
import Wts.App.TestRuns
import Wts.Library.Retention
import Wts.Library.Traverse

namespace Wts.Testing

open FileTree Interrupt List Retention
open Interrupt.Proc

mutual

/-- The bytes of all files of a tree. -/
def nodeBytes : Node → ℕ
  | .file _ bytes => bytes.length
  | .symlink _ => 0
  | .directory _ children => treeBytes children

/-- The bytes of the files below a folder. -/
def treeBytes : List (String × Node) → ℕ
  | [] => 0
  | (_, node) :: rest => nodeBytes node + treeBytes rest

end

/-- What the retention reads of a run. -/
structure Measured (env : RunStoreEnv) (folder : RunFolder) (run : StoredTestRun) : Prop where
  runId : run.runId = folder.runId
  bytes : run.bytes = treeBytes folder.entries
  recency : ∃ manifest, env.readRunRecord folder false = .ok manifest ∧
    run.recency = summaryRecency manifest.summary

/-- The runs in their order are the kept and the dropped ones, and the kept ones are the longest start
within the limits. -/
structure NewestPrefix (env : RunStoreEnv) (retention : TestArtifactRetention)
    (protectedRunId : Option Uuid) (before after : List RunFolder)
    (kept dropped : List StoredTestRun) : Prop where
  measured : ∃ stored, List.Forall₂ (Measured env) before stored ∧ (kept ++ dropped).Perm stored
  ordered : (kept ++ dropped).Pairwise fun left right =>
    testRunKey protectedRunId left < testRunKey protectedRunId right
  few : kept.length ≤ retention.maximumRuns
  small : (kept.map StoredTestRun.bytes).sum ≤ retention.maximumBytes.toNat
  longest : ∀ longer, longer <+: kept ++ dropped → longer.length ≤ retention.maximumRuns →
    (longer.map StoredTestRun.bytes).sum ≤ retention.maximumBytes.toNat → longer <+: kept
  unprotected : ∀ run ∈ dropped, some run.runId ≠ protectedRunId
  retained : after = before.filter fun folder => folder.runId ∈ kept.map StoredTestRun.runId

/-- The run has a folder. -/
def RunStore.Has (store : RunStore) (runId : Uuid) : Prop :=
  runId ∈ store.runs.map RunFolder.runId

section Store

variable {store : RunStore} {runId other : Uuid} {run : RunFolder}

theorem RunStore.Has.erase (has : store.Has runId) (different : runId ≠ other) :
    (store.erase other).Has runId := by
  obtain ⟨folder, member, same⟩ := mem_map.1 has
  refine mem_map.2 ⟨folder, mem_filter.2 ⟨member, ?_⟩, same⟩
  rw [same]
  exact decide_eq_true different

theorem RunStore.has_put_self : (store.put run).Has run.runId :=
  mem_cons_self

theorem RunStore.Has.put (has : store.Has runId) : (store.put run).Has runId := by
  by_cases same : runId = run.runId
  · rw [same]
    exact has_put_self
  exact mem_cons_of_mem _ (has.erase same)

end Store

section Sizes

theorem sizeLoop_ok {entries : List (String × Node)} {pending : List (List (String × Node))}
    {total size : ℕ} (measured : sizeLoop entries pending total = .ok size) :
    size = total + treeBytes entries + (pending.map treeBytes).sum := by
  induction entries, pending, total using sizeLoop.induct with
  | case1 total =>
    rw [sizeLoop] at measured
    obtain rfl := Except.ok.inj measured
    simp [treeBytes]
  | case2 directory pending total ih =>
    rw [sizeLoop] at measured
    rw [ih measured, treeBytes, map_cons, sum_cons, Nat.add_zero, Nat.add_assoc]
  | case3 =>
    rw [sizeLoop] at measured
    cases measured
  | case4 pending total name header children rest ih =>
    rw [sizeLoop] at measured
    rw [ih measured, treeBytes, nodeBytes, map_cons, sum_cons]
    omega
  | case5 pending total name header bytes rest overflow =>
    rw [sizeLoop, if_pos overflow] at measured
    cases measured
  | case6 pending total name header bytes rest fits ih =>
    rw [sizeLoop, if_neg fits] at measured
    rw [ih measured, treeBytes, nodeBytes]
    omega

variable {env : RunStoreEnv} {folder : RunFolder} {run : StoredTestRun}

theorem storedTestRun_ok (stored : storedTestRun env folder = .ok run) : Measured env folder run := by
  rw [storedTestRun] at stored
  obtain ⟨manifest, read, stored⟩ := bind_eq_ok.1 stored
  obtain ⟨size, measured, stored⟩ := bind_eq_ok.1 stored
  obtain rfl := Except.ok.inj stored
  refine ⟨rfl, ?_, manifest, read, rfl⟩
  have whole := sizeLoop_ok measured
  simpa using whole

end Sizes

section Retention

variable {env : RunStoreEnv} {retention : TestArtifactRetention} {protectedRunId : Option Uuid}
  {store : RunStore} {fates : List Fate} {runs stored : List StoredTestRun}

theorem splitLoop_ok {count total retained : ℕ}
    (split : splitLoop retention protectedRunId count total runs = .ok retained) :
    retained = retainedCount retention.maximumRuns retention.maximumBytes.toNat StoredTestRun.bytes
      count total runs := by
  induction runs generalizing count total with
  | nil => exact (Except.ok.inj split).symm
  | cons run rest ih =>
    rw [splitLoop] at split
    rw [retainedCount]
    split at split
    · cases split
    split at split
    · rename_i full
      split at split
      · cases split
      obtain rfl := Except.ok.inj split
      rcases full with many | large
      · rw [if_pos many]
      rw [if_pos large, ite_self]
    rename_i fits
    rw [not_or] at fits
    rw [if_neg fits.1, if_neg fits.2]
    exact ih split

/-- The runs are removed one after the other, and never the protected one. -/
theorem removeLoop_ends : Ends (removeLoop protectedRunId runs) fates store
      (fun _ _ after => (∀ run ∈ runs, some run.runId ≠ protectedRunId) ∧
        after.runs = store.runs.filter fun folder => folder.runId ∉ runs.map StoredTestRun.runId)
      fun _ after => ∀ runId, protectedRunId = some runId → store.Has runId → after.Has runId := by
  induction runs generalizing fates store with
  | nil => exact ⟨fun _ member => absurd member not_mem_nil, by simp⟩
  | cons run rest ih =>
    rw [removeLoop]
    refine Ends.guard (fun _ _ has => has) fun unprotected => ?_
    have kept : ∀ runId, protectedRunId = some runId → store.Has runId →
        (store.erase run.runId).Has runId := by
      rintro runId rfl has
      exact has.erase fun same => unprotected (congrArg some same.symm)
    apply Ends.bind_change
    · exact fun _ _ _ has => has
    · exact fun _ => kept
    intro left
    apply Ends.mono ih
    · intro _ _ after ⟨others, removed⟩
      refine ⟨forall_mem_cons.2 ⟨unprotected, others⟩, ?_⟩
      rw [removed, RunStore.erase, filter_filter]
      refine filter_congr fun folder _ => ?_
      simp [Bool.and_comm]
    exact fun _ after later runId isProtected has =>
      later runId isProtected (kept runId isProtected has)

theorem sorted_strict (distinct : (runs.map StoredTestRun.runId).Nodup) :
    (runs.insertionSort fun left right => testRunKey protectedRunId left ≤
      testRunKey protectedRunId right).Pairwise fun left right =>
        testRunKey protectedRunId left < testRunKey protectedRunId right := by
  have sorted := pairwise_insertionSort
    (fun left right => testRunKey protectedRunId left ≤ testRunKey protectedRunId right) runs
  have different := pairwise_map.1
    (((perm_insertionSort (fun left right => testRunKey protectedRunId left ≤
      testRunKey protectedRunId right) runs).map StoredTestRun.runId).nodup_iff.2 distinct)
  refine (sorted.and different).imp fun both => both.1.lt_of_ne fun same => both.2 ?_
  exact congrArg (fun key => OrderDual.ofDual (ofLex (ofLex key).2).2) same

theorem runIds_eq {folders : List RunFolder} (measured : List.Forall₂ (Measured env) folders stored) :
    stored.map StoredTestRun.runId = folders.map RunFolder.runId := by
  induction measured with
  | nil => rfl
  | cons first _ ih => rw [map_cons, map_cons, first.runId, ih]

/-- A split of the runs in their order at the number that is retained. -/
theorem newestPrefix_of_split {after : RunStore}
    (measured : List.Forall₂ (Measured env) store.runs stored)
    (isOrdered : runs = stored.insertionSort fun left right =>
      testRunKey protectedRunId left ≤ testRunKey protectedRunId right) {split : ℕ}
    (isSplit : splitLoop retention protectedRunId 0 0 runs = .ok split)
    (unprotected : ∀ run ∈ runs.drop split, some run.runId ≠ protectedRunId)
    (removed : after.runs = store.runs.filter fun folder =>
      folder.runId ∉ (runs.drop split).map StoredTestRun.runId) :
    NewestPrefix env retention protectedRunId store.runs after.runs (runs.take split)
      (runs.drop split) := by
  have distinct : (stored.map StoredTestRun.runId).Nodup := runIds_eq measured ▸ store.distinct
  have perm : runs.Perm stored := isOrdered ▸ perm_insertionSort _ stored
  have whole := take_append_drop split runs
  refine ⟨⟨stored, measured, whole.symm ▸ perm⟩, ?_, ?_, ?_, ?_, unprotected, ?_⟩
  · rw [whole, isOrdered]
    exact sorted_strict distinct
  · rw [splitLoop_ok isSplit]
    exact length_take_retainedCount_le runs
  · rw [splitLoop_ok isSplit]
    exact sum_take_retainedCount_le runs
  · intro longer start few small
    rw [whole] at start
    have isTake := prefix_iff_eq_take.1 start
    rw [isTake, splitLoop_ok isSplit]
    have inside := @add_le_retainedCount _ retention.maximumRuns retention.maximumBytes.toNat
      StoredTestRun.bytes 0 0 longer.length runs start.length_le (by rwa [Nat.zero_add])
      (by rwa [← isTake, Nat.zero_add])
    rw [Nat.zero_add] at inside
    exact take_prefix_take_left inside
  rw [removed]
  refine filter_congr fun folder member => ?_
  have ids : ((runs.take split).map StoredTestRun.runId ++
      (runs.drop split).map StoredTestRun.runId).Perm (store.runs.map RunFolder.runId) := by
    rw [← map_append, whole, ← runIds_eq measured]
    exact perm.map _
  have isListed := mem_append.1 (ids.mem_iff.2 (mem_map_of_mem member))
  have once := nodup_append'.1 (ids.nodup_iff.2 store.distinct)
  refine decide_eq_decide.2 ⟨fun notDropped => isListed.resolve_right notDropped, ?_⟩
  exact fun isKept isDropped => once.2.2 isKept isDropped

theorem enforceRetentionProtecting_ends :
    Ends (enforceRetentionProtecting env retention protectedRunId) fates store
      (fun _ _ after => ∃ kept dropped,
        NewestPrefix env retention protectedRunId store.runs after.runs kept dropped)
      fun _ after => ∀ runId, protectedRunId = some runId → store.Has runId → after.Has runId := by
  apply Ends.bind_read
  apply Ends.bind_ofExcept
  · exact fun _ _ _ _ has => has
  intro stored isStored
  have measured := (Traverse.mapM_eq_ok_iff.1 isStored).imp fun _ _ => storedTestRun_ok
  apply Ends.bind_ofExcept
  · exact fun _ _ _ _ has => has
  intro split isSplit
  apply Ends.mono removeLoop_ends
  · intro _ _ after ⟨unprotected, removed⟩
    exact ⟨_, _, newestPrefix_of_split measured rfl isSplit unprotected removed⟩
  exact fun _ _ kept => kept

/-- A protected run that is larger than the limit of the bytes is the first one of the order, so the
loop ends before anything is removed. -/
theorem splitLoop_of_large {run : StoredTestRun} (member : run ∈ runs)
    (isProtected : some run.runId = protectedRunId)
    (distinct : (runs.map StoredTestRun.runId).Nodup) (sorted : runs.Pairwise fun left right =>
      testRunKey protectedRunId left ≤ testRunKey protectedRunId right)
    (large : retention.maximumBytes.toNat < run.bytes) :
    splitLoop retention protectedRunId 0 0 runs = .error .retentionExceeded := by
  cases runs with
  | nil => cases member
  | cons first rest =>
    have isFirst : run = first := by
      rcases mem_cons.1 member with same | later
      · exact same
      have smaller := (pairwise_cons.1 sorted).1 run later
      rw [testRunKey, testRunKey, if_pos isProtected, Prod.Lex.toLex_le_toLex] at smaller
      have firstProtected : some first.runId = protectedRunId := by
        by_contra other
        rw [if_neg other] at smaller
        simp at smaller
      exact inj_on_of_nodup_map distinct member mem_cons_self
        (Option.some.inj (isProtected.trans firstProtected.symm))
    subst isFirst
    rw [splitLoop, Nat.zero_add, if_pos (Or.inr large), if_pos isProtected, ite_self]

theorem enforceRetentionProtecting_of_large {folder : RunFolder} (member : folder ∈ store.runs)
    (isProtected : some folder.runId = protectedRunId)
    (large : retention.maximumBytes.toNat < treeBytes folder.entries) :
    Ends (enforceRetentionProtecting env retention protectedRunId) fates store (fun _ _ _ => False)
      fun error after => error ≠ none ∧ after = store := by
  apply Ends.bind_read
  apply Ends.bind_ofExcept
  · exact fun _ _ => ⟨Option.some_ne_none _, rfl⟩
  intro stored isStored
  have measured := (Traverse.mapM_eq_ok_iff.1 isStored).imp fun _ _ => storedTestRun_ok
  obtain ⟨run, inside, isRun⟩ := Traverse.forall₂_mem_left measured member
  have perm := perm_insertionSort (fun left right => testRunKey protectedRunId left ≤
    testRunKey protectedRunId right) stored
  have distinct := (perm.map StoredTestRun.runId).nodup_iff.2 (runIds_eq measured ▸ store.distinct)
  have refused := @splitLoop_of_large retention _ _ _ (perm.mem_iff.2 (of_mem_zip inside).2)
    (isRun.runId ▸ isProtected) distinct (pairwise_insertionSort _ _) (isRun.bytes ▸ large)
  apply Ends.bind_ofExcept
  · exact fun _ _ => ⟨Option.some_ne_none _, rfl⟩
  intro split isSplit
  cases refused.symm.trans isSplit

end Retention

/-! ### A run is never removed by its own calls -/

section Calls

variable {env : RunStoreEnv} {retention : TestArtifactRetention} {store : RunStore}
  {fates : List Fate} {runId : Uuid}

theorem requireRunDirectory_keeps {holds : RunStore → Prop} :
    Keeps (requireRunDirectory runId) holds := by
  apply Keeps.bind Keeps.read
  intro store
  split
  · exact .fail
  exact .pure

/-- A file that is replaced leaves every directory where it is. -/
theorem atomicReplaceBytes_keeps {other : Uuid} {leaf : String} {bytes : List UInt8}
    {maximumBytes : ℕ} :
    Keeps (atomicReplaceBytes env other leaf bytes maximumBytes) fun store => store.Has runId := by
  apply Keeps.ite Keeps.fail
  apply Keeps.bind requireRunDirectory_keeps
  intro run
  have replaced : Keeps (Proc.change .unavailable fun store : RunStore => store.put { run with
      entries := setChild leaf (some (.file env.header bytes)) run.entries } : StoreCall Unit)
      fun store => store.Has runId := Keeps.change fun _ has => has.put
  split
  · exact replaced
  · exact .ite replaced Keeps.fail
  exact .fail

/-- The retention that protects a run keeps its directory, however it ends. -/
theorem enforceRetentionProtecting_keeps :
    Keeps (enforceRetentionProtecting env retention (some runId)) fun store => store.Has runId := by
  intro fates store has
  apply Ends.mono enforceRetentionProtecting_ends
  · intro _ _ after ⟨kept, dropped, newest⟩
    obtain ⟨stored, measured, perm⟩ := newest.measured
    have listed : runId ∈ (kept ++ dropped).map StoredTestRun.runId := by
      rw [(perm.map _).mem_iff, runIds_eq measured]
      exact has
    rw [map_append, mem_append] at listed
    have isKept : runId ∈ kept.map StoredTestRun.runId := by
      refine listed.resolve_right fun isDropped => ?_
      obtain ⟨run, member, rfl⟩ := mem_map.1 isDropped
      exact newest.unprotected run member rfl
    obtain ⟨folder, member, rfl⟩ := mem_map.1 has
    dsimp only [RunStore.Has]
    rw [newest.retained]
    exact mem_map_of_mem (mem_filter.2 ⟨member, decide_eq_true isKept⟩)
  exact fun _ _ kept => kept runId rfl has

theorem beginRun_keeps {plan : JourneyPlan} :
    Keeps (beginRun env retention plan) fun store => store.Has plan.runId := by
  apply Keeps.bind atomicReplaceBytes_keeps
  intro _
  apply Keeps.bind Keeps.ofExcept
  intro artifactsDisplayPath
  apply Keeps.bind atomicReplaceBytes_keeps
  intro _
  apply Keeps.bind enforceRetentionProtecting_keeps
  exact fun _ => Keeps.pure

theorem begin_ends {plan : JourneyPlan} :
    Ends («begin» env retention plan) fates store (fun _ _ after => after.Has plan.runId)
      fun _ _ => True := by
  rw [«begin»]
  split
  · exact .fail trivial
  apply Ends.bind_read
  split
  · exact .fail trivial
  apply Ends.bind_change
  · exact fun _ => trivial
  · exact fun _ => trivial
  intro left
  apply Ends.bind
  apply Ends.attempt
  apply Ends.mono (beginRun_keeps _ _ RunStore.has_put_self)
  · exact fun _ _ _ has => has
  intro stopped after _
  cases stopped with
  | none => trivial
  | some error =>
    intro left
    apply Ends.bind
    apply Ends.mono (Ends.always (fun _ _ _ => trivial) fun _ _ => trivial)
    · exact fun _ _ _ _ => Ends.fail trivial
    exact fun _ _ stopped => stopped

theorem writeResult_keeps {result : TestRunResult} :
    Keeps (writeResult env result) fun store => store.Has runId := by
  apply Keeps.bind requireRunDirectory_keeps
  intro run
  apply Keeps.bind Keeps.ofExcept
  exact fun _ => atomicReplaceBytes_keeps

theorem finalize_keeps {result : TestRunResult} :
    Keeps (finalize env retention result) fun store => store.Has result.runId := by
  apply Keeps.ite Keeps.fail
  apply Keeps.bind requireRunDirectory_keeps
  intro run
  apply Keeps.bind Keeps.ofExcept
  intro manifest
  apply Keeps.bind writeResult_keeps
  intro _
  apply Keeps.bind Keeps.ofExcept
  intro artifactsDisplayPath
  apply Keeps.bind requireRunDirectory_keeps
  intro written
  apply Keeps.bind Keeps.ofExcept
  intro resultSha256
  apply Keeps.bind atomicReplaceBytes_keeps
  intro _
  apply Keeps.bind enforceRetentionProtecting_keeps
  exact fun _ => Keeps.pure

/-- A run that is protected and too large fails the retention before anything is removed. Otherwise a
retention that succeeds keeps the newest runs within the limits, as they are. A run that was begun is
there, and its own finalizing leaves it there. -/
theorem retention_newestPrefix (env : RunStoreEnv) (retention : TestArtifactRetention) :
    (∀ (store : RunStore) (protectedRunId : Option Uuid) (fates : List Fate),
      ∀ folder ∈ store.runs, some folder.runId = protectedRunId →
        retention.maximumBytes.toNat < treeBytes folder.entries →
        ∃ error left, enforceRetentionProtecting env retention protectedRunId fates store =
          { outcome := .failed error, fates := left, store := store }) ∧
    (∀ (store : RunStore) (protectedRunId : Option Uuid) (fates left : List Fate) (after : RunStore),
      enforceRetentionProtecting env retention protectedRunId fates store =
          { outcome := .value (), fates := left, store := after } →
        (∃ kept dropped,
          NewestPrefix env retention protectedRunId store.runs after.runs kept dropped) ∧
        ∀ runId, protectedRunId = some runId → store.Has runId → after.Has runId) ∧
    (∀ (store : RunStore) (plan : JourneyPlan) (fates left : List Fate) (manifest : TestRunManifest)
        (after : RunStore),
      «begin» env retention plan fates store =
          { outcome := .value manifest, fates := left, store := after } → after.Has plan.runId) ∧
    ∀ (store : RunStore) (result : TestRunResult) (fates : List Fate), store.Has result.runId →
      (finalize env retention result fates store).store.Has result.runId := by
  refine ⟨fun store protectedRunId fates folder member isProtected large => ?_,
    fun store protectedRunId fates left after ended => ?_,
    fun store plan fates left manifest after ended => ?_, fun store result fates has => ?_⟩
  · have ends := @enforceRetentionProtecting_of_large env retention protectedRunId store fates folder
      member isProtected large
    unfold Ends at ends
    split at ends
    · exact ends.elim
    · rename_i error left after ended
      exact ⟨error, left, ends.2 ▸ ended⟩
    · exact absurd rfl ends.1
  · refine ⟨(ends_iff.1 enforceRetentionProtecting_ends).1 () left after ended, ?_⟩
    rintro runId rfl has
    exact (ends_iff.1 (enforceRetentionProtecting_keeps fates store has)).1 () left after ended
  · exact (ends_iff.1 begin_ends).1 manifest left after ended
  · exact Ends.after (fun after : RunStore => after.Has result.runId) (finalize_keeps fates store has)

end Calls

end Wts.Testing
