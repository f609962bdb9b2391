/-
Module: Wts.Proofs.AgentRunRetention
Purpose: After a run of an agent was written, it is there, the directory of the runs is within its
  limits, the other runs are as they were, and the removed ones are no more recent than the kept ones.
Trusted boundary: none
Main exports: writeAgentRun_retains
-/
import Wts.App.EvidenceStore
import Wts.Library.JsonSize
import Wts.Library.StableSort
import Wts.Library.Traverse

namespace Wts.EvidenceStore

open List RecordFiles Retention StableSort

variable {fromSlice : List UInt8 → Option AgentRunSummary}

/-- A directory of runs, each in the file that its identifier names. -/
structure AgentRuns where
  entries : List RunEntry
  distinct : (entries.map RunEntry.leaf).Nodup
  named : ∀ entry ∈ entries, ∀ leaf id, entry.leaf = some leaf → recordId leaf = some id →
    leaf = recordLeaf id

def RunEntry.size (entry : RunEntry) : ℕ :=
  match entry.node with
  | .file bytes _ => bytes.length
  | _ => 0

/-- An entry is the file of a run. -/
structure Stores (fromSlice : List UInt8 → Option AgentRunSummary) (entry : RunEntry)
    (run : AgentRunSummary) : Prop where
  named : entry.leaf = some (recordLeaf run.runId)
  read : ∃ bytes, entry.node = .file bytes true ∧ fromSlice bytes = some run

variable {entries after : List RunEntry} {faults : RetentionFaults}

theorem removeRuns_eq {candidates : List StoredAgentRun}
    (removed : removeRuns fromSlice faults candidates entries = (.ok (), after)) :
    after = entries.filter fun entry => ∀ candidate ∈ candidates, entry.leaf ≠ some candidate.leaf := by
  induction candidates generalizing entries with
  | nil =>
    rw [removeRuns] at removed
    have same := (Prod.mk.inj removed).2
    rw [← same]
    exact (filter_eq_self.2 fun entry _ => decide_eq_true fun _ member => by cases member).symm
  | cons candidate rest ih =>
    rw [removeRuns] at removed
    cases checked : checkPruned fromSlice entries candidate with
    | error error =>
      rw [checked] at removed
      cases (Prod.mk.inj removed).1
    | ok _ =>
      rw [checked] at removed
      dsimp only at removed
      by_cases fails : faults.remove candidate.leaf = true
      · rw [if_pos fails] at removed
        cases (Prod.mk.inj removed).1
      rw [if_neg fails] at removed
      rw [ih removed, filter_filter]
      apply filter_congr
      intro entry _
      rw [← Bool.decide_and]
      apply decide_eq_decide.2
      rw [forall_mem_cons]
      exact And.comm

/-- A stored run and its entry. -/
structure StoredAs (fromSlice : List UInt8 → Option AgentRunSummary) (entry : RunEntry)
    (run : StoredAgentRun) : Prop where
  leaf : entry.leaf = some run.leaf
  id : recordId run.leaf = some run.summary.runId
  size : run.bytes = entry.size
  fits : run.bytes ≤ MAX_EVIDENCE_FILE_BYTES
  read : ∃ bytes, entry.node = .file bytes true ∧ fromSlice bytes = some run.summary

variable {entry : RunEntry}

variable {run left right : StoredAgentRun}

theorem storedAs_of_readStoredRun
    (found : readStoredRun fromSlice entry = .ok run) : StoredAs fromSlice entry run := by
  unfold readStoredRun at found
  cases isLeaf : entry.leaf with
  | none =>
    rw [isLeaf] at found
    cases found
  | some leaf =>
    rw [isLeaf] at found
    cases isId : recordId leaf with
    | none =>
      simp only [isId] at found
      cases found
    | some runId =>
      simp only [isId] at found
      cases isNode : entry.node with
      | unknown =>
        simp only [isNode, readJson, readBytes] at found
        cases found
      | special =>
        simp only [isNode, readJson, readBytes] at found
        cases found
      | file bytes readable =>
        simp only [isNode, readJson, readBytes] at found
        by_cases long : MAX_EVIDENCE_FILE_BYTES < bytes.length
        · simp only [if_pos long] at found
          cases found
        cases readable with
        | false =>
          simp only [if_neg long] at found
          cases found
        | true =>
          simp only [if_neg long, if_true] at found
          cases parsed : fromSlice bytes with
          | none =>
            simp only [parsed] at found
            cases found
          | some summary =>
            simp only [parsed] at found
            by_cases same : summary.runId = runId
            · rw [if_neg (not_not.2 same)] at found
              obtain rfl := Except.ok.inj found
              have size : entry.size = bytes.length := by rw [RunEntry.size, isNode]
              exact ⟨isLeaf, by rw [isId, same], size.symm, not_lt.1 long, bytes, isNode, parsed⟩
            rw [if_pos same] at found
            cases found

/-- What a retention keeps and removes: the runs in their order, cut at the limits. -/
structure Retained (fromSlice : List UInt8 → Option AgentRunSummary) (protectedRunId : Option Uuid)
    (maximumCount maximumBytes : ℕ) (listed after : List RunEntry)
    (stored kept dropped : List StoredAgentRun) : Prop where
  read : List.Forall₂ (StoredAs fromSlice) listed stored
  split : (kept ++ dropped).Perm stored
  sorted : (kept ++ dropped).Pairwise fun left right =>
    runKey protectedRunId left ≤ runKey protectedRunId right
  few : kept.length ≤ maximumCount
  small : (kept.map StoredAgentRun.bytes).sum ≤ maximumBytes
  keepsFirst : ∀ first rest, kept ++ dropped = first :: rest → 0 < maximumCount →
    first.bytes ≤ maximumBytes → first ∈ kept
  after_eq : after = listed.filter fun entry => ∀ run ∈ dropped, entry.leaf ≠ some run.leaf

variable {protectedRunId : Option Uuid}

theorem exists_retained
    {maximumCount maximumBytes : ℕ} {listed : List RunEntry} {summaries : List AgentRunSummary}
    (retained : retainAgentRuns fromSlice faults protectedRunId maximumCount maximumBytes listed =
      (.ok summaries, after)) :
    ∃ stored kept dropped, Retained fromSlice protectedRunId maximumCount maximumBytes listed after
      stored kept dropped := by
  unfold retainAgentRuns at retained
  cases directory : faults.directory with
  | some error =>
    simp only [directory] at retained
    cases (Prod.mk.inj retained).1
  | none =>
    simp only [directory] at retained
    by_cases unlisted : faults.listing = true
    · rw [if_pos unlisted] at retained
      cases (Prod.mk.inj retained).1
    rw [if_neg unlisted] at retained
    cases reads : listed.mapM (readStoredRun fromSlice) with
    | error error =>
      simp only [reads] at retained
      cases (Prod.mk.inj retained).1
    | ok stored =>
      simp only [reads] at retained
      generalize isSorted : (stored.insertionSort fun left right =>
        runKey protectedRunId left ≤ runKey protectedRunId right) = sorted at retained
      generalize isCount : retainedCount maximumCount maximumBytes StoredAgentRun.bytes 0 0
        sorted = count at retained
      cases removes : removeRuns fromSlice faults
          ((sorted.drop count).insertionSort fun left right => left.leaf ≤ right.leaf) listed with
      | mk outcome remaining =>
        simp only [removes] at retained
        cases outcome with
        | error error => cases (Prod.mk.inj retained).1
        | ok _ =>
          obtain rfl := (Prod.mk.inj retained).2
          refine ⟨stored, sorted.take count, sorted.drop count, ?_, ?_, ?_, ?_, ?_, ?_, ?_⟩
          case _ =>
            apply (Traverse.mapM_eq_ok_iff.1 reads).imp
            intro entry run found
            exact storedAs_of_readStoredRun found
          case _ =>
            rw [take_append_drop, ← isSorted]
            exact perm_insertionSort _ _
          case _ =>
            rw [take_append_drop, ← isSorted]
            exact pairwise_insertionSort _ _
          case _ =>
            rw [← isCount]
            exact length_take_retainedCount_le sorted
          case _ =>
            rw [← isCount]
            exact sum_take_retainedCount_le sorted
          case _ =>
            intro first rest isFirst some fits
            rw [take_append_drop] at isFirst
            have positive : 0 < count := by
              rw [← isCount, isFirst]
              exact retainedCount_pos some fits
            obtain ⟨further, rfl⟩ := Nat.exists_eq_add_of_lt positive
            rw [isFirst, Nat.zero_add, take_succ_cons]
            exact mem_cons_self
          case _ =>
            rw [removeRuns_eq removes]
            apply filter_congr
            intro entry _
            apply decide_eq_decide.2
            simp only [mem_insertionSort]

section Retained

variable {protectedRunId : Option Uuid} {maximumCount maximumBytes : ℕ} {listed after : List RunEntry}
  {stored kept dropped : List StoredAgentRun}

section

variable
  (retained : Retained fromSlice protectedRunId maximumCount maximumBytes listed after stored kept dropped)
include retained

theorem Retained.leaves : listed.map RunEntry.leaf = stored.map fun run => some run.leaf := by
  have read := retained.read
  clear retained
  induction read with
  | nil => rfl
  | cons first _ ih => rw [map_cons, map_cons, first.leaf, ih]

theorem Retained.disjoint (distinct : (listed.map RunEntry.leaf).Nodup) :
    ∀ keptRun ∈ kept, ∀ run ∈ dropped, keptRun.leaf ≠ run.leaf := by
  rw [retained.leaves] at distinct
  have nodup := (retained.split.map fun run => some run.leaf).nodup_iff.2 distinct
  rw [map_append] at nodup
  intro keptRun isKept run isDropped same
  exact disjoint_of_nodup_append nodup (mem_map_of_mem isKept)
    (by rw [same]; exact mem_map_of_mem isDropped)

theorem Retained.mem_after_iff (distinct : (listed.map RunEntry.leaf).Nodup)
    {entry : RunEntry} {run : StoredAgentRun} (isListed : entry ∈ listed) (isStored : run ∈ stored)
    (storedAs : StoredAs fromSlice entry run) : entry ∈ after ↔ run ∈ kept := by
  rw [retained.after_eq, mem_filter, decide_eq_true_iff]
  constructor
  · intro ⟨_, stays⟩
    rcases mem_append.1 (retained.split.mem_iff.2 isStored) with isKept | isDropped
    · exact isKept
    exact absurd storedAs.leaf (stays run isDropped)
  intro isKept
  refine ⟨isListed, ?_⟩
  intro other isDropped same
  rw [storedAs.leaf] at same
  exact retained.disjoint distinct run isKept other isDropped (Option.some.inj same)

theorem Retained.sizes (distinct : (listed.map RunEntry.leaf).Nodup) :
    (after.map RunEntry.size).Perm (kept.map StoredAgentRun.bytes) := by
  let stays := fun run : StoredAgentRun => decide (∀ other ∈ dropped, run.leaf ≠ other.leaf)
  have keptStay : (kept ++ dropped).filter stays = kept := by
    rw [filter_append, filter_eq_self.2, filter_eq_nil_iff.2, append_nil]
    · intro run isDropped stay
      exact of_decide_eq_true stay run isDropped rfl
    intro run isKept
    exact decide_eq_true fun other isDropped => retained.disjoint distinct run isKept other isDropped
  have pairs : List.Forall₂ (StoredAs fromSlice) after (stored.filter stays) := by
    rw [retained.after_eq]
    refine rel_filter ?_ retained.read
    intro entry run storedAs
    simp only [stays, decide_eq_true_iff, storedAs.leaf, ne_eq, Option.some.injEq]
  have sizes : after.map RunEntry.size = (stored.filter stays).map StoredAgentRun.bytes := by
    clear keptStay retained
    generalize stored.filter stays = runs at pairs
    induction pairs with
    | nil => rfl
    | cons storedAs _ ih => rw [map_cons, map_cons, storedAs.size, ih]
  have perm := (retained.split.symm.filter stays).map StoredAgentRun.bytes
  rw [keptStay] at perm
  rw [sizes]
  exact perm

end

end Retained

/-! ### Writing a run -/

def writtenEntry (run : AgentRunSummary) : RunEntry where
  leaf := some (recordLeaf run.runId)
  node := .file (toVecPretty run.toJson) true

theorem mem_putFile {leaf : String} {node : Node} : entry ∈ putFile entries leaf node ↔
      entry = { leaf := some leaf, node := node } ∨ entry ∈ entries ∧ entry.leaf ≠ some leaf := by
  rw [putFile, mem_cons, mem_filter, decide_eq_true_iff]

theorem AgentRuns.distinct_putFile (runs : AgentRuns) (leaf : String) (node : Node) :
    ((putFile runs.entries leaf node).map RunEntry.leaf).Nodup := by
  rw [putFile, map_cons, nodup_cons]
  constructor
  · intro member
    obtain ⟨entry, isOther, same⟩ := mem_map.1 member
    exact of_decide_eq_true (mem_filter.1 isOther).2 same
  exact (filter_sublist.map _).nodup runs.distinct

theorem AgentRuns.named_putFile (runs : AgentRuns) (id : Uuid) (node : Node) :
    ∀ entry ∈ putFile runs.entries (recordLeaf id) node, ∀ leaf other, entry.leaf = some leaf →
      recordId leaf = some other → leaf = recordLeaf other := by
  intro entry inside leaf other isLeaf isId
  rcases mem_putFile.1 inside with isWritten | ⟨isOld, _⟩
  · rw [isWritten] at isLeaf
    obtain rfl := Option.some.inj isLeaf
    rw [recordId_recordLeaf] at isId
    rw [Option.some.inj isId]
  exact runs.named entry isOld leaf other isLeaf isId

/-- A failed removal keeps the files that were not removed yet. -/
theorem removeRuns_sublist (candidates : List StoredAgentRun) (entries : List RunEntry) :
    (removeRuns fromSlice faults candidates entries).2.Sublist entries := by
  induction candidates generalizing entries with
  | nil => exact .refl _
  | cons candidate rest ih =>
    rw [removeRuns]
    split
    · exact .refl _
    split
    · exact .refl _
    exact (ih _).trans filter_sublist

theorem retainAgentRuns_sublist (maximumCount maximumBytes : ℕ) (entries : List RunEntry) :
    (retainAgentRuns fromSlice faults protectedRunId maximumCount maximumBytes entries).2.Sublist
      entries := by
  unfold retainAgentRuns
  split
  · exact .refl _
  split
  · exact .refl _
  split
  · exact .refl _
  rename_i stored _
  have removes := @removeRuns_sublist fromSlice faults ((drop (retainedCount maximumCount maximumBytes
    StoredAgentRun.bytes 0 0 (insertionSort (fun left right => runKey protectedRunId left ≤
      runKey protectedRunId right) stored)) (insertionSort (fun left right =>
        runKey protectedRunId left ≤ runKey protectedRunId right) stored)).insertionSort
          fun left right => left.leaf ≤ right.leaf) entries
  dsimp only
  split
  · rename_i isRemoved
    rw [isRemoved] at removes
    exact removes
  · rename_i isRemoved
    rw [isRemoved] at removes
    exact removes

/-- Every write, also one that fails, leaves a directory of runs in files with their names. -/
theorem exists_writeAgentRun (fromSlice : List UInt8 → Option AgentRunSummary) (write : WriteFaults)
    (faults : RetentionFaults) {listing : List RunEntry → List RunEntry}
    (anyOrder : ∀ entries, (listing entries).Perm entries) (runs : AgentRuns) (run : AgentRunSummary) :
    ∃ after : AgentRuns,
      after.entries = (writeAgentRun fromSlice write faults listing runs.entries run).2 := by
  suffices kept : (writeAgentRun fromSlice write faults listing runs.entries run).2 = runs.entries ∨
      ∃ node, (writeAgentRun fromSlice write faults listing runs.entries run).2.Sublist
        (listing (putFile runs.entries (recordLeaf run.runId) node)) by
    rcases kept with same | ⟨node, sublist⟩
    · exact ⟨runs, same.symm⟩
    have perm := anyOrder (putFile runs.entries (recordLeaf run.runId) node)
    refine ⟨⟨_, (sublist.map _).nodup ((perm.map _).nodup_iff.2 (runs.distinct_putFile _ node)), ?_⟩,
      rfl⟩
    intro entry inside
    exact runs.named_putFile run.runId node entry (perm.subset (sublist.subset inside))
  unfold writeAgentRun
  split
  · exact .inl rfl
  · exact .inl rfl
  dsimp only
  split
  · exact .inl rfl
  rename_i node _
  have retains := @retainAgentRuns_sublist fromSlice faults (some run.runId) MAX_AGENT_RUNS
    MAX_AGENT_RUN_BYTES (listing (putFile runs.entries (recordLeaf run.runId) node))
  right
  refine ⟨node, ?_⟩
  split
  · rename_i isRetained
    rw [isRetained] at retains
    exact retains
  · rename_i isRetained
    rw [isRetained] at retains
    exact retains

theorem exists_retained_of_writeAgentRun {write : WriteFaults}
    {listing : List RunEntry → List RunEntry} {run : AgentRunSummary}
    (written : writeAgentRun fromSlice write faults listing entries run = (.ok (), after)) :
    (toVecPretty run.toJson).length ≤ MAX_EVIDENCE_FILE_BYTES ∧
      ∃ stored kept dropped, Retained fromSlice (some run.runId) MAX_AGENT_RUNS MAX_AGENT_RUN_BYTES
        (listing (putFile entries (recordLeaf run.runId) (.file (toVecPretty run.toJson) true))) after
        stored kept dropped := by
  unfold writeAgentRun at written
  cases root : write.root with
  | some error =>
    simp only [root] at written
    cases (Prod.mk.inj written).1
  | none =>
    cases directory : faults.directory with
    | some error =>
      simp only [root, directory] at written
      cases (Prod.mk.inj written).1
    | none =>
      simp only [root, directory] at written
      cases replaced : atomicReplaceBytes write.replace (nodeAt entries (recordLeaf run.runId))
          (toVecPretty run.toJson) with
      | error error =>
        simp only [replaced] at written
        cases (Prod.mk.inj written).1
      | ok node =>
        simp only [replaced] at written
        have isFile : (toVecPretty run.toJson).length ≤ MAX_EVIDENCE_FILE_BYTES ∧
            node = .file (toVecPretty run.toJson) true := by
          unfold atomicReplaceBytes at replaced
          split_ifs at replaced with _ long
          exact ⟨not_lt.1 long, (Except.ok.inj replaced).symm⟩
        obtain ⟨fits, rfl⟩ := isFile
        cases retains : retainAgentRuns fromSlice faults (some run.runId) MAX_AGENT_RUNS
            MAX_AGENT_RUN_BYTES (listing (putFile entries (recordLeaf run.runId)
              (.file (toVecPretty run.toJson) true))) with
        | mk outcome remaining =>
          simp only [retains] at written
          cases outcome with
          | error error => cases (Prod.mk.inj written).1
          | ok summaries =>
            obtain rfl := (Prod.mk.inj written).2
            exact ⟨fits, exists_retained retains⟩

theorem StoredAs.stores (storedAs : StoredAs fromSlice entry run)
    (named : ∀ leaf id, entry.leaf = some leaf → recordId leaf = some id → leaf = recordLeaf id) :
    Stores fromSlice entry run.summary where
  named := by
    rw [storedAs.leaf, named run.leaf run.summary.runId storedAs.leaf storedAs.id]
  read := storedAs.read

theorem runKey_protected_lt (isProtected : some left.summary.runId = protectedRunId)
    (other : some right.summary.runId ≠ protectedRunId) :
    ¬runKey protectedRunId right ≤ runKey protectedRunId left := by
  intro below
  rw [runKey, runKey, if_pos isProtected, if_neg other] at below
  rcases Prod.Lex.le_iff.1 below with smaller | ⟨same, _⟩
  · cases smaller
  cases same

theorem le_of_lex_le {β γ : Type} [LinearOrder β] [LinearOrder γ] {rank : ℕ} {first second : β}
    {left right : γ} (below : (toLex (rank, toLex (OrderDual.toDual first, left)) : ℕ ×ₗ βᵒᵈ ×ₗ γ) ≤
      toLex (rank, toLex (OrderDual.toDual second, right))) : second ≤ first := by
  rcases Prod.Lex.le_iff.1 below with smaller | ⟨_, later⟩
  · exact absurd smaller (lt_irrefl rank)
  rcases Prod.Lex.le_iff.1 later with more | ⟨same, _⟩
  · exact le_of_lt (OrderDual.toDual_lt_toDual.1 more)
  exact le_of_eq (OrderDual.toDual_inj.1 same).symm

theorem recency_le_of_runKey_le (otherLeft : some left.summary.runId ≠ protectedRunId)
    (otherRight : some right.summary.runId ≠ protectedRunId)
    (below : runKey protectedRunId left ≤ runKey protectedRunId right) :
    agentRunRecency right.summary ≤ agentRunRecency left.summary := by
  rw [runKey, runKey, if_neg otherLeft, if_neg otherRight] at below
  exact le_of_lex_le below

/-- After a successful write the run is there, at most 256 runs with at most 4 MiB are kept, each kept
run is the written one or one that was there, unaltered, and a run that was removed is no more recent
than any kept run but the written one. -/
theorem writeAgentRun_retains (fromSlice : List UInt8 → Option AgentRunSummary) (write : WriteFaults)
    (faults : RetentionFaults) (listing : List RunEntry → List RunEntry)
    (anyOrder : ∀ entries, (listing entries).Perm entries) (runs : AgentRuns) (run : AgentRunSummary)
    (after : List RunEntry)
    (written : writeAgentRun fromSlice write faults listing runs.entries run = (.ok (), after)) :
    writtenEntry run ∈ after ∧ after.length ≤ MAX_AGENT_RUNS ∧
      (after.map RunEntry.size).sum ≤ MAX_AGENT_RUN_BYTES ∧
      (∀ entry ∈ after, entry = writtenEntry run ∨
        entry ∈ runs.entries ∧ entry.leaf ≠ (writtenEntry run).leaf) ∧
      ∀ removed ∈ runs.entries, removed.leaf ≠ (writtenEntry run).leaf → removed ∉ after →
        ∀ kept ∈ after, kept ≠ writtenEntry run → ∃ old new, Stores fromSlice removed old ∧
          Stores fromSlice kept new ∧ agentRunRecency old ≤ agentRunRecency new := by
  obtain ⟨fits, stored, kept, dropped, retained⟩ := exists_retained_of_writeAgentRun written
  generalize isListed : listing (putFile runs.entries (recordLeaf run.runId)
    (.file (toVecPretty run.toJson) true)) = listed at retained
  have perm : listed.Perm (putFile runs.entries (recordLeaf run.runId)
      (.file (toVecPretty run.toJson) true)) := by
    rw [← isListed]
    exact anyOrder _
  have member : ∀ entry, entry ∈ listed ↔ entry = writtenEntry run ∨
      entry ∈ runs.entries ∧ entry.leaf ≠ (writtenEntry run).leaf := by
    intro entry
    rw [perm.mem_iff, mem_putFile]
    rfl
  have distinct : (listed.map RunEntry.leaf).Nodup :=
    (perm.map RunEntry.leaf).nodup_iff.2 (runs.distinct_putFile _ _)
  have named : ∀ entry ∈ listed, ∀ leaf id, entry.leaf = some leaf → recordId leaf = some id →
      leaf = recordLeaf id :=
    fun entry inside => runs.named_putFile run.runId _ entry (perm.mem_iff.1 inside)
  have inside : ∀ entry ∈ after, entry ∈ listed := by
    intro entry isAfter
    rw [retained.after_eq] at isAfter
    exact (mem_filter.1 isAfter).1
  -- each listed entry is the file of a run
  have runOf : ∀ entry ∈ listed, ∃ found ∈ stored, StoredAs fromSlice entry found := by
    intro entry isEntry
    obtain ⟨found, pair, storedAs⟩ := Traverse.forall₂_mem_left retained.read isEntry
    exact ⟨found, (of_mem_zip pair).2, storedAs⟩
  -- only the written entry has the protected run
  have unprotected : ∀ entry ∈ listed, ∀ found, StoredAs fromSlice entry found →
      entry ≠ writtenEntry run → some found.summary.runId ≠ some run.runId := by
    intro entry isEntry found storedAs other same
    rcases (member entry).1 isEntry with isWritten | ⟨_, otherLeaf⟩
    · exact other isWritten
    · apply otherLeaf
      rw [(storedAs.stores (named entry isEntry)).named, Option.some.inj same]
      rfl
  have sizes := retained.sizes distinct
  refine ⟨?_, ?_, ?_, fun entry isAfter => (member entry).1 (inside entry isAfter), ?_⟩
  · have isThere : writtenEntry run ∈ listed := (member _).2 (.inl rfl)
    obtain ⟨found, isStored, storedAs⟩ := runOf _ isThere
    apply (retained.mem_after_iff distinct isThere isStored storedAs).2
    have isRun : found.summary.runId = run.runId := by
      have id := storedAs.id
      rw [← Option.some.inj storedAs.leaf, recordId_recordLeaf] at id
      exact (Option.some.inj id).symm
    have inOrder : found ∈ kept ++ dropped := retained.split.mem_iff.2 isStored
    -- the first run of the order is protected, so it is the written one
    obtain ⟨first, rest, isFirst⟩ := exists_cons_of_ne_nil (ne_nil_of_mem inOrder)
    have small : found.bytes ≤ MAX_AGENT_RUN_BYTES := storedAs.fits.trans (by decide)
    rw [isFirst] at inOrder
    rcases mem_cons.1 inOrder with same | later
    · rw [same]
      apply retained.keepsFirst first rest isFirst (by decide)
      rw [← same]
      exact small
    exfalso
    have ordered := retained.sorted
    rw [isFirst] at ordered
    have below := (pairwise_cons.1 ordered).1 found later
    have firstStored : first ∈ stored :=
      retained.split.mem_iff.1 (by rw [isFirst]; exact mem_cons_self)
    have nodup := retained.leaves ▸ distinct
    have nodupOrder := (retained.split.map fun run => some run.leaf).nodup_iff.2 nodup
    rw [isFirst, map_cons, nodup_cons] at nodupOrder
    by_cases isProtected : some first.summary.runId = some run.runId
    · -- two protected runs would share a name
      obtain ⟨entry, pair, firstAs⟩ := Traverse.forall₂_mem_left retained.read.flip firstStored
      have isEntry := (of_mem_zip pair).2
      have firstNamed := (firstAs.stores (named entry isEntry)).named
      rw [firstAs.leaf, Option.some.inj isProtected] at firstNamed
      apply nodupOrder.1
      rw [firstNamed]
      exact mem_map.2 ⟨found, later, storedAs.leaf.symm⟩
    · exact runKey_protected_lt (congrArg some isRun) isProtected below
  · rw [← length_map RunEntry.size, sizes.length_eq, length_map]
    exact retained.few
  · rw [sizes.sum_eq]
    exact retained.small
  · intro removed isOld otherLeaf isRemoved keptEntry isKept other
    have isListedRemoved : removed ∈ listed := (member removed).2 (.inr ⟨isOld, otherLeaf⟩)
    obtain ⟨old, oldStored, oldAs⟩ := runOf removed isListedRemoved
    obtain ⟨new, newStored, newAs⟩ := runOf keptEntry (inside keptEntry isKept)
    refine ⟨old.summary, new.summary, oldAs.stores (named removed isListedRemoved),
      newAs.stores (named keptEntry (inside keptEntry isKept)), ?_⟩
    have newKept := (retained.mem_after_iff distinct (inside keptEntry isKept) newStored newAs).1 isKept
    have oldDropped : old ∈ dropped := by
      rcases mem_append.1 (retained.split.mem_iff.2 oldStored) with isKept | isDropped
      · exact absurd ((retained.mem_after_iff distinct isListedRemoved oldStored oldAs).2 isKept)
          isRemoved
      · exact isDropped
    have notWritten : removed ≠ writtenEntry run := fun same => otherLeaf (by rw [same])
    apply recency_le_of_runKey_le (unprotected keptEntry (inside keptEntry isKept) new newAs other)
      (unprotected removed isListedRemoved old oldAs notWritten)
    exact (pairwise_append.1 retained.sorted).2.2 new newKept old oldDropped

def sampleRun : AgentRunSummary where
  schemaVersion := 1
  runId := 5
  workspaceId := 7
  provider := .codex
  state := .succeeded
  startedAtUnixMs := 100
  completedAtUnixMs := some 200
  durationMs := some 100
  promptSha256 := "prompt"
  outputSha256 := none
  failure := none

/-- Every removal succeeds. -/
def retains : RetentionFaults where
  directory := none
  listing := false
  remove := fun _ => false

/-- The directory before the first run is written. -/
def noRuns : AgentRuns where
  entries := []
  distinct := nodup_nil
  named := fun entry member => by cases member

/-- A run is read from its entry, and still from the entry alone among entries of distinct names. -/
theorem checkPruned_of_read (distinct : (entries.map RunEntry.leaf).Nodup) (inside : entry ∈ entries)
    (reads : readStoredRun fromSlice entry = .ok run) :
    checkPruned fromSlice entries run = .ok () := by
  have storedAs := storedAs_of_readStoredRun reads
  obtain ⟨bytes, isNode, parsed⟩ := storedAs.read
  have size : bytes.length = run.bytes := by rw [storedAs.size, RunEntry.size, isNode]
  have node : nodeAt entries run.leaf = some (.file bytes true) := by
    rw [nodeAt, ← isNode]
    obtain ⟨other, isFound⟩ : ∃ other, entries.find? (fun other => other.leaf = some run.leaf) =
        some other := by
      rw [← Option.isSome_iff_exists, find?_isSome]
      exact ⟨entry, inside, by simp [storedAs.leaf]⟩
    have isOther := find?_some isFound
    rw [decide_eq_true_eq] at isOther
    rw [isFound, Option.map_some, inj_on_of_nodup_map distinct (mem_of_find?_eq_some isFound) inside
      (isOther.trans storedAs.leaf.symm)]
  have short := not_lt.2 (size ▸ storedAs.fits)
  simp [checkPruned, node, readJson, readBytes, size, size ▸ short, parsed]

/-- Files that are still as they were read are removed when the file system removes them. -/
theorem removeRuns_ok {candidates : List StoredAgentRun}
    (distinct : (entries.map RunEntry.leaf).Nodup) (apart : (candidates.map StoredAgentRun.leaf).Nodup)
    (reads : ∀ candidate ∈ candidates, ∃ entry ∈ entries,
      readStoredRun fromSlice entry = .ok candidate) :
    (removeRuns fromSlice retains candidates entries).1 = .ok () := by
  induction candidates generalizing entries with
  | nil => rfl
  | cons candidate rest ih =>
    obtain ⟨fresh, apartRest⟩ := nodup_cons.1 apart
    obtain ⟨entry, inside, read⟩ := reads candidate mem_cons_self
    rw [removeRuns, checkPruned_of_read distinct inside read]
    refine ih ((filter_sublist.map _).nodup distinct) apartRest ?_
    intro other member
    obtain ⟨otherEntry, otherInside, otherRead⟩ := reads other (mem_cons_of_mem _ member)
    refine ⟨otherEntry, mem_filter.2 ⟨otherInside, decide_eq_true ?_⟩, otherRead⟩
    rw [(storedAs_of_readStoredRun otherRead).leaf]
    exact fun same => fresh (Option.some.inj same ▸ mem_map_of_mem member)

/-- A run that fits is written next to runs that can be read, whatever has to be pruned for it. -/
theorem exists_written {listing : List RunEntry → List RunEntry}
    (anyOrder : ∀ entries, (listing entries).Perm entries) (runs : AgentRuns) {run : AgentRunSummary}
    (readable : ∀ entry ∈ runs.entries, ∃ stored, readStoredRun fromSlice entry = .ok stored)
    (fits : (toVecPretty run.toJson).length ≤ MAX_EVIDENCE_FILE_BYTES)
    (read : fromSlice (toVecPretty run.toJson) = some run)
    (free : replaceable (nodeAt runs.entries (recordLeaf run.runId)) = true) :
    ∃ after, writeAgentRun fromSlice { root := none, replace := false } retains listing runs.entries
      run = (.ok (), after) := by
  have replaced : atomicReplaceBytes false (nodeAt runs.entries (recordLeaf run.runId))
      (toVecPretty run.toJson) = .ok (.file (toVecPretty run.toJson) true) := by
    simp [atomicReplaceBytes, free, not_lt.2 fits]
  have perm := anyOrder (putFile runs.entries (recordLeaf run.runId) (.file (toVecPretty run.toJson) true))
  have distinct := (perm.map RunEntry.leaf).nodup_iff.2 (runs.distinct_putFile _ _)
  obtain ⟨stored, listed⟩ : ∃ stored, (listing (putFile runs.entries (recordLeaf run.runId)
      (.file (toVecPretty run.toJson) true))).mapM (readStoredRun fromSlice) = .ok stored := by
    apply Traverse.exists_mapM_eq_ok
    intro entry inside
    rcases mem_putFile.1 (perm.subset inside) with rfl | ⟨isOld, -⟩
    · exact ⟨⟨recordLeaf run.runId, (toVecPretty run.toJson).length, run⟩, by
        simp [readStoredRun, readJson, readBytes, not_lt.2 fits, read]⟩
    exact readable entry isOld
  have each := Traverse.mapM_eq_ok_iff.1 listed
  have leaves : (stored.map StoredAgentRun.leaf).Nodup := by
    have same : (listing (putFile runs.entries (recordLeaf run.runId)
        (.file (toVecPretty run.toJson) true))).map RunEntry.leaf =
          (stored.map StoredAgentRun.leaf).map some := by
      rw [map_map]
      refine forall₂_eq_eq_eq ▸ forall₂_map_left_iff.2 (forall₂_map_right_iff.2 (each.imp ?_))
      exact fun entry one reads => (storedAs_of_readStoredRun reads).leaf
    rw [same] at distinct
    exact distinct.of_map _
  have retained : (retainAgentRuns fromSlice retains (some run.runId) MAX_AGENT_RUNS
      MAX_AGENT_RUN_BYTES (listing (putFile runs.entries (recordLeaf run.runId)
        (.file (toVecPretty run.toJson) true)))).1.toOption.isSome = true := by
    unfold retainAgentRuns
    simp only [retains, listed, Bool.false_eq_true, if_false]
    generalize isSorted : (stored.insertionSort fun left right =>
      runKey (some run.runId) left ≤ runKey (some run.runId) right) = sorted
    generalize retainedCount MAX_AGENT_RUNS MAX_AGENT_RUN_BYTES StoredAgentRun.bytes 0 0 sorted = count
    have inStored : ((sorted.drop count).insertionSort fun left right =>
        left.leaf ≤ right.leaf).Subperm stored :=
      (perm_insertionSort _ _).subperm.trans ((drop_sublist _ _).subperm.trans
        (isSorted ▸ perm_insertionSort _ _).subperm)
    obtain ⟨same, perm, sublist⟩ := inStored
    have removed := removeRuns_ok distinct
      ((perm.map _).nodup_iff.1 ((sublist.map _).nodup leaves)) fun candidate member => by
        obtain ⟨entry, inside, isRead⟩ :=
          Traverse.forall₂_mem_left each.flip (sublist.subset (perm.mem_iff.2 member))
        exact ⟨entry, (of_mem_zip inside).2, isRead⟩
    simp only [retains] at removed
    split
    · rename_i isRemoved
      rw [isRemoved] at removed
      cases removed
    · rfl
  unfold writeAgentRun
  simp only [retains, replaced]
  simp only [retains] at retained
  split
  · rename_i isRetained
    rw [isRetained] at retained
    cases retained
  · exact ⟨_, rfl⟩

/-! ### A store at its limit -/

section Full

variable (characters : ℕ)

/-- A run with a long digest, started after those with a smaller number. -/
def longRun (number : Fin 9) : AgentRunSummary :=
  { sampleRun with
    runId := number.castLE (by decide)
    startedAtUnixMs := 100 * Int64.ofNat number
    completedAtUnixMs := none
    promptSha256 := String.ofList (List.replicate characters 'a') }

theorem length_longRun (number : Fin 9) : (toVecPretty (longRun characters number).toJson).length =
    Json.prettySize 0 (longRun 0 number).toJson + characters := by
  have plain : Json.escapedSize 'a' = 1 := by decide
  rw [toVecPretty, Text.length_utf8Bytes, Json.utf8ByteSize_pretty]
  simp only [longRun, sampleRun, AgentRunSummary.toJson, Serde.record, Serde.present,
    filterMap_cons, filterMap_nil, Option.map_some, Option.map_none, Json.prettySize,
    Json.prettyFieldsSize, Json.prettyEntrySize, Json.size, Json.textSize_replicate, plain]
  ring

theorem longRun_injective : Function.Injective fun number =>
    toVecPretty (longRun characters number).toJson := by
  intro first second same
  have texts := Json.parse_pretty (longRun characters first).toJson
  rw [Text.utf8Bytes_injective same, Json.parse_pretty] at texts
  have fields := Json.object.inj (Option.some.inj texts)
  simp only [longRun, Serde.present, filterMap_cons, Option.map_some, cons.injEq, Prod.mk.injEq,
    Serde.ofUuid, Json.string.injEq] at fields
  have ids := congrArg parseUuid fields.2.1.2
  rw [parseUuid_uuidText, parseUuid_uuidText] at ids
  exact (Fin.castLE_inj.1 (Option.some.inj ids)).symm

theorem longRun_leaf_injective :
    Function.Injective fun number => (writtenEntry (longRun characters number)).leaf := by
  intro first second same
  have ids := congrArg recordId (Option.some.inj same)
  rw [recordId_recordLeaf, recordId_recordLeaf] at ids
  have numbers := congrArg Fin.val (Option.some.inj ids)
  exact Fin.ext numbers

/-- The long runs by their texts. -/
def readLong (bytes : List UInt8) : Option AgentRunSummary :=
  ((List.finRange 9).find? fun number => toVecPretty (longRun characters number).toJson = bytes).map
    (longRun characters)

theorem readLong_longRun (number : Fin 9) :
    readLong characters (toVecPretty (longRun characters number).toJson) =
      some (longRun characters number) := by
  obtain ⟨found, isFound⟩ : ∃ found, (List.finRange 9).find? (fun other =>
      toVecPretty (longRun characters other).toJson =
        toVecPretty (longRun characters number).toJson) = some found := by
    rw [← Option.isSome_iff_exists, find?_isSome]
    exact ⟨number, mem_finRange number, decide_eq_true rfl⟩
  have same := find?_some isFound
  rw [decide_eq_true_eq] at same
  rw [readLong, isFound, Option.map_some, longRun_injective characters same]

/-- The first eight of the long runs. -/
def longRuns : AgentRuns where
  entries := ((List.finRange 9).take 8).map fun number => writtenEntry (longRun characters number)
  distinct := by
    rw [map_map]
    exact ((nodup_finRange 9).sublist (take_sublist _ _)).map (longRun_leaf_injective characters)
  named := by
    intro entry member leaf id isLeaf isId
    obtain ⟨number, -, rfl⟩ := mem_map.1 member
    obtain rfl := Option.some.inj isLeaf
    rw [recordId_recordLeaf] at isId
    rw [Option.some.inj isId]

theorem longRuns_apart : ∀ entry ∈ (longRuns characters).entries,
    entry.leaf ≠ (writtenEntry (longRun characters 8)).leaf := by
  intro entry member
  obtain ⟨number, inside, rfl⟩ := mem_map.1 member
  have last : ∀ number ∈ (List.finRange 9).take 8, number ≠ 8 := by decide
  exact fun same => last number inside (longRun_leaf_injective characters same)

variable {characters}

theorem writeAgentRun_long (fits : ∀ number : Fin 9,
      (toVecPretty (longRun characters number).toJson).length ≤ MAX_EVIDENCE_FILE_BYTES) :
    ∃ after, writeAgentRun (readLong characters) { root := none, replace := false } retains id
      (longRuns characters).entries (longRun characters 8) = (.ok (), after) := by
  refine exists_written (fun _ => .refl _) _ ?_ (fits 8) (readLong_longRun characters 8) ?_
  · intro entry member
    obtain ⟨number, -, rfl⟩ := mem_map.1 member
    exact ⟨⟨recordLeaf (longRun characters number).runId,
      (toVecPretty (longRun characters number).toJson).length, longRun characters number⟩, by
      simp [readStoredRun, writtenEntry, readJson, readBytes, not_lt.2 (fits number),
        readLong_longRun characters number]⟩
  have free : nodeAt (longRuns characters).entries (recordLeaf (longRun characters 8).runId) = none := by
    rw [nodeAt, Option.map_eq_none_iff, find?_eq_none]
    intro entry member
    exact fun same => longRuns_apart characters entry member (of_decide_eq_true same)
  rw [free]
  rfl

/-- Nine runs of more than 466000 bytes are more than the directory keeps. -/
theorem exists_pruned (long : 466040 ≤ characters) {after : List RunEntry}
    (isWritten : writtenEntry (longRun characters 8) ∈ after)
    (small : (after.map RunEntry.size).sum ≤ MAX_AGENT_RUN_BYTES) :
    ∃ removed ∈ (longRuns characters).entries, removed ∉ after := by
  by_contra none
  push Not at none
  have distinct : (writtenEntry (longRun characters 8) :: (longRuns characters).entries).Nodup :=
    nodup_cons.2 ⟨fun again => longRuns_apart characters _ again rfl,
      (longRuns characters).distinct.of_map _⟩
  have inside : writtenEntry (longRun characters 8) :: (longRuns characters).entries ⊆ after :=
    cons_subset.2 ⟨isWritten, fun entry => none entry⟩
  obtain ⟨same, perm, sublist⟩ := subperm_of_subset distinct inside
  have total := (sublist.map RunEntry.size).sum_le_sum fun _ _ => Nat.zero_le _
  have each : ∀ number, characters ≤ (writtenEntry (longRun characters number)).size := by
    intro number
    show characters ≤ (toVecPretty (longRun characters number).toJson).length
    rw [length_longRun]
    exact Nat.le_add_left _ _
  have sizes := card_nsmul_le_sum ((longRuns characters).entries.map RunEntry.size) characters (by
    intro size member
    obtain ⟨entry, isEntry, rfl⟩ := mem_map.1 member
    obtain ⟨number, -, rfl⟩ := mem_map.1 isEntry
    exact each number)
  rw [length_map, smul_eq_mul, show (longRuns characters).entries.length = 8 from rfl] at sizes
  rw [(perm.map _).sum_eq, map_cons, sum_cons] at total
  have first := each 8
  have limit : MAX_AGENT_RUN_BYTES = 4194304 := rfl
  omega

end Full

/-- The ninth run is written next to eight runs of half a megabyte: one of them is pruned. -/
theorem writeAgentRun_retains_sample : ∃ (characters : ℕ) (after : List RunEntry),
    writeAgentRun (readLong characters) { root := none, replace := false } retains id
        (longRuns characters).entries (longRun characters 8) = (.ok (), after) ∧
      writtenEntry (longRun characters 8) ∈ after ∧
      (after.map RunEntry.size).sum ≤ MAX_AGENT_RUN_BYTES ∧
      ∃ removed ∈ (longRuns characters).entries, removed ∉ after ∧
        ∀ kept ∈ after, kept ≠ writtenEntry (longRun characters 8) → ∃ old new,
          Stores (readLong characters) removed old ∧ Stores (readLong characters) kept new ∧
            agentRunRecency old ≤ agentRunRecency new := by
  obtain ⟨characters, long, short⟩ : ∃ characters, 466040 ≤ characters ∧ characters ≤ 520000 :=
    ⟨500000, by decide, by decide⟩
  have fits : ∀ number : Fin 9,
      (toVecPretty (longRun characters number).toJson).length ≤ MAX_EVIDENCE_FILE_BYTES := by
    intro number
    have base : ∀ number : Fin 9, Json.prettySize 0 (longRun 0 number).toJson ≤ 4000 := by
      decide +kernel
    have limit : MAX_EVIDENCE_FILE_BYTES = 524288 := rfl
    rw [length_longRun]
    have := base number
    omega
  obtain ⟨after, written⟩ := writeAgentRun_long fits
  obtain ⟨isWritten, -, small, -, older⟩ := writeAgentRun_retains (readLong characters)
    { root := none, replace := false } retains id (fun _ => List.Perm.refl _) (longRuns characters)
    (longRun characters 8) after written
  obtain ⟨removed, member, gone⟩ := exists_pruned long isWritten small
  exact ⟨characters, after, written, isWritten, small, removed, member, gone,
    older removed member (longRuns_apart characters removed member) gone⟩

end Wts.EvidenceStore
