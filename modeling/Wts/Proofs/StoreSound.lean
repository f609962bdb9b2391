/-
Module: Wts.Proofs.StoreSound
Purpose: Every call that writes the record or the lifecycle of a workspace leaves rows that decode: the
  text is that of a valid record within the limit, and the lifecycle fits it.
Trusted boundary: the clock and the fresh identifiers of a call
Main exports: SoundRows, SoundRows.load, SoundRows.rename, SoundRows.repositories, SoundRows.observe
-/
import Wts.Library.JsonSize
import Wts.Library.Utf8
import Wts.Store.Calls

namespace Wts.Store

open Workspace List Serde
open Std (ExtTreeMap)

variable {store : WorkspaceStore} {env : CallEnv} {tables written : Tables} {workspaceId : Uuid}
variable {record changed : WorkspaceRecord} {decoded : DecodedProjection} {version : Int64}

/-! ### The size of a record -/

theorem size_plan_ge (plan : WorkspaceRepositoryPlan) : 20 ≤ Json.size plan.toJson := by
  have names : Json.textSize "requestId" = 11 ∧ Json.textSize "label" = 7 ∧
      Json.textSize "baseRef" = 9 := by decide
  cases isId : plan.repositoryId with
  | none =>
    simp [WorkspaceRepositoryPlan.toJson, WorkspaceRepositoryPlan.fields, isId, writeOptional,
      Json.size, Json.fieldsSize, Json.entrySize, names.1, names.2.1, names.2.2]
    omega
  | some repositoryId =>
    simp [WorkspaceRepositoryPlan.toJson, WorkspaceRepositoryPlan.fields, isId, writeOptional,
      Json.size, Json.fieldsSize, Json.entrySize, names.1, names.2.1, names.2.2]
    omega

/-- A record from which a repository is removed stays within the limit, whatever its new time is. -/
theorem size_removed {keeps : WorkspaceRepositoryPlan → Bool} (updatedAtUnixMs : Int64)
    (fewer : (record.repositories.filter keeps).length ≠ record.repositories.length) :
    Json.size { record with
        repositories := record.repositories.filter keeps
        updatedAtUnixMs := updatedAtUnixMs : WorkspaceRecord }.toJson ≤ Json.size record.toJson := by
  let trailing : List (String × Json) :=
    writeOptional "runtime" RuntimePlanSelection.toJson record.runtime ++
      (writeOptional "planning" WorkspacePlanningSelection.toJson record.planning ++
        [("workspaceRootId", .string record.workspaceRootId),
          ("workspaceLeaf", .string record.workspaceLeaf),
          ("createdAtUnixMs", ofInt64 record.createdAtUnixMs)])
  have parts : ∀ (plans : List WorkspaceRepositoryPlan) (time : Int64),
      { record with repositories := plans, updatedAtUnixMs := time : WorkspaceRecord }.fields =
        record.leadingFields ++ (("repositories", ofList WorkspaceRepositoryPlan.toJson plans) ::
          (trailing ++ [("updatedAtUnixMs", ofInt64 time)])) := by
    intro plans time
    simp [WorkspaceRecord.fields, WorkspaceRecord.leadingFields, WorkspaceRecord.trailingFields, trailing]
  obtain ⟨before, leads⟩ := Json.exists_fieldsSize_append true
    (show record.leadingFields ≠ [] by simp [WorkspaceRecord.leadingFields])
  obtain ⟨between, trails⟩ := Json.exists_fieldsSize_append false
    (show trailing ≠ [] by simp [trailing])
  have whole : ∀ (plans : List WorkspaceRepositoryPlan) (time : Int64),
      Json.size { record with repositories := plans, updatedAtUnixMs := time : WorkspaceRecord }.toJson =
        before + between + Json.textSize "repositories" + Json.textSize "updatedAtUnixMs" + 7 +
          Json.itemsSize true (plans.map WorkspaceRepositoryPlan.toJson) +
            (Json.integerChars time.toInt).length := by
    intro plans time
    rw [WorkspaceRecord.toJson, parts, Json.size, leads, Json.fieldsSize, trails]
    simp only [Json.fieldsSize, Json.entrySize, ofList, ofInt64, Json.size,
      Bool.false_eq_true, if_false]
    omega
  have smaller := Json.itemsSize_filter_le size_plan_ge fewer
  have last := Json.length_integerChars_int64 updatedAtUnixMs
  have same := whole record.repositories record.updatedAtUnixMs
  have new := whole (record.repositories.filter keeps) updatedAtUnixMs
  change Json.size record.toJson = _ at same
  omega

/-! ### Sound rows -/

/-- The rows of a workspace hold a valid record, in the text that is printed for it, and a lifecycle
that fits it. -/
structure SoundRows (store : WorkspaceStore) (tables : Tables) (workspaceId : Uuid)
    (record : WorkspaceRecord) : Prop where
  named : record.workspaceId = workspaceId
  small : record.toJson.print.utf8ByteSize ≤ maxRecordJsonBytes
  valid : validateRecord store record = .ok ()
  projected : ∃ version, integerVersion record.recordVersion = some version ∧
    tables.projection[workspaceId]? = some
      { recordVersion := version, recordJson := record.toJson.print,
        updatedAtUnixMs := record.updatedAtUnixMs }
  observed : ∃ lifecycle, decodeLifecycle record tables.lifecycle[workspaceId]? = .ok lifecycle

/-- The rows of a workspace are sound for some record. -/
def Sound (store : WorkspaceStore) (tables : Tables) (workspaceId : Uuid) : Prop :=
  ∃ record, SoundRows store tables workspaceId record

/-- Soundness reads one row of each of two tables. -/
theorem Sound.congr (sound : Sound store tables workspaceId)
    (projection : written.projection[workspaceId]? = tables.projection[workspaceId]?)
    (lifecycle : written.lifecycle[workspaceId]? = tables.lifecycle[workspaceId]?) :
    Sound store written workspaceId := by
  obtain ⟨record, named, small, valid, projected, observed⟩ := sound
  exact ⟨record, named, small, valid, by rwa [projection], by rwa [lifecycle]⟩

theorem decodeProjection_print (small : record.toJson.print.utf8ByteSize ≤ maxRecordJsonBytes)
    (valid : validateRecord store record = .ok ())
    (versioned : integerVersion record.recordVersion = some version)
    {lifecycleRow : Option LifecycleRow} {lifecycle : WorkspaceLifecycleSummary}
    (decoded : decodeLifecycle record lifecycleRow = .ok lifecycle) :
    decodeProjection store record.workspaceId
        { recordVersion := version, recordJson := record.toJson.print,
          updatedAtUnixMs := record.updatedAtUnixMs } lifecycleRow =
      .ok { record := record, lifecycle := lifecycle } := by
  have short := (Utf8.length_le_utf8ByteSize record.toJson.print).trans small
  simp only [decodeProjection, Json.parse_print, Option.bind_some, WorkspaceRecord.ofJson_toJson,
    valid, versioned, decoded]
  simp [Nat.not_lt.2 short]

namespace SoundRows

variable (sound : SoundRows store tables workspaceId record)
include sound

/-- Sound rows of a workspace that is not removed are found. -/
theorem load (present : tables.tombstoned workspaceId = false) : ∃ lifecycle,
    decodeLifecycle record tables.lifecycle[workspaceId]? = .ok lifecycle ∧
      loadProjection store tables workspaceId =
        .ok (some { record := record, lifecycle := lifecycle }) := by
  obtain ⟨version, versioned, row⟩ := sound.projected
  obtain ⟨lifecycle, observed⟩ := sound.observed
  have read := decodeProjection_print sound.small sound.valid versioned observed
  rw [sound.named] at read
  exact ⟨lifecycle, observed, by simp [loadProjection, row, present, read]⟩

/-- What a call reads is the record of the rows. -/
theorem of_load (loaded : loadProjection store tables workspaceId = .ok (some decoded)) :
    decoded.record = record ∧
      decodeLifecycle record tables.lifecycle[workspaceId]? = .ok decoded.lifecycle := by
  cases removed : tables.tombstoned workspaceId with
  | true =>
    simp only [loadProjection, removed, if_true] at loaded
    split at loaded <;> cases loaded
  | false =>
    obtain ⟨lifecycle, observed, found⟩ := sound.load removed
    cases Option.some.inj (Except.ok.inj (found.symm.trans loaded))
    exact ⟨rfl, observed⟩

theorem of_require (required : requireProjection store tables workspaceId = .ok decoded) :
    decoded.record = record ∧
      decodeLifecycle record tables.lifecycle[workspaceId]? = .ok decoded.lifecycle := by
  simp only [requireProjection] at required
  split at required
  · cases required
  · cases required
  rename_i loaded
  cases required
  exact sound.of_load loaded

/-- Rows with another record and its text are sound if its lifecycle decodes. -/
theorem rewritten (same : changed.workspaceId = record.workspaceId)
    (version : changed.recordVersion = record.recordVersion)
    (small : changed.toJson.print.utf8ByteSize ≤ maxRecordJsonBytes)
    (valid : validateRecord store changed = .ok ())
    (projection : written.projection =
      (updateProjection workspaceId changed.toJson.print changed.updatedAtUnixMs tables).projection)
    (observed : ∃ lifecycle, decodeLifecycle changed written.lifecycle[workspaceId]? = .ok lifecycle) :
    SoundRows store written workspaceId changed := by
  obtain ⟨column, versioned, row⟩ := sound.projected
  refine ⟨same.trans sound.named, small, valid, ⟨column, by rw [version, versioned], ?_⟩, observed⟩
  rw [projection, updateProjection, row]
  simp

end SoundRows

/-! ### The calls that write the rows -/

/-- A lifecycle row decodes to the lifecycle with its columns, if that one fits the record. -/
theorem decodeLifecycle_some_iff {row : LifecycleRow} {lifecycle : WorkspaceLifecycleSummary} :
    decodeLifecycle record (some row) = .ok lifecycle ↔
      some row.workspaceRecordVersion = integerVersion record.recordVersion ∧
      row.materializationState ≠ .unknown ∧ row.worktreeCount < 2 ^ 32 ∧
      validateLifecycle record lifecycle = .ok () ∧
      lifecycle =
        { materializationState := row.materializationState
          worktreeCount := UInt32.ofNat row.worktreeCount
          observedAtUnixMs := some row.observedAtUnixMs } := by
  simp only [decodeLifecycle]
  split
  · rename_i stale
    exact iff_of_false (fun wrong => by cases wrong) fun all => stale all.1
  rename_i current
  rw [ne_eq, not_not] at current
  split
  · rename_i unknown
    exact iff_of_false (fun wrong => by cases wrong) fun all => all.2.1 unknown
  rename_i known
  split
  · rename_i many
    exact iff_of_false (fun wrong => by cases wrong) fun all => absurd all.2.2.1 (not_lt.2 many)
  rename_i few
  have few := not_le.1 few
  split
  · rename_i invalid
    refine iff_of_false (fun wrong => by cases wrong) fun all => ?_
    rw [all.2.2.2.2, invalid] at all
    cases all.2.2.2.1
  rename_i valid
  constructor
  · intro isLifecycle
    cases isLifecycle
    exact ⟨current, known, few, valid, rfl⟩
  · rintro ⟨_, _, _, _, rfl⟩
    rfl

/-- The lifecycle of a record depends on its version, its creation and the number of repositories. -/
theorem decodeLifecycle_congr (sameVersion : changed.recordVersion = record.recordVersion)
    (sameCreation : changed.createdAtUnixMs = record.createdAtUnixMs)
    (sameCount : changed.repositories.length = record.repositories.length)
    (row : Option LifecycleRow) : decodeLifecycle changed row = decodeLifecycle record row := by
  simp only [decodeLifecycle, sameVersion, sameCreation, validateLifecycle,
    validateLifecycleTimestamp, sameCount]

theorem boundedRecordJson_eq_ok {text : String} (bounded : boundedRecordJson record = .ok text) :
    text = record.toJson.print ∧ record.toJson.print.utf8ByteSize ≤ maxRecordJsonBytes := by
  simp only [boundedRecordJson] at bounded
  split at bounded
  · cases bounded
  rename_i small
  exact ⟨(Except.ok.inj bounded).symm, not_lt.1 small⟩

theorem recordVersionColumn_eq_ok {recordVersion : UInt64}
    (column : recordVersionColumn recordVersion = .ok version) :
    integerVersion recordVersion = some version := by
  simp only [recordVersionColumn] at column
  split at column
  · cases column
  rename_i found
  cases column
  exact found

theorem SoundRows.rename {title : String}
    (sound : SoundRows store tables workspaceId record)
    (renamed : renameTransaction store env workspaceId title tables = .ok (decoded, written)) :
    Sound store written workspaceId := by
  simp only [renameTransaction] at renamed
  split at renamed
  · cases renamed
  rename_i start required
  obtain ⟨rfl, observed⟩ := sound.of_require required
  split at renamed
  · cases renamed
  split at renamed
  · cases renamed
  rename_i valid
  split at renamed
  · cases renamed
  rename_i bounded
  cases renamed
  obtain ⟨rfl, small⟩ := boundedRecordJson_eq_ok bounded
  obtain ⟨version, versioned, row⟩ := sound.projected
  refine ⟨_, sound.rewritten (by rfl) (by rfl) small valid (by rfl) ⟨start.lifecycle, ?_⟩⟩
  rw [decodeLifecycle_congr rfl rfl rfl]
  simp only [updateProjection, row]
  exact observed

/-- The rows after the repositories of a record changed. -/
theorem SoundRows.repositories {repositories : List WorkspaceRepositoryPlan} {updatedAtUnixMs : Int64}
    {before lifecycle : WorkspaceLifecycleSummary}
    (sound : SoundRows store tables workspaceId record)
    (isChanged : changed =
      { record with repositories := repositories, updatedAtUnixMs := updatedAtUnixMs })
    (observed : decodeLifecycle record tables.lifecycle[workspaceId]? = .ok before)
    (recounted : recountLifecycle changed before = .ok lifecycle)
    (valid : validateRecord store changed = .ok ())
    (fits : validateLifecycle changed lifecycle = .ok ())
    (small : changed.toJson.print.utf8ByteSize ≤ maxRecordJsonBytes) :
    Sound store (writeRepositories changed lifecycle changed.toJson.print tables) workspaceId := by
  obtain ⟨version, versioned, row⟩ := sound.projected
  have named : changed.workspaceId = workspaceId := by
    rw [isChanged]
    exact sound.named
  have sameVersion : changed.recordVersion = record.recordVersion := by rw [isChanged]
  have sameState : lifecycle.materializationState = before.materializationState := by
    simp only [recountLifecycle] at recounted
    split at recounted
    · split at recounted
      · cases recounted
        rfl
      · cases recounted
    cases recounted
    rfl
  refine ⟨changed, sound.rewritten (by rw [named, sound.named]) sameVersion small valid ?_ ?_⟩
  · simp only [writeRepositories, named, updateWorktreeCount]
    split
    · split <;> rfl
    rfl
  simp only [writeRepositories, named, updateProjection, row, updateWorktreeCount]
  cases isRow : tables.lifecycle[workspaceId]? with
  | none =>
    rw [isRow] at observed
    cases observed
    rw [sameState, if_neg (by decide)]
    exact ⟨_, by rw [isRow]; rfl⟩
  | some lifecycleRow =>
    rw [isRow] at observed
    obtain ⟨current, known, few, _, isBefore⟩ := decodeLifecycle_some_iff.1 observed
    have state : lifecycle.materializationState = lifecycleRow.materializationState := by
      rw [sameState, isBefore]
    refine ⟨lifecycle, ?_⟩
    by_cases materialized : before.materializationState = .materialized
    · rw [if_pos (sameState.trans materialized)]
      simp only [recountLifecycle, if_pos materialized] at recounted
      split at recounted
      · rename_i count
        cases recounted
        simp only [ExtTreeMap.getElem?_insert_self]
        refine decodeLifecycle_some_iff.2
          ⟨current.trans (by rw [sameVersion]), known, UInt32.toNat_lt _, fits, ?_⟩
        rw [isBefore, UInt32.ofNat_toNat]
      · cases recounted
    · rw [if_neg (by rw [sameState]; exact materialized), isRow]
      have same : lifecycle = before := by
        simp only [recountLifecycle, if_neg materialized] at recounted
        exact (Except.ok.inj recounted).symm
      exact decodeLifecycle_some_iff.2
        ⟨current.trans (by rw [sameVersion]), known, few, fits, same.trans isBefore⟩

theorem SoundRows.addRepository {repository : WorkspaceRepositoryRequest}
    (sound : SoundRows store tables workspaceId record)
    (added : addRepositoryTransaction store env workspaceId repository tables =
      .ok (decoded, written)) : Sound store written workspaceId := by
  simp only [addRepositoryTransaction] at added
  split at added
  · cases added
  rename_i start required
  obtain ⟨rfl, observed⟩ := sound.of_require required
  split at added
  · cases added
  split at added
  · cases added
  rename_i recounted
  split at added
  · cases added
  rename_i valid
  split at added
  · cases added
  rename_i fits
  split at added
  · cases added
  rename_i bounded
  cases added
  obtain ⟨rfl, small⟩ := boundedRecordJson_eq_ok bounded
  exact sound.repositories rfl observed recounted valid fits small

/-- A removal checks no size, and needs to check none. -/
theorem SoundRows.removeRepository {repositoryId : String}
    (sound : SoundRows store tables workspaceId record)
    (removed : removeRepositoryTransaction store env workspaceId repositoryId tables =
      .ok (decoded, written)) : Sound store written workspaceId := by
  simp only [removeRepositoryTransaction] at removed
  split at removed
  · cases removed
  rename_i start required
  obtain ⟨rfl, observed⟩ := sound.of_require required
  split at removed
  · cases removed
  rename_i fewer
  split at removed
  · cases removed
  rename_i now _
  split at removed
  · cases removed
  rename_i recounted
  split at removed
  · cases removed
  rename_i valid
  split at removed
  · cases removed
  rename_i fits
  cases removed
  refine sound.repositories rfl observed recounted valid fits ?_
  rw [Json.utf8ByteSize_print]
  exact (size_removed now fewer).trans (by rw [← Json.utf8ByteSize_print]; exact sound.small)

theorem SoundRows.observe {state : WorkspaceMaterializationState} {worktreeCount : UInt32}
    {observation : WorkspaceLifecycleSummary} (known : state ≠ .unknown)
    (sound : SoundRows store tables workspaceId record)
    (observed : observeLifecycleTransaction store env workspaceId state worktreeCount tables =
      .ok (observation, written)) : Sound store written workspaceId := by
  simp only [observeLifecycleTransaction] at observed
  split at observed
  · cases observed
  · cases observed
  rename_i start loaded
  obtain ⟨rfl, _⟩ := sound.of_load loaded
  split at observed
  · cases observed
  rename_i now _
  split at observed
  · cases observed
  rename_i fits
  split at observed
  · cases observed
  rename_i version column
  injection observed with observed
  injection observed with isObservation isWritten
  subst isObservation isWritten
  have versioned := recordVersionColumn_eq_ok column
  refine ⟨start.record, sound.named, sound.small, sound.valid, sound.projected,
    { materializationState := state, worktreeCount := worktreeCount, observedAtUnixMs := some now }, ?_⟩
  simp only [ExtTreeMap.getElem?_insert_self]
  refine decodeLifecycle_some_iff.2 ⟨versioned.symm, known, UInt32.toNat_lt _, fits, ?_⟩
  rw [UInt32.ofNat_toNat]

end Wts.Store
