/-
Module: Wts.Proofs.StoreReviews
Purpose: Review threads are listed as they were created.
Trusted boundary: none
Main exports: ReviewsSound, ReviewsSound.step
-/
import Wts.Library.Traverse
import Wts.Library.Utf8
import Wts.Proofs.StoreFrame

namespace Wts.Store

open Int64 List Text

theorem line32_ofNat (line : UInt32) : line32 (Int64.ofNat line.toNat) = some line := by
  have small : line.toNat < 2 ^ 63 := lt_trans line.toNat_lt (by norm_num)
  have value : (Int64.ofNat line.toNat).toInt = line.toNat := Int64.toInt_ofNat_of_lt small
  have nonneg : (0 : Int64) ≤ Int64.ofNat line.toNat := by
    rw [Int64.le_iff_toInt_le, value]
    simp
  have below : line.toNat < 4294967296 := line.toNat_lt
  simp [line32, nonneg, value, below]

variable {column : Int64} {version : UInt64}

theorem revision64_integerVersion
    (stored : integerVersion version = some column) : revision64 column = some version := by
  simp only [integerVersion] at stored
  split at stored
  next small =>
    cases stored
    have value : (Int64.ofNat version.toNat).toInt = version.toNat :=
      Int64.toInt_ofNat_of_lt (by simp only [maxInteger] at small; omega)
    have nonneg : (0 : Int64) ≤ Int64.ofNat version.toNat := by
      rw [Int64.le_iff_toInt_le, value]
      simp
    simp [revision64, nonneg, value]
  · cases stored

variable {target : StoredReviewTarget}

theorem decodeTarget_storedAnchor {kind : ReviewKind}
    {anchor : kind.Anchor} (valid : validReviewTarget target = true)
    (stored : storedAnchor target = .ok ⟨kind, anchor⟩) :
    decodeTarget kind anchor = .ok target := by
  have row : rowTarget kind anchor = .ok target := by
    cases target with
    | planningDocument documentId documentSha256 line =>
      cases stored
      cases line with
      | none => rfl
      | some line => simp [rowTarget, line32_ofNat]
    | verificationCheck planRevision completedAtUnixMs checkId =>
      simp only [storedAnchor] at stored
      split at stored
      · cases stored
      rename_i column
      cases stored
      simp [rowTarget, revision64_integerVersion column]
    | codeChange repositoryId baseCommitOid headCommitOid patchSha256 filePath side line =>
      cases stored
      simp [rowTarget, line32_ofNat]
  simp [decodeTarget, row, valid]

theorem validateReviewThreadMetadata_of_check {Anchor : Type} {row : ReviewThreadRow Anchor}
    (checked : checkThreadRow row = true) :
    validateReviewThreadMetadata row = .ok (UInt64.ofNat row.revision.toInt.toNat) := by
  simp only [checkThreadRow, Bool.and_eq_true, Bool.or_eq_true, decide_eq_true_eq,
    Option.all_eq_true, Option.isNone_iff_eq_none] at checked
  obtain ⟨⟨⟨⟨positive, created⟩, updated⟩, resolved⟩, state⟩ := checked
  have decoded : revision64 row.revision = some (UInt64.ofNat row.revision.toInt.toNat) := by
    simp [revision64, Int64.le_of_lt positive]
  have nonzero : UInt64.ofNat row.revision.toInt.toNat ≠ 0 := by
    intro zero
    have positive := Int64.lt_iff_toInt_lt.1 positive
    have below := row.revision.toInt_lt
    have value := congrArg UInt64.toNat zero
    rw [UInt64.toNat_ofNat_of_lt' (by simp only [UInt64.size]; omega)] at value
    simp only [Int64.toInt_zero, UInt64.toNat_zero] at positive value
    omega
  have notResolvedBefore : row.resolvedAtUnixMs.any (fun time => time < row.createdAtUnixMs) =
      false := by
    cases found : row.resolvedAtUnixMs with
    | none => rfl
    | some time => simpa using resolved time found
  simp only [validateReviewThreadMetadata, decoded]
  rw [if_neg]
  rintro (zero | before | before | before | ⟨opened, isResolved⟩ | ⟨closed, unresolved⟩)
  · exact nonzero zero
  · exact absurd before (Int64.not_lt.2 created)
  · exact absurd before (Int64.not_lt.2 updated)
  · rw [notResolvedBefore] at before
    cases before
  · rcases state with ⟨_, none⟩ | ⟨closed, _⟩
    · rw [none] at isResolved
      cases isResolved
    · rw [closed] at opened
      cases opened
  rcases state with ⟨opened, _⟩ | ⟨_, some⟩
  · rw [opened] at closed
    cases closed
  rw [Option.isNone_iff_eq_none.1 unresolved] at some
  cases some

theorem utf8ByteSize_trim_le (text : String) : (trim text).utf8ByteSize ≤ text.utf8ByteSize := by
  have sublist : (trimChars text.toList).Sublist text.toList :=
    (List.rdropWhile_prefix _ _).sublist.trans (dropWhile_sublist _)
  have smaller := Utf8.utf8ByteSize_sublist_le sublist
  rwa [String.ofList_toList] at smaller

variable {body : String}

theorem normalizeReviewBody_idempotent {normalized : String}
    (accepted : normalizeReviewBody body = .ok normalized) :
    normalizeReviewBody normalized = .ok normalized := by
  simp only [normalizeReviewBody] at accepted
  split at accepted
  · cases accepted
  rename_i small
  split at accepted
  · cases accepted
  rename_i clean
  cases accepted
  have size := utf8ByteSize_trim_le body
  simp only [normalizeReviewBody, trim_trim]
  rw [if_neg (by omega), if_neg clean]

theorem decodeComment_of_normalized {row : ReviewCommentRow}
    (accepted : normalizeReviewBody body = .ok row.body) (notBefore : ¬ row.createdAtUnixMs < 0) :
    decodeComment row = .ok { row with createdAtUnixMs := row.createdAtUnixMs } := by
  simp [decodeComment, normalizeReviewBody_idempotent accepted, notBefore]

/-! ### Steps of a table -/

variable {kind : ReviewKind} {table after : ReviewTable kind.Anchor} {workspaceId threadId : Uuid}

/-- A thread and its comment that an insertion accepts. -/
structure Opening (table : ReviewTable kind.Anchor) (row : ReviewThreadRow kind.Anchor)
    (comment : ReviewCommentRow) : Prop where
  free : ∀ other ∈ table.threads, other.threadId ≠ row.threadId
  target : ∃ target, decodeTarget kind row.anchor = .ok target
  checked : checkThreadRow row = true
  opened : row.state = .open
  thread : comment.threadId = row.threadId
  decoded : ∃ decoded, decodeComment comment = .ok decoded

def resolveMatching (row : ReviewThreadRow kind.Anchor) (revision updatedAtUnixMs : Int64)
    (other : ReviewThreadRow kind.Anchor) : ReviewThreadRow kind.Anchor :=
  if matchesThread row.workspaceId row.threadId row.revision other then
    resolvedRow revision updatedAtUnixMs other
  else
    other

/-- What a call can do to a table of threads. -/
inductive ReviewStep (table : ReviewTable kind.Anchor) : ReviewTable kind.Anchor → Prop where
  | same : ReviewStep table table
  | created {row comment} (opening : Opening table row comment) :
      ReviewStep table
        { threads := table.threads ++ [row], comments := table.comments ++ [comment] }
  | resolved {row} {revision updatedAtUnixMs : Int64} (present : row ∈ table.threads)
      (opened : row.state = .open)
      (checked : checkThreadRow (resolvedRow revision updatedAtUnixMs row) = true)
      (raised : revision.toInt = row.revision.toInt + 1) :
      ReviewStep table
        { table with threads := table.threads.map (resolveMatching row revision updatedAtUnixMs) }

/-- Every row of the table decodes, and has the one comment it was created with. -/
structure ReviewTableSound (table : ReviewTable kind.Anchor) : Prop where
  distinct : (table.threads.map ReviewThreadRow.threadId).Nodup
  target : ∀ row ∈ table.threads, ∃ target, decodeTarget kind row.anchor = .ok target
  checked : ∀ row ∈ table.threads, checkThreadRow row = true
  comment : ∀ row ∈ table.threads, ∃ comment decoded,
    table.comments.filter (fun other => other.threadId = row.threadId) = [comment] ∧
      decodeComment comment = .ok decoded
  owned : ∀ comment ∈ table.comments, ∃ row ∈ table.threads, row.threadId = comment.threadId

theorem ReviewTableSound.empty :
    ReviewTableSound ({ threads := [], comments := [] } : ReviewTable kind.Anchor) where
  distinct := nodup_nil
  target := fun _ member => absurd member not_mem_nil
  checked := fun _ member => absurd member not_mem_nil
  comment := fun _ member => absurd member not_mem_nil
  owned := fun _ member => absurd member not_mem_nil

theorem ReviewTableSound.eq_of_threadId (sound : ReviewTableSound table) {first second}
    (member : first ∈ table.threads) (member' : second ∈ table.threads)
    (same : first.threadId = second.threadId) : first = second :=
  inj_on_of_nodup_map sound.distinct member member' same

@[simp] theorem resolveMatching_threadId (row other : ReviewThreadRow kind.Anchor)
    (revision updatedAtUnixMs : Int64) :
    (resolveMatching row revision updatedAtUnixMs other).threadId = other.threadId := by
  unfold resolveMatching
  split <;> rfl

@[simp] theorem resolveMatching_anchor (row other : ReviewThreadRow kind.Anchor)
    (revision updatedAtUnixMs : Int64) :
    (resolveMatching row revision updatedAtUnixMs other).anchor = other.anchor := by
  unfold resolveMatching
  split <;> rfl

theorem resolveMatching_self (row : ReviewThreadRow kind.Anchor)
    (revision updatedAtUnixMs : Int64) :
    resolveMatching row revision updatedAtUnixMs row = resolvedRow revision updatedAtUnixMs row := by
  simp [resolveMatching, matchesThread]

theorem ReviewTableSound.resolveMatching_of_ne (sound : ReviewTableSound table) {row other}
    (present : row ∈ table.threads) (member : other ∈ table.threads) (different : other ≠ row)
    (revision updatedAtUnixMs : Int64) :
    resolveMatching row revision updatedAtUnixMs other = other := by
  rw [resolveMatching, if_neg]
  intro chosen
  simp only [matchesThread, Bool.and_eq_true, decide_eq_true_eq] at chosen
  exact different (sound.eq_of_threadId member present chosen.1.2)

theorem ReviewTableSound.created (sound : ReviewTableSound table) {row comment}
    (opening : Opening table row comment) : ReviewTableSound
      { threads := table.threads ++ [row], comments := table.comments ++ [comment] } where
  distinct := by
    rw [map_append, nodup_append]
    refine ⟨sound.distinct, nodup_singleton _, ?_⟩
    intro id member other isNew
    obtain ⟨thread, inside, rfl⟩ := mem_map.1 member
    rw [mem_singleton.1 isNew]
    exact opening.free thread inside
  target := by
    intro other member
    rcases mem_append.1 member with old | new
    · exact sound.target other old
    rw [mem_singleton.1 new]
    exact opening.target
  checked := by
    intro other member
    rcases mem_append.1 member with old | new
    · exact sound.checked other old
    rw [mem_singleton.1 new]
    exact opening.checked
  comment := by
    intro other member
    rcases mem_append.1 member with old | new
    · obtain ⟨first, decoded, only, accepted⟩ := sound.comment other old
      refine ⟨first, decoded, ?_, accepted⟩
      have elsewhere : comment.threadId ≠ other.threadId := by
        rw [opening.thread]
        exact (opening.free other old).symm
      simp [filter_append, only, elsewhere]
    rw [mem_singleton.1 new]
    obtain ⟨decoded, accepted⟩ := opening.decoded
    refine ⟨comment, decoded, ?_, accepted⟩
    -- an earlier comment belongs to an earlier thread
    have none : table.comments.filter (fun other => other.threadId = row.threadId) = [] := by
      apply filter_eq_nil_iff.2
      intro earlier inside
      obtain ⟨thread, present, same⟩ := sound.owned earlier inside
      have free := opening.free thread present
      rw [same] at free
      simpa using free
    simp [filter_append, none, opening.thread]
  owned := by
    intro other member
    rcases mem_append.1 member with old | new
    · obtain ⟨thread, present, same⟩ := sound.owned other old
      exact ⟨thread, mem_append_left _ present, same⟩
    rw [mem_singleton.1 new]
    exact ⟨row, by simp, opening.thread.symm⟩

theorem ReviewTableSound.resolved (sound : ReviewTableSound table) {row}
    {revision updatedAtUnixMs : Int64} (present : row ∈ table.threads)
    (checked : checkThreadRow (resolvedRow revision updatedAtUnixMs row) = true) : ReviewTableSound
      { table with threads := table.threads.map (resolveMatching row revision updatedAtUnixMs) } where
  distinct := by
    rw [map_map]
    simpa [Function.comp_def] using sound.distinct
  target := by
    intro other member
    obtain ⟨thread, inside, rfl⟩ := mem_map.1 member
    rw [resolveMatching_anchor]
    exact sound.target thread inside
  checked := by
    intro other member
    obtain ⟨thread, inside, rfl⟩ := mem_map.1 member
    by_cases same : thread = row
    · rw [same, resolveMatching_self]
      exact checked
    rw [sound.resolveMatching_of_ne present inside same]
    exact sound.checked thread inside
  comment := by
    intro other member
    obtain ⟨thread, inside, rfl⟩ := mem_map.1 member
    rw [resolveMatching_threadId]
    exact sound.comment thread inside
  owned := by
    intro comment member
    obtain ⟨thread, inside, same⟩ := sound.owned comment member
    exact ⟨_, mem_map_of_mem inside, by rw [resolveMatching_threadId, same]⟩

theorem ReviewTableSound.step (sound : ReviewTableSound table) (step : ReviewStep table after) :
    ReviewTableSound after := by
  cases step with
  | same => exact sound
  | created opening => exact sound.created opening
  | resolved present opened checked raised => exact sound.resolved present checked

variable {tables written : Tables} {store : WorkspaceStore} {env : CallEnv}

def threadOf (row : ReviewThreadRow kind.Anchor) (target : StoredReviewTarget)
    (comment : StoredReviewComment) : StoredReviewThread where
  threadId := row.threadId
  workspaceId := row.workspaceId
  target := target
  state := row.state
  revision := UInt64.ofNat row.revision.toInt.toNat
  comments := [comment]
  createdAtUnixMs := row.createdAtUnixMs
  updatedAtUnixMs := row.updatedAtUnixMs
  resolvedAtUnixMs := row.resolvedAtUnixMs

theorem ReviewTableSound.find_row (sound : ReviewTableSound table) {row}
    (present : row ∈ table.threads) : table.threads.find? (fun other =>
      other.workspaceId = row.workspaceId ∧ other.threadId = row.threadId) = some row := by
  have found : (table.threads.find? fun other =>
      other.workspaceId = row.workspaceId ∧ other.threadId = row.threadId).isSome := by
    rw [find?_isSome]
    exact ⟨row, present, by simp⟩
  obtain ⟨other, named⟩ := Option.isSome_iff_exists.1 found
  have same := find?_some named
  rw [named, sound.eq_of_threadId (mem_of_find?_eq_some named) present (by simp_all)]

theorem loadReviewThread_of_mem {row} (sound : ReviewTableSound (tables.reviews kind))
    (present : row ∈ (tables.reviews kind).threads)
    (targeted : decodeTarget kind row.anchor = .ok target) {comment : ReviewCommentRow}
    {decoded : StoredReviewComment}
    (only : (tables.reviews kind).comments.filter (fun other => other.threadId = row.threadId) =
      [comment]) (accepted : decodeComment comment = .ok decoded) :
    loadReviewThread kind tables row.workspaceId row.threadId =
      .ok (some (threadOf row target decoded)) := by
  have comments : loadReviewComments (tables.reviews kind).comments row.threadId =
      .ok [decoded] := by
    rw [loadReviewComments, only]
    exact Traverse.mapM_eq_ok_iff.2 (.cons accepted .nil)
  simp only [loadReviewThread, sound.find_row present, targeted,
    validateReviewThreadMetadata_of_check (sound.checked row present), comments]
  rfl

theorem exists_loadReviewThread {row} (sound : ReviewTableSound (tables.reviews kind))
    (present : row ∈ (tables.reviews kind).threads) :
    ∃ thread, loadReviewThread kind tables row.workspaceId row.threadId = .ok (some thread) := by
  obtain ⟨target, targeted⟩ := sound.target row present
  obtain ⟨comment, decoded, only, accepted⟩ := sound.comment row present
  exact ⟨_, loadReviewThread_of_mem sound present targeted only accepted⟩

theorem mem_threadIds {id : Uuid} : id ∈ threadIds kind tables workspaceId ↔
      ∃ row ∈ (tables.reviews kind).threads, row.workspaceId = workspaceId ∧ row.threadId = id := by
  simp only [threadIds, mem_map, mem_insertionSort, mem_filter, decide_eq_true_eq]
  constructor
  · rintro ⟨row, ⟨present, workspace⟩, same⟩
    exact ⟨row, present, workspace, same⟩
  rintro ⟨row, present, workspace, same⟩
  exact ⟨row, ⟨present, workspace⟩, same⟩

theorem exists_loadReviewThreads (sound : ReviewTableSound (tables.reviews kind))
    (workspaceId : Uuid) : ∃ threads, loadReviewThreads kind tables workspaceId = .ok threads := by
  apply Traverse.exists_mapM_eq_ok
  intro id member
  obtain ⟨row, present, rfl, rfl⟩ := mem_threadIds.1 member
  obtain ⟨thread, loaded⟩ := exists_loadReviewThread sound present
  exact ⟨thread, by simp only [loadListedThread, loaded]⟩

variable {thread : StoredReviewThread}

theorem mem_loadReviewThreads {threads : List StoredReviewThread} {row}
    (read : loadReviewThreads kind tables row.workspaceId = .ok threads)
    (present : row ∈ (tables.reviews kind).threads)
    (loaded : loadReviewThread kind tables row.workspaceId row.threadId = .ok (some thread)) :
    thread ∈ threads := by
  apply Traverse.mem_of_mapM_eq_ok read (mem_threadIds.2 ⟨row, present, rfl, rfl⟩)
  simp only [loadListedThread, loaded]

/-- The threads of all tables. -/
def ReviewsSound (reviews : ReviewTables) : Prop :=
  ∀ kind, ReviewTableSound (reviews kind)

theorem exists_listReviewThreads (sound : ReviewsSound tables.reviews) {decoded : DecodedProjection}
    (live : requireProjection store tables workspaceId = .ok decoded) :
    ∃ threads, listReviewThreads store workspaceId tables = .ok threads ∧
      ∀ kind read, loadReviewThreads kind tables workspaceId = .ok read →
        ∀ thread ∈ read, thread ∈ threads := by
  obtain ⟨planning, planningRead⟩ := exists_loadReviewThreads (sound .planning) workspaceId
  obtain ⟨verification, verificationRead⟩ :=
    exists_loadReviewThreads (sound .verification) workspaceId
  obtain ⟨code, codeRead⟩ := exists_loadReviewThreads (sound .code) workspaceId
  simp only [listReviewThreads, live, planningRead, verificationRead, codeRead]
  refine ⟨_, rfl, ?_⟩
  intro kind read loaded thread member
  rw [mem_insertionSort, mem_append, mem_append]
  cases kind with
  | planning =>
    obtain rfl := Except.ok.inj (planningRead.symm.trans loaded)
    exact .inl (.inl member)
  | verification =>
    obtain rfl := Except.ok.inj (verificationRead.symm.trans loaded)
    exact .inl (.inr member)
  | code =>
    obtain rfl := Except.ok.inj (codeRead.symm.trans loaded)
    exact .inr member

/-- One table makes a step. -/
inductive ReviewsStep (reviews : ReviewTables) : ReviewTables → Prop where
  | same : ReviewsStep reviews reviews
  | changed {kind : ReviewKind} {table : ReviewTable kind.Anchor} (step : ReviewStep (reviews kind) table) :
      ReviewsStep reviews (Function.update reviews kind table)

@[simp] theorem setReviews_self (tables : Tables) (kind : ReviewKind)
    (table : ReviewTable kind.Anchor) : (tables.setReviews kind table).reviews kind = table := by
  simp [Tables.setReviews]

theorem ReviewsSound.empty : ReviewsSound Tables.empty.reviews :=
  fun _ => .empty

theorem ReviewsSound.step {reviews after : ReviewTables} (sound : ReviewsSound reviews)
    (step : ReviewsStep reviews after) : ReviewsSound after := by
  cases step with
  | same => exact sound
  | @changed kind table step =>
    intro other
    by_cases same : other = kind
    · subst same
      rw [Function.update_self]
      exact (sound other).step step
    rw [Function.update_of_ne same]
    exact sound other

theorem unixTimeMs_notBefore {now : Int64} (timed : unixTimeMs env = .ok now) : ¬ now < 0 := by
  simp only [unixTimeMs] at timed
  split at timed
  · cases timed
  split at timed
  next milliseconds _ small =>
    cases timed
    have value : (Int64.ofNat milliseconds).toInt = milliseconds :=
      Int64.toInt_ofNat_of_lt (by simp only [maxInteger] at small; omega)
    rw [Int64.not_lt, Int64.le_iff_toInt_le, value]
    simp
  · cases timed

theorem insertReviewThread_eq_ok {row : ReviewThreadRow kind.Anchor} {comment : ReviewCommentRow}
    (inserted : insertReviewThread kind row comment tables = .ok written) :
    (∀ other ∈ (tables.reviews kind).threads, other.threadId ≠ row.threadId) ∧
      checkThreadRow row = true ∧ written = tables.setReviews kind
        { threads := (tables.reviews kind).threads ++ [row]
          comments := (tables.reviews kind).comments ++ [comment] } := by
  simp only [insertReviewThread] at inserted
  split at inserted
  · cases inserted
  rename_i threaded
  split at inserted
  · cases inserted
  rename_i commented
  cases inserted
  simp only [insertThread] at threaded
  split at threaded
  · cases threaded
  rename_i accepted
  cases threaded
  simp only [insertComment] at commented
  split at commented
  · cases commented
  cases commented
  refine ⟨?_, ?_, rfl⟩
  · intro other member same
    apply accepted
    exact .inr (.inr (any_eq_true.2 ⟨other, member, by simpa using same⟩))
  by_contra unchecked
  exact accepted (.inr (.inl unchecked))

variable {author : StoredReviewAuthor}

theorem createReviewTransaction_eq_ok {normalized : String}
    (valid : validateReviewTarget target = .ok ())
    (accepted : normalizeReviewBody body = .ok normalized)
    (created : createReviewTransaction store env workspaceId target author normalized tables =
      .ok (thread, written)) : ∃ kind, ∃ row : ReviewThreadRow kind.Anchor, ∃ comment,
      Opening (tables.reviews kind) row comment ∧ decodeTarget kind row.anchor = .ok target ∧
        row.threadId = thread.threadId ∧ row.workspaceId = workspaceId ∧
          comment.author = author ∧ comment.body = normalized ∧ written = tables.setReviews kind
              { threads := (tables.reviews kind).threads ++ [row]
                comments := (tables.reviews kind).comments ++ [comment] } := by
  simp only [createReviewTransaction] at created
  split at created
  · cases created
  split at created
  · cases created
  split at created
  · cases created
  rename_i now timed
  split at created
  · cases created
  rename_i kind anchor stored
  split at created
  · cases created
  rename_i inserted
  cases created
  obtain ⟨free, checked, rfl⟩ := insertReviewThread_eq_ok inserted
  have targeted : decodeTarget kind anchor = .ok target := by
    apply decodeTarget_storedAnchor _ stored
    by_contra invalid
    simp [validateReviewTarget, invalid] at valid
  exact ⟨kind, _, _,
    { free := free
      target := ⟨target, targeted⟩
      checked := checked
      opened := rfl
      thread := rfl
      decoded :=
        ⟨_, decodeComment_of_normalized accepted (unixTimeMs_notBefore timed)⟩ },
    targeted, rfl, rfl, rfl, rfl, rfl⟩

/-! ### Resolution -/

theorem toInt_integerVersion
    (stored : integerVersion version = some column) : column.toInt = version.toNat := by
  simp only [integerVersion] at stored
  split at stored
  next small =>
    cases stored
    exact Int64.toInt_ofNat_of_lt (by simp only [maxInteger] at small; omega)
  · cases stored

theorem toInt_revision64
    (decoded : revision64 column = some version) : column.toInt = version.toNat := by
  simp only [revision64] at decoded
  split at decoded
  next nonneg =>
    cases decoded
    rw [Int64.le_iff_toInt_le, Int64.toInt_zero] at nonneg
    have below := column.toInt_lt
    rw [UInt64.toNat_ofNat_of_lt' (by simp only [UInt64.size]; omega), Int.toNat_of_nonneg nonneg]
  · cases decoded

theorem kind_of_decodeTarget {anchor : kind.Anchor}
    (decoded : decodeTarget kind anchor = .ok target) : target.kind = kind := by
  simp only [decodeTarget] at decoded
  split at decoded
  · cases decoded
  rename_i row
  split at decoded
  · cases decoded
    cases kind with
    | planning =>
      simp only [rowTarget] at row
      split at row
      · cases row
        rfl
      split at row <;> cases row
      rfl
    | verification =>
      simp only [rowTarget] at row
      split at row <;> cases row
      rfl
    | code =>
      simp only [rowTarget] at row
      split at row <;> cases row
      rfl
  cases decoded

theorem loadReviewThread_eq_some
    (loaded : loadReviewThread kind tables workspaceId threadId = .ok (some thread)) :
    ∃ row ∈ (tables.reviews kind).threads, row.workspaceId = workspaceId ∧
      row.threadId = threadId ∧ thread.target.kind = kind ∧ thread.state = row.state ∧
        revision64 row.revision = some thread.revision := by
  simp only [loadReviewThread] at loaded
  split at loaded
  · cases loaded
  rename_i row found
  split at loaded
  · cases loaded
  rename_i targeted
  split at loaded
  · cases loaded
  rename_i revision metadata
  split at loaded
  · cases loaded
  split at loaded
  · cases loaded
  cases loaded
  have named := find?_some found
  refine ⟨row, mem_of_find?_eq_some found, by simp_all, by simp_all,
    kind_of_decodeTarget targeted, rfl, ?_⟩
  simp only [validateReviewThreadMetadata] at metadata
  split at metadata
  · cases metadata
  split at metadata
  · cases metadata
  cases metadata
  assumption

theorem findReviewThread_eq_ok (found : findReviewThread tables workspaceId threadId = .ok thread) :
    ∃ kind, loadReviewThread kind tables workspaceId threadId = .ok (some thread) := by
  simp only [findReviewThread] at found
  split at found
  · cases found
  rename_i planning first
  split at found
  · cases found
  rename_i verification second
  split at found
  · cases found
  rename_i code third
  split at found
  · cases found
  split at found
  · cases found
  rename_i current chosen
  cases found
  cases planning with
  | some thread =>
    cases chosen
    exact ⟨_, first⟩
  | none =>
    cases verification with
    | some thread =>
      cases chosen
      exact ⟨_, second⟩
    | none =>
      cases chosen
      exact ⟨_, third⟩

/-- The row that a resolution changes, and how. -/
structure Resolving (table : ReviewTable kind.Anchor) (workspaceId threadId : Uuid)
    (expectedRevision : UInt64) (row : ReviewThreadRow kind.Anchor)
    (revision updatedAtUnixMs : Int64) : Prop where
  present : row ∈ table.threads
  workspace : row.workspaceId = workspaceId
  thread : row.threadId = threadId
  opened : row.state = .open
  expected : revision64 row.revision = some expectedRevision
  raised : revision.toInt = row.revision.toInt + 1
  checked : checkThreadRow (resolvedRow revision updatedAtUnixMs row) = true

/-- The search finds an open thread. -/
def FindsOpen (tables : Tables) (workspaceId threadId : Uuid) : Prop :=
  ∃ thread, findReviewThread tables workspaceId threadId = .ok thread ∧ thread.state = .open

theorem resolveReviewTransaction_eq_ok {expectedRevision : UInt64}
    (resolved : resolveReviewTransaction store env workspaceId threadId expectedRevision tables =
      .ok (thread, written)) : written = tables ∨
      ∃ kind, ∃ row : ReviewThreadRow kind.Anchor, ∃ revision updatedAtUnixMs,
        Resolving (tables.reviews kind) workspaceId threadId expectedRevision row revision
          updatedAtUnixMs ∧ FindsOpen tables workspaceId threadId ∧ written = tables.setReviews kind
            { tables.reviews kind with threads :=
                (tables.reviews kind).threads.map (resolveMatching row revision updatedAtUnixMs) } := by
  simp only [resolveReviewTransaction] at resolved
  split at resolved
  · cases resolved
  split at resolved
  · cases resolved
  rename_i current found
  split at resolved
  · cases resolved
  rename_i revised
  split at resolved
  · cases resolved
    exact .inl rfl
  rename_i unresolved
  split at resolved
  · cases resolved
  rename_i bounded
  split at resolved
  · cases resolved
  rename_i now timed
  split at resolved
  next revision expected raised stored =>
    split at resolved
    · cases resolved
    rename_i changed updated
    split at resolved
    · cases resolved
    cases resolved
    obtain rfl := not_ne_iff.1 revised
    obtain ⟨kind, loaded⟩ := findReviewThread_eq_ok found
    obtain ⟨row, present, rfl, rfl, rfl, state, revision64⟩ :=
      loadReviewThread_eq_some loaded
    have same : expected = row.revision := by
      apply Int64.toInt.inj
      rw [toInt_integerVersion stored, toInt_revision64 revision64]
    subst same
    have currentOpen : current.state = .open := by
      cases stateOf : current.state
      · rfl
      exact absurd stateOf unresolved
    have opened : row.state = .open := state.symm.trans currentOpen
    simp only [updateResolved] at updated
    split at updated
    · cases updated
    rename_i checked
    cases updated
    refine .inr ⟨current.target.kind, row, revision, now, ?_, ⟨current, found, currentOpen⟩, rfl⟩
    refine ⟨present, rfl, rfl, opened, revision64, ?_, ?_⟩
    · rw [toInt_integerVersion raised, toInt_revision64 revision64,
        UInt64.toNat_add, UInt64.toNat_one, Nat.mod_eq_of_lt (not_le.1 bounded)]
      rfl
    have all := all_eq_true.1 (not_not.1 checked) row (mem_filter.2
      ⟨present, by simp [matchesThread]⟩)
    exact all
  · cases resolved

theorem createReviewThread_eq_ok
    (created : createReviewThread store env workspaceId target author body tables =
      (.ok thread, written)) : ∃ normalized, validateReviewTarget target = .ok () ∧
      normalizeReviewBody body = .ok normalized ∧
        createReviewTransaction store env workspaceId target author normalized tables =
          .ok (thread, written) := by
  simp only [createReviewThread] at created
  split at created
  · cases created
  rename_i valid
  split at created
  · cases created
  next normalized accepted =>
    exact ⟨normalized, valid, accepted, inTransaction_ok.1 created⟩

variable {error : WorkspaceStoreError}

theorem createReviewThread_error
    (failed : (createReviewThread store env workspaceId target author body tables).1 =
      .error error) :
    (createReviewThread store env workspaceId target author body tables).2 = tables := by
  revert failed
  simp only [createReviewThread]
  split
  · exact fun _ => rfl
  split
  · exact fun _ => rfl
  exact inTransaction_error

theorem resolveReviewThread_error {expectedRevision : UInt64}
    (failed : (resolveReviewThread store env workspaceId threadId expectedRevision tables).1 =
      .error error) :
    (resolveReviewThread store env workspaceId threadId expectedRevision tables).2 = tables := by
  revert failed
  simp only [resolveReviewThread]
  split
  · exact fun _ => rfl
  exact inTransaction_error

theorem createReviewThread_step (target : StoredReviewTarget) (author : StoredReviewAuthor)
    (body : String) :
    ∃ reviews, (createReviewThread store env workspaceId target author body tables).2 =
      { tables with reviews := reviews } ∧ ReviewsStep tables.reviews reviews := by
  cases outcome : createReviewThread store env workspaceId target author body tables with
  | mk answer written =>
    cases answer with
    | error error =>
      have kept := createReviewThread_error (congrArg Prod.fst outcome)
      rw [outcome] at kept
      exact ⟨_, kept, .same⟩
    | ok thread =>
      obtain ⟨normalized, valid, accepted, created⟩ := createReviewThread_eq_ok outcome
      obtain ⟨kind, row, comment, opening, _, _, _, _, _, rfl⟩ :=
        createReviewTransaction_eq_ok valid accepted created
      exact ⟨_, rfl, .changed (.created opening)⟩

theorem resolveReviewThread_cases (expectedRevision : UInt64) :
    (resolveReviewThread store env workspaceId threadId expectedRevision tables).2 = tables ∨
      ∃ kind, ∃ row : ReviewThreadRow kind.Anchor, ∃ revision updatedAtUnixMs,
        Resolving (tables.reviews kind) workspaceId threadId expectedRevision row revision
          updatedAtUnixMs ∧ FindsOpen tables workspaceId threadId ∧
          (resolveReviewThread store env workspaceId threadId expectedRevision tables).2 =
            tables.setReviews kind { tables.reviews kind with
                threads :=
                  (tables.reviews kind).threads.map
                    (resolveMatching row revision updatedAtUnixMs) } := by
  cases outcome : resolveReviewThread store env workspaceId threadId expectedRevision tables with
  | mk answer written =>
    cases answer with
    | error error =>
      have kept := resolveReviewThread_error (congrArg Prod.fst outcome)
      rw [outcome] at kept
      exact .inl kept
    | ok thread =>
      simp only [resolveReviewThread] at outcome
      split at outcome
      · cases outcome
      exact resolveReviewTransaction_eq_ok (inTransaction_ok.1 outcome)

theorem resolveReviewThread_step (expectedRevision : UInt64) :
    ∃ reviews, (resolveReviewThread store env workspaceId threadId expectedRevision tables).2 =
      { tables with reviews := reviews } ∧ ReviewsStep tables.reviews reviews := by
  have outcome : (resolveReviewThread store env workspaceId threadId expectedRevision tables).2 =
      tables ∨ _ := resolveReviewThread_cases expectedRevision
  rcases outcome with kept | ⟨kind, row, revision, now, resolving, _, written⟩
  · exact ⟨_, kept, .same⟩
  exact ⟨_, written, .changed (.resolved resolving.present resolving.opened resolving.checked
    resolving.raised)⟩

end Wts.Store
