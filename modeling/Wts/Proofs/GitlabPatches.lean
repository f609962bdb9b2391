/-
Module: Wts.Proofs.GitlabPatches
Purpose: Fetched patches against the file they are saved in.
Trusted boundary: none
Main exports: saved_when_fits
-/
import Wts.Library.EntryMap
import Wts.Library.Interrupt
import Wts.Library.StableSort
import Wts.Integrations.GitlabReviews

namespace Wts.Gitlab

open List Text EntryMap Function Interrupt

theorem isHexDigit_toLower {c : Char} (hex : isHexDigit c = true) : isHexDigit c.toLower = true := by
  have ascii : c.toNat < 128 := by
    simp only [isHexDigit, Char.isDigit, Bool.or_eq_true, Bool.and_eq_true, decide_eq_true_eq,
      Char.le_def, UInt32.le_iff_toNat_le] at hex
    rcases hex with (digit | lower) | upper
    · exact digit.2.trans_lt (by decide)
    · exact lower.2.trans_lt (by decide)
    exact upper.2.trans_lt (by decide)
  have table : ∀ n : Fin 128, isHexDigit (Char.ofNat n) = true →
      isHexDigit (Char.ofNat n).toLower = true := by
    decide
  rw [← Char.ofNat_toNat c] at hex ⊢
  exact table ⟨c.toNat, ascii⟩ hex

variable {value : String}

theorem validatedOid_eq_some {oid : String} (valid : validatedOid value = some oid) :
    oid = value ∧ (validatedOid (toAsciiLowercase oid)).isSome = true := by
  rw [validatedOid] at valid
  split at valid
  · rename_i shape
    cases valid
    refine ⟨rfl, ?_⟩
    have length : (toAsciiLowercase value).length = value.length := by
      rw [toAsciiLowercase, String.length_ofList, length_map, String.length_toList]
    have digits : (toAsciiLowercase value).toList.all isHexDigit = true := by
      rw [toAsciiLowercase, String.toList_ofList, all_map]
      exact all_eq_true.2 fun c member => isHexDigit_toLower (all_eq_true.1 shape.2 c member)
    rw [validatedOid, if_pos ⟨by rw [length]; exact shape.1, digits⟩]
    rfl
  cases valid

/-! ### A built patch passes the check -/

theorem boundedText_eq_some {text : String} {limit : ℕ}
    (bounded : boundedText value limit = some text) : text.length ≤ limit := by
  rw [boundedText] at bounded
  split at bounded
  · rename_i shape
    cases bounded
    exact shape.2.1
  cases bounded

theorem validatedUsername_eq_some {username : String}
    (valid : validatedUsername value = some username) :
    (validatedUsername username).isSome = true := by
  have same : username = value := by
    rw [validatedUsername] at valid
    split at valid
    · cases valid
      rfl
    cases valid
  rw [same, valid]
  rfl

theorem validatedFilePath_eq_some {path : String}
    (valid : validatedFilePath value = some path) : (validatedFilePath path).isSome = true := by
  have same : path = value := by
    rw [validatedFilePath] at valid
    split at valid
    · cases valid
      rfl
    cases valid
  rw [same, valid]
  rfl

theorem validatedReviewCommit_valid {node : ReviewCommitNode} {commit : GitlabReviewCommit}
    (valid : validatedReviewCommit node = some commit) : validSavedCommit commit = true := by
  simp only [validatedReviewCommit, Option.bind_eq_bind, Option.bind_eq_some_iff,
    Option.some.injEq] at valid
  obtain ⟨oid, isOid, title, isTitle, author, isAuthor, authored, isAuthored, rfl⟩ := valid
  have parent : ((node.parentIds.head?.bind validatedOid).map toAsciiLowercase).all
      (fun oid => (validatedOid oid).isSome) = true := by
    rcases found : node.parentIds.head?.bind validatedOid with _ | parent
    · rfl
    obtain ⟨value, _, isParent⟩ := Option.bind_eq_some_iff.1 found
    exact (validatedOid_eq_some isParent).2
  simp only [validSavedCommit, (validatedOid_eq_some isOid).2, parent, boundedText_eq_some isTitle,
    boundedText_eq_some isAuthor, decide_true, Bool.and_self]

theorem validatedComment_valid {note : ReviewDiscussionNoteNode}
    {comment : GitlabReviewDiscussionComment} (named : note.id ≠ 0)
    (valid : validatedComment note = some comment) : validSavedComment comment = true := by
  simp only [validatedComment, Option.bind_eq_bind, Option.bind_eq_some_iff,
    Option.some.injEq] at valid
  obtain ⟨body, isBody, author, isAuthor, created, isCreated, rfl⟩ := valid
  simp only [validSavedComment, Nat.pos_of_ne_zero named, boundedText_eq_some isBody,
    validatedUsername_eq_some isAuthor, boundedText_eq_some isCreated, decide_true, Bool.and_self]

theorem validatedComments_valid (count : ℕ) (notes : List ReviewDiscussionNoteNode) :
    (∀ comment ∈ validatedComments count notes, validSavedComment comment = true) ∧
      (count ≤ maxReviewDiscussionComments →
        count + (validatedComments count notes).length ≤ maxReviewDiscussionComments) := by
  induction notes generalizing count with
  | nil => exact ⟨fun _ none => absurd none not_mem_nil, fun few => few⟩
  | cons note rest ih =>
    rw [validatedComments]
    split
    · exact ih count
    rename_i counted
    simp only [not_or, ge_iff_le, not_le] at counted
    obtain ⟨_, room, named⟩ := counted
    split
    · exact ih count
    rename_i comment valid
    obtain ⟨others, few⟩ := ih (count + 1)
    refine ⟨?_, ?_⟩
    · intro other member
      rcases mem_cons.1 member with rfl | later
      · exact validatedComment_valid named valid
      exact others other later
    intro _
    have total := few room
    rw [length_cons]
    omega

theorem anchorOf_valid (node : ReviewDiscussionPositionNode) :
    (anchorOf node).1.all (fun path => (validatedFilePath path).isSome) = true ∧
      (anchorOf node).2.1.all (fun side => side = "additions" || side = "deletions") = true := by
  have paths : ∀ path : Option String,
      (path.bind validatedFilePath).all (fun path => (validatedFilePath path).isSome) = true := by
    intro path
    rcases found : path.bind validatedFilePath with _ | valid
    · rfl
    obtain ⟨value, _, isPath⟩ := Option.bind_eq_some_iff.1 found
    exact validatedFilePath_eq_some isPath
  rw [anchorOf]
  split
  · exact ⟨paths _, rfl⟩
  · exact ⟨paths _, rfl⟩
  exact ⟨rfl, rfl⟩

theorem threadOf_valid {node : ReviewDiscussionNode}
    {comments : List GitlabReviewDiscussionComment} (named : validThreadId node.id = true)
    (valid : ∀ comment ∈ comments, validSavedComment comment = true) :
    validSavedDiscussion (threadOf node comments) = true := by
  simp only [validThreadId, Bool.and_eq_true] at named
  have place : ((threadOf node comments).filePath.all fun path =>
        (validatedFilePath path).isSome) = true ∧
      ((threadOf node comments).side.all fun side =>
        side = "additions" || side = "deletions") = true := by
    rw [threadOf]
    rcases node.notes.findSome? ReviewDiscussionNoteNode.position with _ | anchor
    · exact ⟨rfl, rfl⟩
    exact anchorOf_valid anchor
  simp only [validSavedDiscussion, Bool.and_eq_true]
  exact ⟨⟨⟨⟨named.1.1, named.1.2⟩, place.1⟩, place.2⟩, all_eq_true.2 valid⟩

theorem discussionsFrom_valid (count : ℕ) (nodes : List ReviewDiscussionNode) :
    (∀ thread ∈ discussionsFrom count nodes, validSavedDiscussion thread = true) ∧
      (discussionsFrom count nodes).length ≤ nodes.length ∧ (count ≤ maxReviewDiscussionComments →
        count + commentCount (discussionsFrom count nodes) ≤ maxReviewDiscussionComments) := by
  induction nodes generalizing count with
  | nil => exact ⟨fun _ none => absurd none not_mem_nil, le_rfl, fun few => few⟩
  | cons node rest ih =>
    rw [discussionsFrom, length_cons]
    have skipped := ih count
    split
    · rename_i named
      simp only
      split
      · exact ⟨skipped.1, Nat.le_succ_of_le skipped.2.1, skipped.2.2⟩
      obtain ⟨validComments, fewComments⟩ := validatedComments_valid count node.notes
      obtain ⟨others, fewer, few⟩ := ih (count + (validatedComments count node.notes).length)
      refine ⟨?_, Nat.succ_le_succ fewer, ?_⟩
      · intro thread member
        rcases mem_cons.1 member with rfl | later
        · exact threadOf_valid named validComments
        exact others thread later
      intro room
      have total := few (fewComments room)
      simp only [commentCount, map_cons, sum_cons, threadOf] at total ⊢
      omega
    exact ⟨skipped.1, Nat.le_succ_of_le skipped.2.1, skipped.2.2⟩

theorem changesFrom_small {changes : List ReviewChange} {patch result : String} {truncated : Bool}
    (small : patch.utf8ByteSize ≤ glabMaxOutputBytes)
    (built : changesFrom patch changes = .ok (result, truncated)) :
    result.utf8ByteSize ≤ glabMaxOutputBytes := by
  induction changes generalizing patch with
  | nil =>
    cases built
    exact small
  | cons change rest ih =>
    rw [changesFrom] at built
    split at built
    · simp only at built
      split at built
      · cases built
        exact small
      rename_i fits
      refine ih ?_ built
      rw [String.utf8ByteSize_append]
      exact Nat.not_lt.1 fits
    cases built

variable {cachedPatch : Option GitlabReviewPatch}

theorem builtDiscussions_valid (answers : PatchAnswers)
    (cachedValid : ∀ cached, cachedPatch = some cached → validSavedReviewPatch cached = true) :
    let discussions :=
      match answers.discussions with
      | .ok (some nodes) => validatedReviewDiscussions nodes
      | _ => (cachedPatch.map GitlabReviewPatch.discussions).getD []
    (∀ thread ∈ discussions, validSavedDiscussion thread = true) ∧
      discussions.length ≤ maxReviewDiscussions ∧
        commentCount discussions ≤ maxReviewDiscussionComments := by
  simp only
  split
  · rename_i nodes _
    obtain ⟨threads, fewer, few⟩ := discussionsFrom_valid 0 (nodes.take maxReviewDiscussions)
    refine ⟨threads, fewer.trans (length_take_le _ _), ?_⟩
    have total := few (Nat.zero_le _)
    rwa [Nat.zero_add] at total
  rcases cachedPatch with _ | cached
  · exact ⟨fun _ none => absurd none not_mem_nil, Nat.zero_le _, Nat.zero_le _⟩
  have valid := cachedValid cached rfl
  simp only [validSavedReviewPatch, Bool.and_eq_true, decide_eq_true_eq] at valid
  exact ⟨all_eq_true.1 valid.2, valid.1.1.1.2, valid.1.1.2⟩

theorem requiredOid_eq_ok {oid : String} (read : requiredOid value = .ok oid) :
    (validatedOid (toAsciiLowercase oid)).isSome = true := by
  rw [requiredOid] at read
  split at read
  · cases read
  rename_i valid
  cases read
  exact (validatedOid_eq_some valid).2

/-- What a built patch is. -/
structure Built (patch : GitlabReviewPatch) (repositoryId : String) (iid : ℕ)
    (selectedCommitOid : Option String) : Prop where
  key : savedReviewPatchKey patch =
    { repositoryId := repositoryId, iid := iid, selectedCommitOid := selectedCommitOid }
  fresh : patch.fromCache = false
  valid : patch.repositoryId.utf8ByteSize ≤ maxTextChars → 0 < patch.iid →
    validSavedReviewPatch patch = true

variable {iid : ℕ} {patch : GitlabReviewPatch}

theorem buildReviewPatch_built {answers : PatchAnswers} {repositoryId : String}
    {selectedCommitOid : Option String}
    (cachedValid : ∀ cached, cachedPatch = some cached → validSavedReviewPatch cached = true)
    (built : buildReviewPatch answers repositoryId iid selectedCommitOid cachedPatch = .ok patch) :
    Built patch repositoryId iid selectedCommitOid := by
  rw [buildReviewPatch] at built
  split at built
  · cases built
  obtain ⟨commitNodes, _, built⟩ := bind_eq_ok.1 built
  simp only at built
  split at built
  · cases built
  obtain ⟨⟨base, start, head, changes⟩, _, built⟩ := bind_eq_ok.1 built
  obtain ⟨baseOid, isBase, built⟩ := bind_eq_ok.1 built
  obtain ⟨startOid, isStart, built⟩ := bind_eq_ok.1 built
  obtain ⟨headOid, isHead, built⟩ := bind_eq_ok.1 built
  obtain ⟨⟨text, truncated⟩, isText, built⟩ := bind_eq_ok.1 built
  cases built
  refine ⟨rfl, rfl, ?_⟩
  intro short positive
  have small : text.utf8ByteSize ≤ glabMaxOutputBytes := changesFrom_small (by decide) isText
  obtain ⟨threads, fewThreads, fewComments⟩ := builtDiscussions_valid answers cachedValid
  have fewCommits : (validatedReviewCommits commitNodes).length ≤ maxReviewCommits :=
    (length_filterMap_le _ _).trans (length_take_le _ _)
  have commits : (validatedReviewCommits commitNodes).all validSavedCommit = true := by
    rw [all_eq_true]
    intro commit member
    obtain ⟨node, _, isCommit⟩ := mem_filterMap.1 member
    exact validatedReviewCommit_valid isCommit
  simp only [validSavedReviewPatch, Bool.and_eq_true, decide_eq_true_eq]
  exact ⟨⟨⟨⟨⟨⟨⟨⟨⟨⟨⟨trivial, short⟩, positive⟩, requiredOid_eq_ok isBase⟩,
    requiredOid_eq_ok isStart⟩, requiredOid_eq_ok isHead⟩, small⟩, fewCommits⟩, fewThreads⟩,
    fewComments⟩, commits⟩, all_eq_true.2 threads⟩

/-! ### Saving and loading -/

variable (patches : ReviewPatches)

/-- Every patch of the map passes the check of the file, and is held under its own key. -/
def Keyed : Prop :=
  ∀ key patch, patches[key]? = some patch →
    savedReviewPatchKey patch = key ∧ validSavedReviewPatch patch = true

variable {key : ReviewPatchKey}

theorem Keyed.insert {patches : ReviewPatches} (keyed : Keyed patches)
    (isKey : savedReviewPatchKey patch = key)
    (valid : validSavedReviewPatch patch = true) : Keyed (patches.insert key patch) := by
  intro other value found
  rw [Std.TreeMap.getElem?_insert] at found
  split at found
  · rename_i same
    cases found
    exact ⟨isKey.trans (compare_eq_iff_eq.1 same), valid⟩
  exact keyed other value found

/-- How many keys come after this one in the file. -/
def laterKeys (key : ReviewPatchKey) : ℕ :=
  (patches.keys.filter fun other => key < other).length

theorem keys_strict : patches.keys.Pairwise (· < ·) :=
  (Std.TreeMap.ordered_keys (t := patches)).imp fun less => compare_lt_iff_lt.1 less

theorem laterKeys_insert_self (key : ReviewPatchKey)
    (patch : GitlabReviewPatch) : laterKeys (patches.insert key patch) key = laterKeys patches key := by
  have distinct : ∀ patches : ReviewPatches,
      (patches.keys.filter fun other => decide (key < other)).Nodup :=
    fun patches => ((keys_strict patches).imp ne_of_lt).filter _
  rw [laterKeys, laterKeys]
  apply List.Perm.length_eq
  rw [perm_ext_iff_of_nodup (distinct _) (distinct _)]
  intro other
  rw [mem_filter, mem_filter, Std.TreeMap.mem_keys, Std.TreeMap.mem_keys,
    Std.TreeMap.mem_insert, compare_eq_iff_eq, decide_eq_true_eq]
  constructor
  · rintro ⟨rfl | member, later⟩
    · exact absurd later (lt_irrefl _)
    · exact ⟨member, later⟩
  exact fun ⟨member, later⟩ => ⟨Or.inr member, later⟩

def lastPairs : List (ReviewPatchKey × GitlabReviewPatch) :=
  patches.toList.reverse.take maxSavedReviewPatches

theorem mem_lastPairs {patches : ReviewPatches} : (key, patch) ∈ lastPairs patches ↔
      patches[key]? = some patch ∧ laterKeys patches key < maxSavedReviewPatches := by
  have keysOf : (lastPairs patches).map Prod.fst = patches.keys.reverse.take maxSavedReviewPatches := by
    rw [lastPairs, map_take, map_reverse, Std.TreeMap.map_fst_toList_eq_keys]
  constructor
  · intro member
    have found : patches[key]? = some patch := by
      rw [← Std.TreeMap.mem_toList_iff_getElem?_eq_some]
      exact mem_reverse.1 (mem_of_mem_take member)
    have isKey : key ∈ patches.keys.reverse.take maxSavedReviewPatches := by
      rw [← keysOf]
      exact mem_map.2 ⟨(key, patch), member, rfl⟩
    have inKeys : key ∈ patches.keys := mem_reverse.1 (mem_of_mem_take isKey)
    exact ⟨found, (StableSort.mem_reverse_take_iff (keys_strict patches) inKeys).1 isKey⟩
  rintro ⟨found, few⟩
  have inList := Std.TreeMap.mem_toList_iff_getElem?_eq_some.2 found
  have inKeys : key ∈ patches.keys := by
    rw [← Std.TreeMap.map_fst_toList_eq_keys]
    exact mem_map.2 ⟨(key, patch), inList, rfl⟩
  have isKey := (StableSort.mem_reverse_take_iff (keys_strict patches) inKeys).2 few
  rw [← keysOf] at isKey
  obtain ⟨⟨other, value⟩, member, rfl⟩ := mem_map.1 isKey
  have same : patches[other]? = some value := by
    rw [← Std.TreeMap.mem_toList_iff_getElem?_eq_some]
    exact mem_reverse.1 (mem_of_mem_take member)
  rw [found] at same
  rwa [Option.some.inj same]

theorem lastPairs_distinct : ((lastPairs patches).map Prod.fst).Nodup := by
  have distinct : patches.keys.Nodup := (keys_strict patches).imp ne_of_lt
  rw [lastPairs, map_take, map_reverse, Std.TreeMap.map_fst_toList_eq_keys]
  exact (nodup_reverse.2 distinct).sublist (take_sublist _ _)

theorem length_savedEntries : (savedEntries patches).entries.length ≤ maxSavedReviewPatches :=
  length_take_le _ _

theorem getElem?_load_save {jsonLength : SavedReviewPatchCache → ℕ} {patches : ReviewPatches}
    {file : Option CacheFile} (keyed : Keyed patches)
    (fits : jsonLength (savedEntries patches) ≤ maxSavedReviewCacheBytes) (key : ReviewPatchKey) :
    (loadSavedReviewPatches (saveReviewPatches jsonLength patches file))[key]? =
      if laterKeys patches key < maxSavedReviewPatches then
        patches[key]?.map GitlabReviewPatch.cached else none := by
  have pairs : ((savedEntries patches).entries.filter validSavedReviewPatch).map
      (fun patch => (savedReviewPatchKey patch, patch.cached)) =
        (lastPairs patches).map fun entry => (entry.1, entry.2.cached) := by
    have entries : (savedEntries patches).entries = (lastPairs patches).map Prod.snd := by
      simp only [savedEntries, lastPairs, map_take, map_reverse]
    have ofPair : ∀ entry ∈ lastPairs patches, savedReviewPatchKey entry.2 = entry.1 ∧
        validSavedReviewPatch entry.2 = true :=
      fun entry member => keyed entry.1 entry.2 (mem_lastPairs.1 member).1
    rw [entries, filter_eq_self.2, map_map]
    · exact map_congr_left fun entry member => by
        simp only [comp_apply, (ofPair entry member).1]
    intro patch member
    obtain ⟨entry, isPair, rfl⟩ := mem_map.1 member
    exact (ofPair entry isPair).2
  have loaded : loadSavedReviewPatches (saveReviewPatches jsonLength patches file) =
      ofEntries compare
        ((lastPairs patches).map fun entry => (entry.1, entry.2.cached)) := by
    rw [← pairs, ofEntries, foldl_map, saveReviewPatches, if_neg (Nat.not_lt.2 fits)]
    simp only [loadSavedReviewPatches]
    rw [if_neg (Nat.not_lt.2 fits), if_neg]
    rw [not_or, not_not, Nat.not_lt]
    exact ⟨rfl, length_savedEntries patches⟩
  rw [loaded, getElem?_ofEntries]
  have distinct : (((lastPairs patches).map fun entry => (entry.1, entry.2.cached)).map
      Prod.fst).Nodup := by
    rw [map_map]
    exact lastPairs_distinct patches
  rcases found : patches[key]? with _ | patch
  · rw [Option.map_none, ite_self]
    apply lastValue_eq_none
    intro entry member same
    obtain ⟨⟨other, value⟩, isPair, rfl⟩ := mem_map.1 member
    have held := (mem_lastPairs.1 isPair).1
    simp only at same
    rw [same, found] at held
    cases held
  split
  · rename_i few
    apply lastValue_eq_some_of_mem distinct
    exact mem_map.2 ⟨(key, patch), mem_lastPairs.2 ⟨found, few⟩, rfl⟩
  rename_i many
  apply lastValue_eq_none
  intro entry member same
  obtain ⟨⟨other, value⟩, isPair, rfl⟩ := mem_map.1 member
  simp only at same
  rw [same] at isPair
  exact many (mem_lastPairs.1 isPair).2

theorem load_eq (file : Option CacheFile) :
    ∃ entries : List GitlabReviewPatch, entries.length ≤ maxSavedReviewPatches ∧
      (∀ patch ∈ entries, validSavedReviewPatch patch = true) ∧
        loadSavedReviewPatches file = ofEntries compare
          (entries.map fun patch => (savedReviewPatchKey patch, patch.cached)) := by
  have empty : loadSavedReviewPatches none = ofEntries compare
      ([].map fun patch => (savedReviewPatchKey patch, patch.cached)) := rfl
  have noEntries : ∀ patch ∈ ([] : List GitlabReviewPatch), validSavedReviewPatch patch = true :=
    fun _ none => absurd none not_mem_nil
  rcases file with _ | ⟨length, _ | saved⟩
  · exact ⟨[], Nat.zero_le _, noEntries, empty⟩
  · refine ⟨[], Nat.zero_le _, noEntries, ?_⟩
    simp only [loadSavedReviewPatches, ite_self]
    exact empty
  by_cases accepted : length ≤ maxSavedReviewCacheBytes ∧ saved.schemaVersion = schemaVersion ∧
      saved.entries.length ≤ maxSavedReviewPatches
  · obtain ⟨short, version, few⟩ := accepted
    refine ⟨saved.entries.filter validSavedReviewPatch, (length_filter_le _ _).trans few,
      fun patch member => (mem_filter.1 member).2, ?_⟩
    simp only [loadSavedReviewPatches]
    rw [if_neg (Nat.not_lt.2 short), if_neg (by simp only [version]; omega), ofEntries, foldl_map]
  refine ⟨[], Nat.zero_le _, noEntries, ?_⟩
  simp only [loadSavedReviewPatches]
  rw [not_and_or, not_and_or, not_le, not_le] at accepted
  rcases accepted with long | refused
  · rw [if_pos long]
    exact empty
  rw [if_pos refused, ite_self]
  exact empty

theorem getElem?_load {file : Option CacheFile}
    (found : (loadSavedReviewPatches file)[key]? = some patch) :
    savedReviewPatchKey patch = key ∧ validSavedReviewPatch patch = true ∧ patch.cached = patch := by
  obtain ⟨entries, _, valid, loaded⟩ := load_eq file
  rw [loaded, getElem?_ofEntries] at found
  obtain ⟨entry, member, same⟩ := mem_map.1 (mem_of_lastValue_eq_some found)
  cases same
  exact ⟨rfl, valid entry member, rfl⟩

theorem load_keyed (file : Option CacheFile) : Keyed (loadSavedReviewPatches file) :=
  fun _ _ found => ⟨(getElem?_load found).1, (getElem?_load found).2.1⟩

theorem size_load_le (file : Option CacheFile) :
    (loadSavedReviewPatches file).size ≤ maxSavedReviewPatches := by
  obtain ⟨entries, few, _, loaded⟩ := load_eq file
  rw [loaded]
  refine (size_ofEntries_le _ _).trans ?_
  rwa [length_map]

abbrev patchKey (repositoryId : String) (iid : ℕ) (selected : Option String) : ReviewPatchKey where
  repositoryId := repositoryId
  iid := iid
  selectedCommitOid := selected

/-- A fetch fails, returns the patch that is held, or puts the patch of the provider in its place. -/
inductive Fetched (jsonLength : SavedReviewPatchCache → ℕ) (answers : PatchAnswers)
    (repositoryId : String) (iid : ℕ) (commitOid : Option String) (refresh : Bool)
    (adapter : Adapter) : Adapter × Except String GitlabReviewPatch → Prop
  | failed (error : String) :
      Fetched jsonLength answers repositoryId iid commitOid refresh adapter (adapter, .error error)
  | held (selected : Option String) (patch result : GitlabReviewPatch)
      (isCommit : selectedCommit commitOid = some selected)
      (found : adapter.reviewPatches[patchKey repositoryId iid selected]? = some patch)
      (same : result.cached = patch.cached) (marked : refresh = true → result.fromCache = true) :
      Fetched jsonLength answers repositoryId iid commitOid refresh adapter (adapter, .ok result)
  | built (selected : Option String) (patch : GitlabReviewPatch)
      (isCommit : selectedCommit commitOid = some selected)
      (asked : refresh = true ∨ adapter.reviewPatches[patchKey repositoryId iid selected]? = none)
      (isBuilt : buildReviewPatch answers repositoryId iid selected
        adapter.reviewPatches[patchKey repositoryId iid selected]? = .ok patch) :
      Fetched jsonLength answers repositoryId iid commitOid refresh adapter
        (adapter.insertPatch jsonLength (patchKey repositoryId iid selected) patch, .ok patch)

theorem fetchReviewPatch_cases (jsonLength : SavedReviewPatchCache → ℕ) (provider : PatchProvider)
    (repositoryId : String) (iid : ℕ) (host projectPath : String) (commitOid : Option String)
    (refresh : Bool) (adapter : Adapter) :
    Fetched jsonLength (provider host projectPath) repositoryId iid commitOid refresh adapter
      (fetchReviewPatch jsonLength provider repositoryId iid host projectPath commitOid refresh
        adapter) := by
  rcases isCommit : selectedCommit commitOid with _ | selected
  · rw [fetchReviewPatch, isCommit]
    exact .failed _
  rw [fetchReviewPatch, isCommit]
  simp only
  rcases found : adapter.reviewPatches[patchKey repositoryId iid selected]? with _ | patch
  · have absent : refresh = true ∨
        adapter.reviewPatches[patchKey repositoryId iid selected]? = none := Or.inr found
    rcases isBuilt : buildReviewPatch (provider host projectPath) repositoryId iid selected none
      with error | patch
    · cases refresh <;> exact .failed error
    have inserted := @Fetched.built jsonLength _ _ _ _ _ _ selected patch isCommit absent
      (by rw [found]; exact isBuilt)
    cases refresh <;> exact inserted
  cases refresh with
  | false =>
    exact .held selected patch patch isCommit found rfl fun impossible => nomatch impossible
  | true =>
    simp only
    rcases isBuilt : buildReviewPatch (provider host projectPath) repositoryId iid selected
      (some patch) with error | fresh
    · exact .held selected patch patch.cached isCommit found rfl fun _ => rfl
    exact .built selected fresh isCommit (Or.inl rfl) (by rw [found]; exact isBuilt)

/-! ### Runs -/

/-- A call of the adapter that reads or changes the cached patches. -/
inductive PatchCall where
  | fetch (provider : PatchProvider) (repositoryId : String) (iid : ℕ) (host projectPath : String)
      (commitOid : Option String) (refresh : Bool)
  | list (answers : ReviewAnswers) (repositories : List GitlabReviewTrustedRepository)

/-- An adapter with the patch that was fetched last, of each key and of all. -/
structure Session where
  adapter : Adapter
  fetched : ReviewPatchKey → Option GitlabReviewPatch
  latest : Option (ReviewPatchKey × GitlabReviewPatch)
  returned : Option (ReviewPatchKey × GitlabReviewPatch)

def Session.start (file : Option CacheFile) : Session where
  adapter := Adapter.new true file
  fetched := fun key => (loadSavedReviewPatches file)[key]?
  latest := none
  returned := none

section Runs

variable (parseUrl : String → Option Url) (jsonLength : SavedReviewPatchCache → ℕ)

/-- The call, and what it fetched and returned. -/
def PatchCall.perform (call : PatchCall) (session : Session) : Session :=
  match call with
  | .list answers repositories =>
    { session with adapter := (listReviews parseUrl answers repositories session.adapter).1 }
  | .fetch provider repositoryId iid host projectPath commitOid refresh =>
    let (adapter, result) := fetchReviewPatch jsonLength provider repositoryId iid host projectPath
      commitOid refresh session.adapter
    match result with
    | .error _ => { session with adapter := adapter }
    | .ok patch =>
      let key := patchKey repositoryId iid ((selectedCommit commitOid).getD none)
      let asked := refresh || (session.adapter.reviewPatches[key]?).isNone
      if asked && !patch.fromCache then
        { adapter := adapter
          fetched := Function.update session.fetched key (some patch)
          latest := some (key, patch)
          returned := some (key, patch) }
      else
        { session with adapter := adapter, returned := some (key, patch) }

def Session.run (calls : List PatchCall) (session : Session) : Session :=
  calls.foldl (fun session call => call.perform parseUrl jsonLength session) session

/-- What a new adapter that is opened on the file holds. -/
structure Saved (session : Session) : Prop where
  latest : ∀ key patch, session.latest = some (key, patch) →
    (Adapter.new true session.adapter.cacheFile).reviewPatches[key]? = some patch.cached
  returned : ∀ key patch, session.returned = some (key, patch) →
    (Adapter.new true session.adapter.cacheFile).reviewPatches[key]? = some patch.cached
  others : ∀ key patch,
    (Adapter.new true session.adapter.cacheFile).reviewPatches[key]? = some patch →
      ∃ last, session.fetched key = some last ∧ patch = last.cached
  few : (Adapter.new true session.adapter.cacheFile).reviewPatches.size ≤ maxSavedReviewPatches

/-- A call meets the limits of the file: fewer than the fixed number of held keys follow the one that
is asked for, and a patch that is fetched passes the check of the file and fits into it. -/
def PatchCall.Fits (call : PatchCall) (adapter : Adapter) : Prop :=
  match call with
  | .list _ _ => True
  | .fetch provider repositoryId iid host projectPath commitOid refresh =>
    ∀ selected, selectedCommit commitOid = some selected →
      let key := patchKey repositoryId iid selected
      (adapter.reviewPatches[key]? ≠ none →
        laterKeys adapter.reviewPatches key < maxSavedReviewPatches) ∧
      ∀ patch, refresh = true ∨ adapter.reviewPatches[key]? = none →
        buildReviewPatch (provider host projectPath) repositoryId iid selected
          adapter.reviewPatches[key]? = .ok patch →
        laterKeys adapter.reviewPatches key < maxSavedReviewPatches ∧
          repositoryId.utf8ByteSize ≤ maxTextChars ∧ 0 < iid ∧
            jsonLength (savedEntries (adapter.reviewPatches.insert key patch)) ≤
              maxSavedReviewCacheBytes

/-- The memory and the file agree on the keys that are saved, and hold what was fetched last. -/
structure Mirrored (session : Session) : Prop where
  saves : session.adapter.savesPatches = true
  keyed : Keyed session.adapter.reviewPatches
  saved : ∀ key patch, session.adapter.reviewPatches[key]? = some patch →
    laterKeys session.adapter.reviewPatches key < maxSavedReviewPatches →
      (loadSavedReviewPatches session.adapter.cacheFile)[key]? = some patch.cached
  memory : ∀ key patch, session.adapter.reviewPatches[key]? = some patch →
    ∃ last, session.fetched key = some last ∧ patch.cached = last.cached
  held : ∀ key patch, (loadSavedReviewPatches session.adapter.cacheFile)[key]? = some patch →
    ∃ last, session.fetched key = some last ∧ patch = last.cached
  latest : ∀ key patch, session.latest = some (key, patch) →
    (loadSavedReviewPatches session.adapter.cacheFile)[key]? = some patch.cached
  returned : ∀ key patch, session.returned = some (key, patch) →
    (loadSavedReviewPatches session.adapter.cacheFile)[key]? = some patch.cached

theorem start_mirrored (file : Option CacheFile) : Mirrored (Session.start file) := by
  refine ⟨rfl, load_keyed file, ?_, ?_, ?_, fun _ _ impossible => (nomatch impossible),
    fun _ _ impossible => (nomatch impossible)⟩
  · intro key patch found _
    rw [(getElem?_load found).2.2]
    exact found
  · exact fun key patch found => ⟨patch, found, rfl⟩
  exact fun key patch found => ⟨patch, found, (getElem?_load found).2.2.symm⟩

variable {jsonLength} in
theorem insert_mirrored {session : Session} {key : ReviewPatchKey} {patch : GitlabReviewPatch}
    (mirrored : Mirrored session) (isKey : savedReviewPatchKey patch = key)
    (valid : validSavedReviewPatch patch = true)
    (few : laterKeys session.adapter.reviewPatches key < maxSavedReviewPatches)
    (fits : jsonLength (savedEntries (session.adapter.reviewPatches.insert key patch)) ≤
      maxSavedReviewCacheBytes) : Mirrored {
      adapter := session.adapter.insertPatch jsonLength key patch
      fetched := update session.fetched key (some patch)
      latest := some (key, patch)
      returned := some (key, patch) } := by
  have keyed := mirrored.keyed.insert isKey valid
  have memory : ∀ other value, (session.adapter.reviewPatches.insert key patch)[other]? = some value →
      ∃ last, update session.fetched key (some patch) other = some last ∧
        value.cached = last.cached := by
    intro other value found
    rw [Std.TreeMap.getElem?_insert] at found
    split at found
    · rename_i same
      cases found
      rw [compare_eq_iff_eq] at same
      exact ⟨patch, by rw [same, update_self], rfl⟩
    rename_i different
    rw [compare_eq_iff_eq] at different
    obtain ⟨last, wasFetched, same⟩ := mirrored.memory other value found
    exact ⟨last, by rwa [update_of_ne (Ne.symm different)], same⟩
  have loaded := @getElem?_load_save jsonLength _ session.adapter.cacheFile keyed fits
  have file : (session.adapter.insertPatch jsonLength key patch).cacheFile =
      saveReviewPatches jsonLength (session.adapter.reviewPatches.insert key patch)
        session.adapter.cacheFile := if_pos mirrored.saves
  have newest : (loadSavedReviewPatches
      (session.adapter.insertPatch jsonLength key patch).cacheFile)[key]? = some patch.cached := by
    rw [file, loaded, laterKeys_insert_self, if_pos few, Std.TreeMap.getElem?_insert_self]
    rfl
  have entry : ∀ other value, some (key, patch) = some (other, value) → (loadSavedReviewPatches
        (session.adapter.insertPatch jsonLength key patch).cacheFile)[other]? = some value.cached := by
    intro other value same
    cases same
    exact newest
  refine ⟨mirrored.saves, keyed, ?_, memory, ?_, entry, entry⟩
  · intro other value found later
    rw [file, loaded]
    exact (if_pos later).trans (congrArg (Option.map GitlabReviewPatch.cached) found)
  intro other value found
  rw [file, loaded] at found
  split at found
  · obtain ⟨inner, isHeld, rfl⟩ := Option.map_eq_some_iff.1 found
    exact memory other inner isHeld
  cases found

theorem perform_mirrored (call : PatchCall) {session : Session} (mirrored : Mirrored session)
    (fits : call.Fits jsonLength session.adapter) :
    Mirrored (call.perform parseUrl jsonLength session) := by
  cases call with
  | list answers repositories =>
    rw [PatchCall.perform, listReviews]
    split
    · exact mirrored
    split
    · exact mirrored
    refine ⟨mirrored.saves, ?_, ?_, ?_, mirrored.held, mirrored.latest, mirrored.returned⟩
    all_goals
      intro key patch found
      rw [Std.TreeMap.getElem?_emptyc] at found
      cases found
  | fetch provider repositoryId iid host projectPath commitOid refresh =>
    have outcome := fetchReviewPatch_cases jsonLength provider repositoryId iid host projectPath
      commitOid refresh session.adapter
    rw [PatchCall.perform]
    generalize fetchReviewPatch jsonLength provider repositoryId iid host projectPath commitOid
      refresh session.adapter = ending at outcome ⊢
    cases outcome with
    | failed error => exact mirrored
    | held selected patch result isCommit found same marked =>
      have few := (fits selected isCommit).1 (by rw [found]; exact Option.some_ne_none _)
      have notFetched : ((refresh || false) && !result.fromCache) = false := by
        cases refresh with
        | false => rfl
        | true => rw [marked rfl]; rfl
      simp only [isCommit, Option.getD_some, found, Option.isNone_some, notFetched,
        Bool.false_eq_true, if_false]
      refine ⟨mirrored.saves, mirrored.keyed, mirrored.saved, mirrored.memory, mirrored.held,
        mirrored.latest, ?_⟩
      intro key value isReturned
      cases isReturned
      rw [same]
      exact mirrored.saved _ _ found few
    | built selected patch isCommit asked isBuilt =>
      obtain ⟨few, short, positive, fitting⟩ := (fits selected isCommit).2 patch asked isBuilt
      have isNew := buildReviewPatch_built
        (fun cached found => (mirrored.keyed _ cached found).2) isBuilt
      have wasAsked : (refresh || (session.adapter.reviewPatches[
          patchKey repositoryId iid selected]?).isNone) = true := by
        rcases asked with rfl | absent
        · rfl
        rw [absent]
        exact Bool.or_true _
      simp only [isCommit, Option.getD_some, wasAsked, isNew.fresh, Bool.not_false, Bool.and_self,
        if_true]
      have isRepository : patch.repositoryId = repositoryId :=
        congrArg ReviewPatchKey.repositoryId isNew.key
      have isIid : patch.iid = iid := congrArg ReviewPatchKey.iid isNew.key
      exact insert_mirrored mirrored isNew.key
        (isNew.valid (by rwa [isRepository]) (by rwa [isIid])) few fitting

/-- A state that is reached by calls, each of which meets the limits. -/
inductive Reached (file : Option CacheFile) : Session → Prop
  | start : Reached file (Session.start file)
  | call (call : PatchCall) (session : Session) (before : Reached file session)
      (fits : call.Fits jsonLength session.adapter) :
      Reached file (call.perform parseUrl jsonLength session)

theorem reached_mirrored {file : Option CacheFile} {session : Session}
    (reached : Reached parseUrl jsonLength file session) : Mirrored session := by
  induction reached with
  | start => exact start_mirrored file
  | call call session _ fits ih => exact perform_mirrored parseUrl jsonLength call ih fits

/-- As long as every call meets the limits, a new adapter on the file holds the patch that was fetched
last, the last fetched patch of every other key that it holds, and not too many patches. -/
theorem saved_when_fits (file : Option CacheFile) (session : Session)
    (reached : Reached parseUrl jsonLength file session) : Saved session := by
  have mirrored := reached_mirrored parseUrl jsonLength reached
  exact ⟨mirrored.latest, mirrored.returned, mirrored.held, size_load_le _⟩

end Runs

def sampleOid : String :=
  "00112233445566778899aabbccddeeff00112233"

def sampleAnswers : PatchAnswers where
  executable := true
  commits := .ok (some [])
  changes := .ok (some {
    baseSha := sampleOid, startSha := sampleOid, headSha := sampleOid, changes := [] })
  commitChanges := fun _ => .ok none
  discussions := .ok (some [])
  now := 0

def samplePatch (iid : ℕ) : GitlabReviewPatch where
  schemaVersion := schemaVersion
  repositoryId := "app"
  iid := iid
  baseCommitOid := sampleOid
  startCommitOid := sampleOid
  headCommitOid := sampleOid
  selectedCommitOid := none
  commits := []
  discussions := []
  patch := ""
  patchTruncated := false
  fromCache := false
  fetchedAtUnixMs := 0

def sampleFetch (iid : ℕ) : PatchCall :=
  .fetch (fun _ _ => sampleAnswers) "app" iid "gitlab.com" "group/app" none true

theorem validatedOid_sample : validatedOid sampleOid = some sampleOid := by
  decide +kernel

theorem lower_sample : toAsciiLowercase sampleOid = sampleOid := by
  decide +kernel

theorem buildReviewPatch_sample (iid : ℕ) (cached : Option GitlabReviewPatch) :
    buildReviewPatch sampleAnswers "app" iid none cached = .ok (samplePatch iid) := by
  simp [buildReviewPatch, sampleAnswers, samplePatch, Answer.required, selectChanges, requiredOid,
    validatedOid_sample, lower_sample, bind, Except.bind, reviewChangesPatch, changesFrom,
    validatedReviewDiscussions, discussionsFrom, validatedReviewCommits]

theorem perform_sample (parseUrl : String → Option Url) (jsonLength : SavedReviewPatchCache → ℕ)
    (iid : ℕ) (session : Session) : (sampleFetch iid).perform parseUrl jsonLength session = {
      adapter := session.adapter.insertPatch jsonLength (patchKey "app" iid none) (samplePatch iid)
      fetched := update session.fetched (patchKey "app" iid none) (some (samplePatch iid))
      latest := some (patchKey "app" iid none, samplePatch iid)
      returned := some (patchKey "app" iid none, samplePatch iid) } := by
  have fetched : fetchReviewPatch jsonLength (fun _ _ => sampleAnswers) "app" iid "gitlab.com"
      "group/app" none true session.adapter =
        (session.adapter.insertPatch jsonLength (patchKey "app" iid none) (samplePatch iid),
          .ok (samplePatch iid)) := by
    rw [fetchReviewPatch]
    simp only [selectedCommit, buildReviewPatch_sample]
  rw [sampleFetch, PatchCall.perform, fetched]
  rfl

theorem samplePatch_valid (positive : 0 < iid) :
    validSavedReviewPatch (samplePatch iid) = true := by
  have short : "app".utf8ByteSize ≤ maxTextChars := by decide
  simp [validSavedReviewPatch, samplePatch, validatedOid_sample, positive, short, commentCount]

theorem run_sample (iids : List ℕ) (positive : ∀ iid ∈ iids, 0 < iid) :
    let session := (Session.start none).run (fun _ => none) (fun _ => 0) (iids.map sampleFetch)
    session.adapter.savesPatches = true ∧ Keyed session.adapter.reviewPatches ∧
      ∀ iid ∈ iids, patchKey "app" iid none ∈ session.adapter.reviewPatches := by
  simp only
  induction iids using List.reverseRecOn with
  | nil => exact ⟨rfl, load_keyed none, fun _ none => absurd none not_mem_nil⟩
  | append_singleton iids last ih =>
    obtain ⟨saves, keyed, held⟩ :=
      ih fun iid member => positive iid (mem_append_left _ member)
    have lastPositive := positive last (mem_append_right _ mem_cons_self)
    rw [map_append, Session.run, foldl_append, map_singleton, foldl_cons, foldl_nil, perform_sample]
    refine ⟨saves, keyed.insert rfl (samplePatch_valid lastPositive), ?_⟩
    intro iid member
    rw [mem_append, mem_singleton] at member
    rcases member with earlier | rfl
    · exact Std.TreeMap.mem_insert.2 (Or.inr (held iid earlier))
    exact Std.TreeMap.mem_insert_self

/-- A run of at most as many fetches as the file keeps patches meets the limits at every call. -/
theorem reached_sample (iids : List ℕ) (positive : ∀ iid ∈ iids, 0 < iid)
    (few : iids.length ≤ maxSavedReviewPatches) :
    let session := (Session.start none).run (fun _ => none) (fun _ => 0) (iids.map sampleFetch)
    Reached (fun _ => none) (fun _ => 0) none session ∧
      session.adapter.reviewPatches.size ≤ iids.length := by
  simp only
  induction iids using List.reverseRecOn with
  | nil => exact ⟨.start, Nat.le_refl 0⟩
  | append_singleton iids last ih =>
    rw [length_append, length_singleton] at few
    obtain ⟨reached, size⟩ := ih (fun iid member => positive iid (mem_append_left _ member)) (by omega)
    have lastPositive := positive last (mem_append_right _ mem_cons_self)
    rw [map_append, Session.run, foldl_append, map_singleton, foldl_cons, foldl_nil]
    rw [Session.run] at reached size
    constructor
    · refine .call (sampleFetch last) _ reached ?_
      intro selected _
      have fewer : laterKeys ((iids.map sampleFetch).foldl (fun session call =>
          call.perform (fun _ => none) (fun _ => 0) session) (Session.start none)).adapter.reviewPatches
            (patchKey "app" last selected) < maxSavedReviewPatches := by
        refine lt_of_le_of_lt (length_filter_le _ _) ?_
        rw [Std.TreeMap.length_keys]
        omega
      exact ⟨fun _ => fewer, fun _ _ _ => ⟨fewer, by decide, lastPositive, Nat.zero_le _⟩⟩
    rw [perform_sample, length_append, length_singleton]
    exact Std.TreeMap.size_insert_le.trans (Nat.succ_le_succ size)

/-- Three merge requests that are fetched out of order fit into the file, and it holds them all. -/
theorem saved_when_fits_sample : ∃ session,
    (Session.start none).run (fun _ => none) (fun _ => 0) ([2, 3, 1].map sampleFetch) = session ∧
      Saved session ∧
      ∀ iid ∈ [2, 3, 1], patchKey "app" iid none ∈ session.adapter.reviewPatches := by
  have positive : ∀ iid ∈ [2, 3, 1], 0 < iid := by decide
  have reached := (reached_sample [2, 3, 1] positive (by decide)).1
  exact ⟨_, rfl, saved_when_fits (fun _ => none) (fun _ => 0) none _ reached,
    (run_sample [2, 3, 1] positive).2.2⟩

/-- Merge requests 2 to 65 of a project are fetched, then its merge request 1: the file keeps the 64
patches with the last keys, and the one that was fetched last is not among them. -/
theorem full_file_counterexample :
    ¬ ∀ (parseUrl : String → Option Url) (jsonLength : SavedReviewPatchCache → ℕ)
      (calls : List PatchCall), Saved ((Session.start none).run parseUrl jsonLength calls) := by
  intro claim
  let iids := (List.range 64).map (· + 2)
  have positive : ∀ iid ∈ iids, 0 < iid := by
    intro iid member
    obtain ⟨index, _, rfl⟩ := mem_map.1 member
    exact Nat.succ_pos _
  obtain ⟨saves, keyed, held⟩ := run_sample iids positive
  have saved := claim (fun _ => none) (fun _ => 0) (iids.map sampleFetch ++ [sampleFetch 1])
  rw [Session.run, foldl_append, foldl_cons, foldl_nil, perform_sample] at saved
  change Saved { adapter := Adapter.insertPatch _ (Session.run _ _ _ _).adapter _ _, .. } at saved
  generalize (Session.start none).run (fun _ => none) (fun _ => 0) (iids.map sampleFetch) = session
    at saves keyed held saved
  have many : maxSavedReviewPatches ≤
      laterKeys session.adapter.reviewPatches (patchKey "app" 1 none) := by
    have keys : (iids.map fun iid => patchKey "app" iid none).length = maxSavedReviewPatches := by
      rw [length_map, length_map, length_range]
      rfl
    rw [← keys]
    apply List.Subperm.length_le
    apply subperm_of_subset
    · refine List.Nodup.map ?_ (nodup_range.map (add_left_injective 2))
      intro left right same
      exact congrArg ReviewPatchKey.iid same
    intro key member
    obtain ⟨iid, isIid, rfl⟩ := mem_map.1 member
    rw [mem_filter, Std.TreeMap.mem_keys, decide_eq_true_eq]
    refine ⟨held iid isIid, ?_⟩
    obtain ⟨index, _, rfl⟩ := mem_map.1 isIid
    change ReviewPatchKey.toTuple _ < ReviewPatchKey.toTuple _
    simp only [ReviewPatchKey.toTuple, Prod.Lex.toLex_lt_toLex]
    exact Or.inr ⟨trivial, Or.inl (by omega)⟩
  have latest := saved.latest _ _ rfl
  have file : (session.adapter.insertPatch (fun _ => 0) (patchKey "app" 1 none)
      (samplePatch 1)).cacheFile = saveReviewPatches (fun _ => 0)
        (session.adapter.reviewPatches.insert (patchKey "app" 1 none) (samplePatch 1))
          session.adapter.cacheFile := if_pos saves
  have keyedLast : Keyed
      (session.adapter.reviewPatches.insert (patchKey "app" 1 none) (samplePatch 1)) :=
    keyed.insert rfl (samplePatch_valid Nat.one_pos)
  simp only [Adapter.new, if_true, file] at latest
  rw [getElem?_load_save keyedLast (Nat.zero_le _), laterKeys_insert_self,
    if_neg (Nat.not_lt.2 many)] at latest
  cases latest

end Wts.Gitlab
