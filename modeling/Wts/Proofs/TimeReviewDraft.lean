/-
Module: Wts.Proofs.TimeReviewDraft
Purpose: The draft of a time review is a partition of the recorded time.
Trusted boundary: none
Main exports: build_partitions
-/
import Wts.App.TimeReview

namespace Wts.TimeReview

open List Sweep MachineInt

/-! ### The group of an instant -/

def SanitizedAttentionInterval.key (interval : SanitizedAttentionInterval) : GroupKey where
  workspaceId := interval.workspaceId
  attribution := interval.attribution

/-- The instant is in the interval. -/
def SanitizedAttentionInterval.Covers (interval : SanitizedAttentionInterval) (t : Int64) : Prop :=
  interval.startedAtUnixMs ≤ t ∧ t < interval.endedAtUnixMs

/-- The instant is in the segment. -/
def TimeReviewSegment.Covers (segment : TimeReviewSegment) (t : Int64) : Prop :=
  segment.startedAtUnixMs ≤ t ∧ t < segment.endedAtUnixMs

def TimeReviewGroup.key (group : TimeReviewGroup) : GroupKey where
  workspaceId := group.workspaceId
  attribution := group.attribution

def slice (key : GroupKey) (segment : TimeReviewSegment) : Slice Int64 GroupKey where
  key := key
  start := segment.startedAtUnixMs
  stop := segment.endedAtUnixMs

def TimeReviewGroup.slices (group : TimeReviewGroup) : List (Slice Int64 GroupKey) :=
  group.segments.map (slice group.key)

def TimeReviewDraft.slices (draft : TimeReviewDraft) : List (Slice Int64 GroupKey) :=
  draft.groups.flatMap TimeReviewGroup.slices

/-- The group of intervals that are active together: their own if they agree, and otherwise an
unassigned one, of the workspace that they share, if any. -/
structure GroupOf (together : SanitizedAttentionInterval → Prop) (key : GroupKey) : Prop where
  agreed : ∀ first, together first → (∀ other, together other → other.key = first.key) →
    key = first.key
  disputed : ∀ first second, together first → together second → first.key ≠ second.key →
    key.attribution = .unassigned
  shared : ∀ first, together first →
    (∀ other, together other → other.workspaceId = first.workspaceId) →
      key.workspaceId = first.workspaceId
  unshared : ∀ first second, together first → together second →
    first.workspaceId ≠ second.workspaceId → key.workspaceId = none

variable {together : SanitizedAttentionInterval → Prop} {key other : GroupKey}
  {intervals : List SanitizedAttentionInterval} {t : Int64}

variable {interval : SanitizedAttentionInterval}

theorem GroupOf.unique (first : GroupOf together key) (second : GroupOf together other)
    (active : together interval) : key = other := by
  by_cases agree : ∀ other, together other → other.key = interval.key
  · rw [first.agreed interval active agree, second.agreed interval active agree]
  push Not at agree
  obtain ⟨rival, isActive, differs⟩ := agree
  have attribution : key.attribution = other.attribution := by
    rw [first.disputed rival interval isActive active differs,
      second.disputed rival interval isActive active differs]
  have workspace : key.workspaceId = other.workspaceId := by
    by_cases share : ∀ other, together other → other.workspaceId = interval.workspaceId
    · rw [first.shared interval active share, second.shared interval active share]
    push Not at share
    obtain ⟨elsewhere, isActive, differs⟩ := share
    rw [first.unshared elsewhere interval isActive active differs,
      second.unshared elsewhere interval isActive active differs]
  cases key
  cases other
  rw [GroupKey.mk.injEq]
  exact ⟨workspace, attribution⟩

theorem GroupOf.congr {others : SanitizedAttentionInterval → Prop}
    (same : ∀ interval, together interval ↔ others interval) (group : GroupOf together key) :
    GroupOf others key := by
  have equal : together = others := funext fun interval => propext (same interval)
  rwa [← equal]

variable {others active : List SanitizedAttentionInterval}

theorem groupOf_sliceKey (found : sliceKey active = some key) : GroupOf (· ∈ active) key := by
  cases active with
  | nil => cases found
  | cons first rest =>
    simp only [sliceKey, all_eq_true, decide_eq_true_eq] at found
    split at found
    · -- All intervals have the key of the first one.
      rename_i agree
      obtain rfl := Option.some.inj found
      have keys : ∀ interval ∈ first :: rest, interval.key = first.key := by
        intro interval member
        obtain ⟨workspace, attribution⟩ := agree interval member
        rw [SanitizedAttentionInterval.key, workspace, attribution]
        rfl
      refine ⟨?_, ?_, ?_, ?_⟩
      · exact fun interval member _ => (keys interval member).symm
      · intro one two isOne isTwo differs
        exact absurd ((keys one isOne).trans (keys two isTwo).symm) differs
      · exact fun interval member _ => (agree interval member).1.symm
      intro one two isOne isTwo differs
      exact absurd ((agree one isOne).1.trans (agree two isTwo).1.symm) differs
    rename_i disagree
    obtain rfl := Option.some.inj found
    refine ⟨?_, fun _ _ _ _ _ => rfl, ?_, ?_⟩
    · intro interval member agree
      refine absurd ?_ disagree
      intro one isOne
      have same := (agree one isOne).trans (agree first mem_cons_self).symm
      exact ⟨congrArg GroupKey.workspaceId same, congrArg GroupKey.attribution same⟩
    · intro interval member share
      have all : ∀ one ∈ first :: rest, one.workspaceId = first.workspaceId :=
        fun one isOne => (share one isOne).trans (share first mem_cons_self).symm
      dsimp only
      rw [if_pos all, share first mem_cons_self]
    intro one two isOne isTwo differs
    refine if_neg ?_
    intro all
    exact differs ((all one isOne).trans (all two isTwo).symm)

theorem exists_sliceKey (member : interval ∈ active) : ∃ key, sliceKey active = some key := by
  cases active with
  | nil => cases member
  | cons first rest =>
    simp only [sliceKey]
    split
    · exact ⟨_, rfl⟩
    exact ⟨_, rfl⟩

theorem sliceKey_eq_some_iff :
    sliceKey active = some key ↔ (∃ interval, interval ∈ active) ∧ GroupOf (· ∈ active) key := by
  constructor
  · intro found
    refine ⟨?_, groupOf_sliceKey found⟩
    cases active with
    | nil => cases found
    | cons first rest => exact ⟨first, mem_cons_self⟩
  rintro ⟨⟨interval, member⟩, group⟩
  obtain ⟨other, found⟩ := exists_sliceKey member
  rw [found, group.unique (groupOf_sliceKey found) member]

/-- The group of the intervals that cover an instant. -/
def GroupAt (intervals : List SanitizedAttentionInterval) (t : Int64) (key : GroupKey) : Prop :=
  (∃ interval ∈ intervals, interval.Covers t) ∧
    GroupOf (fun interval => interval ∈ intervals ∧ interval.Covers t) key

theorem normalized_canonical : Canonical (normalized intervals) :=
  merge_canonical (label_inOrder boundaries_sorted _)

theorem labels_normalized : Labels (normalized intervals) t key ↔ GroupAt intervals t key := by
  rw [normalized, labels_merge (label_inOrder boundaries_sorted _)]
  have bounds : ∀ interval ∈ intervals,
      interval.startedAtUnixMs ∈ boundaries (intervals.flatMap fun interval =>
        [interval.startedAtUnixMs, interval.endedAtUnixMs]) ∧
      interval.endedAtUnixMs ∈ boundaries (intervals.flatMap fun interval =>
        [interval.startedAtUnixMs, interval.endedAtUnixMs]) := by
    intro interval member
    simp only [mem_boundaries, mem_flatMap]
    exact ⟨⟨interval, member, mem_cons_self⟩, interval, member, mem_cons_of_mem _ mem_cons_self⟩
  have activeIn : ∀ {start stop : Int64},
      (start, stop) ∈ windows (boundaries (intervals.flatMap fun interval =>
        [interval.startedAtUnixMs, interval.endedAtUnixMs])) → start ≤ t → t < stop →
      ∀ interval, interval ∈ active intervals start stop ↔
        interval ∈ intervals ∧ interval.Covers t := by
    intro start stop window reached before interval
    rw [active, mem_filter]
    refine and_congr_right fun member => ?_
    rw [SanitizedAttentionInterval.Covers,
      covers_iff_of_window boundaries_sorted window (bounds interval member).1
        (bounds interval member).2 reached before]
    simp
  constructor
  · rintro ⟨slice, member, ⟨reached, before⟩, rfl⟩
    obtain ⟨window, found⟩ := mem_label.1 member
    have same := activeIn window reached before
    obtain ⟨⟨interval, isActive⟩, group⟩ := sliceKey_eq_some_iff.1 found
    exact ⟨⟨interval, ((same interval).1 isActive).1, ((same interval).1 isActive).2⟩,
      group.congr same⟩
  rintro ⟨⟨interval, member, reached, before⟩, group⟩
  obtain ⟨⟨start, stop⟩, window, inside, outside⟩ :=
    exists_window boundaries_sorted (bounds interval member).1 (bounds interval member).2
      reached before
  have same := activeIn window inside outside
  refine ⟨{ key := key, start := start, stop := stop }, mem_label.2 ⟨window, ?_⟩,
    ⟨inside, outside⟩, rfl⟩
  exact sliceKey_eq_some_iff.2 ⟨⟨interval, (same interval).2 ⟨member, reached, before⟩⟩,
      group.congr fun other => (same other).symm⟩

theorem normalized_eq (same : ∀ t key, GroupAt intervals t key ↔ GroupAt others t key) :
    normalized intervals = normalized others := by
  apply canonical_ext normalized_canonical normalized_canonical
  intro t key
  rw [labels_normalized, labels_normalized]
  exact same t key

theorem exists_groupAt (member : interval ∈ intervals)
    (covers : interval.Covers t) : ∃ key, GroupAt intervals t key := by
  have isActive : interval ∈ intervals.filter fun interval =>
      interval.startedAtUnixMs ≤ t ∧ t < interval.endedAtUnixMs :=
    mem_filter.2 ⟨member, decide_eq_true covers⟩
  obtain ⟨key, found⟩ := exists_sliceKey isActive
  refine ⟨key, ⟨interval, member, covers⟩, (groupOf_sliceKey found).congr ?_⟩
  intro other
  simp [SanitizedAttentionInterval.Covers]

def draftOf (intervals : List SanitizedAttentionInterval) : TimeReviewDraft :=
  draft ((grouped (normalized intervals)).toList.map fun entry => group entry.1 entry.2)

variable {draft : TimeReviewDraft}

theorem build_eq_ok_iff : buildTimeReviewDraft intervals = .ok draft ↔
      intervals.length ≤ maxSanitizedAttentionIntervals ∧
        (∀ interval ∈ intervals, validInterval interval = true) ∧
          (∀ interval ∈ intervals, validAttribution interval.attribution = true) ∧
            draftOf intervals = draft := by
  simp only [buildTimeReviewDraft, draftOf]
  split
  · rename_i many
    simp [Nat.not_le.2 many]
  rename_i few
  split
  · rename_i invalid
    simp only [any_eq_true, Bool.not_eq_true'] at invalid
    obtain ⟨interval, member, fails⟩ := invalid
    simp only [reduceCtorEq, false_iff]
    rintro ⟨_, valid, _⟩
    rw [valid interval member] at fails
    cases fails
  rename_i valid
  split
  · rename_i invalid
    simp only [any_eq_true, Bool.not_eq_true'] at invalid
    obtain ⟨interval, member, fails⟩ := invalid
    simp only [reduceCtorEq, false_iff]
    rintro ⟨_, _, valid, _⟩
    rw [valid interval member] at fails
    cases fails
  rename_i validAttributions
  have allValid : ∀ interval ∈ intervals, validInterval interval = true := by
    simpa using valid
  have allAttributions :
      ∀ interval ∈ intervals, validAttribution interval.attribution = true := by
    simpa using validAttributions
  rw [Except.ok.injEq]
  exact ⟨fun same => ⟨Nat.not_lt.1 few, allValid, allAttributions, same⟩,
    fun ⟨_, _, _, same⟩ => same⟩

theorem slices_perm : (draftOf intervals).slices.Perm (normalized intervals) := by
  have rows : ((grouped (normalized intervals)).toList.flatMap fun entry =>
      entry.2.map (slice entry.1)).Perm (normalized intervals) := by
    refine Grouping.rows_collect 
      (fun key (segments : List TimeReviewSegment) => segments.map (slice key)) ?_ ?_ _
    · exact fun _ => rfl
    intro segments item
    rw [map_append]
    exact perm_append_singleton _ _
  refine .trans (.of_eq ?_) rows
  simp only [TimeReviewDraft.slices, draftOf, draft, flatMap_map]
  rfl

theorem slices_apart : Apart (draftOf intervals).slices :=
  normalized_canonical.toInOrder.apart.perm slices_perm.symm

theorem sublist_of_group {group : TimeReviewGroup}
    (member : group ∈ draft.groups) : group.slices.Sublist draft.slices := by
  rw [TimeReviewDraft.slices, List.flatMap]
  exact sublist_flatten_of_mem (mem_map.2 ⟨group, member, rfl⟩)

theorem labels_slices : Labels (draftOf intervals).slices t key ↔ GroupAt intervals t key := by
  rw [← labels_normalized]
  simp only [Labels, slices_perm.mem_iff]

def length (start stop : Int64) : ℤ :=
  stop.toInt - start.toInt

/-- A reported number of milliseconds is exact: it counts the instants, and adding up did not leave the
range of the type anywhere. -/
structure Exact (reported : Int64) (slices : List (Slice Int64 GroupKey)) : Prop where
  counted : reported.toInt = (covered slices).ncard
  inRange : ∀ count, extent length (slices.take count) < 2 ^ 63

variable {slices : List (Slice Int64 GroupKey)}

theorem extent_lt (apart : Apart slices) (nonneg : ∀ slice ∈ slices, 0 ≤ slice.start) :
    extent length slices < 2 ^ 63 := by
  obtain ⟨_, count⟩ := ncard_covered counts_int64 apart
  have whole := counts_int64 0 Int64.maxValue (by decide)
  have inside : covered slices ⊆ Set.Ico 0 Int64.maxValue := by
    rintro t ⟨slice, member, reached, before⟩
    refine ⟨(nonneg slice member).trans reached, before.trans_le ?_⟩
    exact Int64.le_maxValue _
  have most := Set.ncard_le_ncard inside whole.1
  have limit : ((Set.Ico 0 Int64.maxValue).ncard : ℤ) = 2 ^ 63 - 1 := by
    rw [whole.2]
    rfl
  change extent (fun start stop : Int64 => stop.toInt - start.toInt) slices < 2 ^ 63
  omega

theorem extent_append {first second : List (Slice Int64 GroupKey)} :
    extent length (first ++ second) = extent length first + extent length second := by
  simp [extent]

theorem length_nonneg {slice : Slice Int64 GroupKey} (nonempty : slice.start < slice.stop) :
    0 ≤ length slice.start slice.stop := by
  have less := toInt_strictMono.2 nonempty
  simp only [length]
  omega

theorem extent_nonneg (apart : Apart slices) : 0 ≤ extent length slices := by
  apply sum_nonneg
  intro n member
  obtain ⟨slice, inside, rfl⟩ := mem_map.1 member
  exact length_nonneg (apart.nonempty slice inside)

theorem exact_total {parts : List (Int64 × List (Slice Int64 GroupKey))}
    (apart : Apart (parts.flatMap Prod.snd))
    (nonneg : ∀ slice ∈ parts.flatMap Prod.snd, 0 ≤ slice.start)
    (each : ∀ part ∈ parts, part.1.toInt = extent length part.2) :
    Exact (MachineInt.total (parts.map Prod.fst)) (parts.flatMap Prod.snd) := by
  have sum : ((parts.map Prod.fst).map Int64.toInt).sum =
      extent length (parts.flatMap Prod.snd) := by
    clear apart nonneg
    induction parts with
    | nil => simp [extent]
    | cons part parts ih =>
      rw [flatMap_cons, extent_append, ← each part mem_cons_self,
        ← ih fun other member => each other (mem_cons_of_mem _ member)]
      simp
  have inRange : ∀ count, extent length ((parts.flatMap Prod.snd).take count) < 2 ^ 63 := by
    intro count
    apply extent_lt (apart.sublist (take_sublist _ _))
    exact fun slice member => nonneg slice (mem_of_mem_take member)
  refine ⟨?_, inRange⟩
  have partsNonneg : ∀ n ∈ parts.map Prod.fst, 0 ≤ n.toInt := by
    intro n member
    obtain ⟨part, inside, rfl⟩ := mem_map.1 member
    rw [each part inside]
    apply extent_nonneg
    apply apart.sublist
    rw [List.flatMap]
    exact sublist_flatten_of_mem (mem_map.2 ⟨part, inside, rfl⟩)
  have fits : ((parts.map Prod.fst).map Int64.toInt).sum < 2 ^ 63 := by
    rw [sum]
    exact extent_lt apart nonneg
  rw [toInt_total partsNonneg fits, sum]
  exact (ncard_covered counts_int64 apart).2.symm

theorem toInt_length {segment : TimeReviewSegment} (nonneg : 0 ≤ segment.startedAtUnixMs)
    (nonempty : segment.startedAtUnixMs < segment.endedAtUnixMs) :
    (segment.endedAtUnixMs - segment.startedAtUnixMs).toInt =
      length segment.startedAtUnixMs segment.endedAtUnixMs :=
  toInt_sub_of_le (by simpa using toInt_le.2 nonneg) (toInt_strictMono.2 nonempty).le

theorem exact_group {key : GroupKey} {segments : List TimeReviewSegment}
    (apart : Apart (segments.map (slice key)))
    (nonneg : ∀ one ∈ segments.map (slice key), 0 ≤ one.start) :
    Exact (group key segments).attentionMs (segments.map (slice key)) := by
  -- Each segment is a part of its own.
  have parts : (segments.map fun segment =>
      (segment.endedAtUnixMs - segment.startedAtUnixMs, [slice key segment])).flatMap Prod.snd =
        segments.map (slice key) := by
    simp only [flatMap_map]
    exact (map_eq_flatMap).symm
  have numbers : (segments.map fun segment =>
      (segment.endedAtUnixMs - segment.startedAtUnixMs, [slice key segment])).map Prod.fst =
        segments.map fun segment => segment.endedAtUnixMs - segment.startedAtUnixMs := by
    simp
  have exact := exact_total (parts.symm ▸ apart) (parts.symm ▸ nonneg) (by
    intro part member
    obtain ⟨segment, inside, rfl⟩ := mem_map.1 member
    have isSlice : slice key segment ∈ segments.map (slice key) :=
      mem_map.2 ⟨segment, inside, rfl⟩
    rw [toInt_length (nonneg _ isSlice) (apart.nonempty _ isSlice)]
    simp [extent, slice])
  rwa [parts, numbers] at exact

/-- The draft splits the recorded time into segments, each in its group, and reports their lengths. -/
structure DraftPartitions (intervals : List SanitizedAttentionInterval)
    (draft : TimeReviewDraft) : Prop where
  /-- No instant is in two segments. -/
  disjoint : draft.slices.Pairwise fun first second => ∀ t, first.Covers t → ¬ second.Covers t
  covered : ∀ t, (∃ group ∈ draft.groups, ∃ segment ∈ group.segments, segment.Covers t) ↔
    ∃ interval ∈ intervals, interval.Covers t
  grouped : ∀ group ∈ draft.groups, ∀ segment ∈ group.segments, ∀ t, segment.Covers t →
    GroupAt intervals t group.key
  distinct : (draft.groups.map TimeReviewGroup.key).Nodup
  separate : ∀ group ∈ draft.groups, group.segments.Pairwise fun first second =>
    first.endedAtUnixMs ≠ second.startedAtUnixMs ∧ second.endedAtUnixMs ≠ first.startedAtUnixMs
  attention : ∀ group ∈ draft.groups, Exact group.attentionMs group.slices
  total : Exact draft.totalAttentionMs draft.slices
  unassigned : Exact draft.unassignedAttentionMs
    ((draft.groups.filter fun group => group.attribution = .unassigned).flatMap
      TimeReviewGroup.slices)

theorem mem_slices {one : Slice Int64 GroupKey} :
    one ∈ draft.slices ↔ ∃ group ∈ draft.groups, ∃ segment ∈ group.segments,
      slice group.key segment = one := by
  simp only [TimeReviewDraft.slices, TimeReviewGroup.slices, mem_flatMap, mem_map]

theorem slices_nonneg (valid : ∀ interval ∈ intervals, validInterval interval = true) :
    ∀ one ∈ (draftOf intervals).slices, 0 ≤ one.start := by
  intro one member
  have first : Labels (draftOf intervals).slices one.start one.key :=
    ⟨one, member, ⟨le_rfl, slices_apart.nonempty one member⟩, rfl⟩
  obtain ⟨⟨interval, inside, reached, _⟩, _⟩ := labels_slices.1 first
  have isValid := valid interval inside
  simp only [validInterval, Bool.and_eq_true, decide_eq_true_eq] at isValid
  exact isValid.1.2.trans reached

theorem draftOf_partitions (valid : ∀ interval ∈ intervals, validInterval interval = true) :
    DraftPartitions intervals (draftOf intervals) := by
  have nonneg := slices_nonneg valid
  have exactOf : ∀ group ∈ (draftOf intervals).groups, Exact group.attentionMs group.slices := by
    intro group member
    have apart := slices_apart.sublist (sublist_of_group member)
    have groupNonneg : ∀ one ∈ group.slices, 0 ≤ one.start :=
      fun one inside => nonneg one ((sublist_of_group member).subset inside)
    obtain ⟨⟨key, segments⟩, _, rfl⟩ := mem_map.1 member
    exact exact_group apart groupNonneg
  have exactGroups : ∀ groups : List TimeReviewGroup, groups.Sublist (draftOf intervals).groups →
      Exact (MachineInt.total (groups.map TimeReviewGroup.attentionMs))
        (groups.flatMap TimeReviewGroup.slices) := by
    intro groups part
    have slices := part.flatMap TimeReviewGroup.slices
    have exact := @exact_total (groups.map fun group => (group.attentionMs, group.slices))
      (by simpa [flatMap_map] using slices_apart.sublist slices)
      (by
        intro one member
        rw [flatMap_map] at member
        exact nonneg one (slices.subset member))
      (by
        intro part member
        obtain ⟨group, inside, rfl⟩ := mem_map.1 member
        have isMember := part.subset inside
        rw [(exactOf group isMember).counted]
        exact (ncard_covered counts_int64 (slices_apart.sublist (sublist_of_group isMember))).2)
    simpa [flatMap_map, Function.comp_def] using exact
  constructor
  · exact slices_apart.disjoint
  · intro t
    constructor
    · rintro ⟨group, member, segment, inside, covers⟩
      have labelled : Labels (draftOf intervals).slices t group.key :=
        ⟨_, mem_slices.2 ⟨group, member, segment, inside, rfl⟩, covers, rfl⟩
      exact (labels_slices.1 labelled).1
    rintro ⟨interval, member, covers⟩
    obtain ⟨key, isGroup⟩ := exists_groupAt member covers
    obtain ⟨one, inside, isCovered, _⟩ := labels_slices.2 isGroup
    obtain ⟨group, isMember, segment, inGroup, rfl⟩ := mem_slices.1 inside
    exact ⟨group, isMember, segment, inGroup, isCovered⟩
  · intro group member segment inside t covers
    exact labels_slices.1 ⟨_, mem_slices.2 ⟨group, member, segment, inside, rfl⟩, covers, rfl⟩
  · have keys : (draftOf intervals).groups.map TimeReviewGroup.key =
        (grouped (normalized intervals)).toList.map Prod.fst := by
      simp only [draftOf, draft, map_map]
      rfl
    rw [keys]
    exact MapRows.nodup_keys _
  · intro group member
    have apart : (draftOf intervals).slices.Pairwise fun first second => first.key = second.key →
        first.stop ≠ second.start ∧ second.stop ≠ first.start := by
      have canonical : Canonical (normalized intervals) := normalized_canonical
      refine (slices_perm.pairwise_iff ?_).2 ?_
      · exact fun separate same => (separate same.symm).symm
      refine (canonical.separate.and canonical.ordered).imp_of_mem ?_
      intro first second isFirst isSecond ⟨separate, before⟩ same
      refine ⟨separate same, ?_⟩
      have nonemptyFirst := canonical.nonempty first isFirst
      have nonemptySecond := canonical.nonempty second isSecond
      exact ((nonemptyFirst.trans_le before).trans nonemptySecond).ne'
    have inGroup := apart.sublist (sublist_of_group member)
    rw [TimeReviewGroup.slices, pairwise_map] at inGroup
    exact inGroup.imp fun separate => separate rfl
  · exact exactOf
  · exact exactGroups _ (List.Sublist.refl _)
  exact exactGroups _ filter_sublist

/-! ### Other lists of intervals with the same draft -/

theorem groupAt_perm (same : others.Perm intervals) :
    GroupAt others t key ↔ GroupAt intervals t key := by
  simp only [GroupAt, same.mem_iff]

theorem draftOf_perm (same : others.Perm intervals) : draftOf others = draftOf intervals := by
  rw [draftOf, draftOf, normalized_eq fun t key => groupAt_perm same]

def intervalOf (one : Slice Int64 GroupKey) : SanitizedAttentionInterval where
  schemaVersion := sanitizedAttentionSchemaVersion
  startedAtUnixMs := one.start
  endedAtUnixMs := one.stop
  workspaceId := one.key.workspaceId
  attribution := one.key.attribution

/-- The segments of a draft as a list of intervals. -/
def TimeReviewDraft.asIntervals (draft : TimeReviewDraft) : List SanitizedAttentionInterval :=
  draft.slices.map intervalOf

theorem groupOf_of_agree (agree : ∀ interval, together interval → interval.key = key) :
    GroupOf together key where
  agreed := fun first isFirst _ => (agree first isFirst).symm
  disputed := fun first second isFirst isSecond differs =>
    absurd ((agree first isFirst).trans (agree second isSecond).symm) differs
  shared := fun first isFirst _ => congrArg GroupKey.workspaceId (agree first isFirst).symm
  unshared := fun first second isFirst isSecond differs =>
    absurd (congrArg GroupKey.workspaceId ((agree first isFirst).trans (agree second isSecond).symm))
      differs

theorem GroupAt.unique (first : GroupAt intervals t key) (second : GroupAt intervals t other) :
    key = other := by
  obtain ⟨⟨interval, member, covers⟩, group⟩ := first
  exact group.unique second.2 ⟨member, covers⟩

theorem groupAt_asIntervals :
    GroupAt (draftOf intervals).asIntervals t key ↔ GroupAt intervals t key := by
  have covering : ∀ interval, interval ∈ (draftOf intervals).asIntervals → interval.Covers t →
      GroupAt intervals t interval.key := by
    intro interval member covers
    obtain ⟨one, inside, rfl⟩ := mem_map.1 member
    exact labels_slices.1 ⟨one, inside, covers, rfl⟩
  constructor
  · rintro ⟨⟨interval, member, covers⟩, group⟩
    have isGroup := covering interval member covers
    have agree : ∀ other, other ∈ (draftOf intervals).asIntervals ∧ other.Covers t →
        other.key = interval.key :=
      fun other ⟨inside, isCovered⟩ => (covering other inside isCovered).unique isGroup
    rwa [group.agreed interval ⟨member, covers⟩ agree]
  intro isGroup
  obtain ⟨one, inside, covers, _⟩ := labels_slices.2 isGroup
  refine ⟨⟨intervalOf one, mem_map.2 ⟨one, inside, rfl⟩, covers⟩, groupOf_of_agree ?_⟩
  exact fun other ⟨member, isCovered⟩ => (covering other member isCovered).unique isGroup

theorem draftOf_intervals : draftOf (draftOf intervals).asIntervals = draftOf intervals := by
  rw [draftOf, normalized_eq fun t key => groupAt_asIntervals, ← draftOf]

theorem validAttribution_of_groupAt
    (valid : ∀ interval ∈ intervals, validAttribution interval.attribution = true)
    (isGroup : GroupAt intervals t key) : validAttribution key.attribution = true := by
  obtain ⟨⟨interval, member, covers⟩, group⟩ := isGroup
  by_cases agree : ∀ other, other ∈ intervals ∧ other.Covers t → other.key = interval.key
  · rw [group.agreed interval ⟨member, covers⟩ agree]
    exact valid interval member
  push Not at agree
  obtain ⟨rival, isActive, differs⟩ := agree
  rw [group.disputed rival interval isActive ⟨member, covers⟩ differs]
  rfl

theorem intervals_valid (valid : ∀ interval ∈ intervals, validInterval interval = true)
    (validAttributions : ∀ interval ∈ intervals, validAttribution interval.attribution = true) :
    ∀ interval ∈ (draftOf intervals).asIntervals,
      validInterval interval = true ∧ validAttribution interval.attribution = true := by
  intro interval member
  obtain ⟨one, inside, rfl⟩ := mem_map.1 member
  have nonempty := slices_apart.nonempty one inside
  constructor
  · simp only [validInterval, Bool.and_eq_true, decide_eq_true_eq]
    exact ⟨⟨rfl, slices_nonneg valid one inside⟩, nonempty⟩
  have labelled : Labels (draftOf intervals).slices one.start one.key :=
    ⟨one, inside, ⟨le_rfl, nonempty⟩, rfl⟩
  exact validAttribution_of_groupAt validAttributions (labels_slices.1 labelled)

/-- A list of valid intervals that is not too long has a draft, which partitions its time and does not
depend on its order; the segments of the draft have the same draft, unless there are too many. -/
theorem build_partitions (intervals : List SanitizedAttentionInterval)
    (few : intervals.length ≤ maxSanitizedAttentionIntervals)
    (valid : ∀ interval ∈ intervals, validInterval interval = true)
    (validAttributions : ∀ interval ∈ intervals, validAttribution interval.attribution = true) :
    ∃ draft, buildTimeReviewDraft intervals = .ok draft ∧ DraftPartitions intervals draft ∧
      (∀ others : List SanitizedAttentionInterval, others.Perm intervals →
        buildTimeReviewDraft others = .ok draft) ∧
      ∀ further : List SanitizedAttentionInterval, further.Perm draft.asIntervals →
        buildTimeReviewDraft further =
          if further.length ≤ maxSanitizedAttentionIntervals then .ok draft
          else .error .tooManyIntervals := by
  refine ⟨draftOf intervals, build_eq_ok_iff.2 ⟨few, valid, validAttributions, rfl⟩,
    draftOf_partitions valid, ?_, ?_⟩
  · intro others same
    refine build_eq_ok_iff.2 ⟨same.length_eq ▸ few, ?_, ?_, draftOf_perm same⟩
    · exact fun interval member => valid interval (same.mem_iff.1 member)
    · exact fun interval member => validAttributions interval (same.mem_iff.1 member)
  · intro further same
    have furtherValid : ∀ interval ∈ further,
        validInterval interval = true ∧ validAttribution interval.attribution = true :=
      fun interval member =>
        intervals_valid valid validAttributions interval (same.mem_iff.1 member)
    split
    · rename_i fewFurther
      refine build_eq_ok_iff.2 ⟨fewFurther, fun interval member => (furtherValid interval member).1,
        fun interval member => (furtherValid interval member).2, ?_⟩
      rw [draftOf_perm same, draftOf_intervals]
    · rename_i many
      rw [buildTimeReviewDraft, if_pos (Nat.not_le.1 many)]

/-- Two issues of a workspace and work of another one, which overlap. -/
def sampleIntervals : List SanitizedAttentionInterval :=
  [{ schemaVersion := 1, startedAtUnixMs := 1000, endedAtUnixMs := 5000, workspaceId := some 7
     attribution := .existingJira "APP-1" },
   { schemaVersion := 1, startedAtUnixMs := 3000, endedAtUnixMs := 8000, workspaceId := some 7
     attribution := .existingJira "APP-2" },
   { schemaVersion := 1, startedAtUnixMs := 4000, endedAtUnixMs := 9000, workspaceId := some 8
     attribution := .unassigned }]

theorem build_partitions_sample : ∃ draft, buildTimeReviewDraft sampleIntervals = .ok draft ∧
      draft.asIntervals.length = 4 ∧ DraftPartitions sampleIntervals draft ∧
      buildTimeReviewDraft sampleIntervals.reverse = .ok draft ∧
      buildTimeReviewDraft draft.asIntervals.reverse = .ok draft := by
  obtain ⟨draft, built, partitions, ordered, again⟩ :=
    build_partitions sampleIntervals (by decide) (by decide) (by decide +kernel)
  have segments : (buildTimeReviewDraft sampleIntervals).toOption.map
      (fun draft => draft.asIntervals.length) = some 4 := by decide +kernel
  rw [built] at segments
  have four : draft.asIntervals.length = 4 := Option.some.inj segments
  have few : draft.asIntervals.reverse.length ≤ maxSanitizedAttentionIntervals := by
    rw [length_reverse, four]
    decide
  refine ⟨draft, built, four, partitions, ordered _ (reverse_perm _), ?_⟩
  rw [again _ (reverse_perm _), if_pos few]

def link (index : ℕ) : SanitizedAttentionInterval where
  schemaVersion := sanitizedAttentionSchemaVersion
  startedAtUnixMs := Int64.ofNat (2 * index)
  endedAtUnixMs := Int64.ofNat (2 * index + 3)
  workspaceId := some (Fin.ofNat _ index)
  attribution := .unassigned

def chain : List SanitizedAttentionInterval :=
  (List.range maxSanitizedAttentionIntervals).map link

theorem toInt_ofNat_of_lt {n : ℕ} (small : n < 2 ^ 63) : (Int64.ofNat n).toInt = n :=
  Int64.toInt_ofNat_of_lt small

theorem link_covers_iff {index n : ℕ} (smallIndex : index < 4096) (small : n < 2 ^ 63) :
    (link index).Covers (Int64.ofNat n) ↔ 2 * index ≤ n ∧ n < 2 * index + 3 := by
  rw [SanitizedAttentionInterval.Covers, ← toInt_le, ← toInt_strictMono, link,
    toInt_ofNat_of_lt (by omega), toInt_ofNat_of_lt small, toInt_ofNat_of_lt (by omega)]
  omega

theorem chain_middle {index : ℕ} (small : index < 4096) :
    GroupAt chain (Int64.ofNat (2 * index + 1)) (link index).key := by
  refine ⟨⟨link index, mem_map.2 ⟨index, mem_range.2 small, rfl⟩, ?_⟩, groupOf_of_agree ?_⟩
  · rw [link_covers_iff small (by omega)]
    omega
  rintro other ⟨member, covers⟩
  obtain ⟨place, inRange, rfl⟩ := mem_map.1 member
  rw [link_covers_iff (mem_range.1 inRange) (by omega)] at covers
  obtain rfl : place = index := by omega
  rfl

theorem chain_overlap : ∃ key, GroupAt chain 2 key ∧ key.workspaceId = none := by
  have first : link 0 ∈ chain := mem_map.2 ⟨0, mem_range.2 (by decide), rfl⟩
  have second : link 1 ∈ chain := mem_map.2 ⟨1, mem_range.2 (by decide), rfl⟩
  have coversFirst : (link 0).Covers 2 := ⟨by decide, by decide⟩
  have coversSecond : (link 1).Covers 2 := ⟨by decide, by decide⟩
  obtain ⟨key, group⟩ := exists_groupAt first coversFirst
  exact ⟨key, group, group.2.unshared (link 0) (link 1) ⟨first, coversFirst⟩
    ⟨second, coversSecond⟩ (by decide)⟩

theorem chain_segments : maxSanitizedAttentionIntervals < (draftOf chain).asIntervals.length := by
  rw [TimeReviewDraft.asIntervals, length_map]
  -- Every workspace and the open one has a segment.
  have workspaces : (none :: (List.range 4096).map fun index => some (Fin.ofNat _ index : Uuid)) ⊆
      (draftOf chain).slices.map fun one => one.key.workspaceId := by
    intro workspace member
    have found : ∃ t key, GroupAt chain t key ∧ key.workspaceId = workspace := by
      rcases mem_cons.1 member with rfl | isLink
      · obtain ⟨key, group, isOpen⟩ := chain_overlap
        exact ⟨2, key, group, isOpen⟩
      obtain ⟨index, inRange, rfl⟩ := mem_map.1 isLink
      exact ⟨_, _, chain_middle (mem_range.1 inRange), rfl⟩
    obtain ⟨t, key, group, rfl⟩ := found
    obtain ⟨one, inside, _, rfl⟩ := labels_slices.2 group
    exact mem_map.2 ⟨one, inside, rfl⟩
  have distinct :
      (none :: (List.range 4096).map fun index => some (Fin.ofNat _ index : Uuid)).Nodup := by
    refine nodup_cons.2 ⟨by simp, ?_⟩
    refine List.Nodup.map_on ?_ nodup_range
    intro first isFirst second isSecond same
    have values := congrArg Fin.val (Option.some.inj same)
    have firstSmall := mem_range.1 isFirst
    have secondSmall := mem_range.1 isSecond
    simp only [Fin.ofNat] at values
    rw [Nat.mod_eq_of_lt (by omega), Nat.mod_eq_of_lt (by omega)] at values
    exact values
  have most := (distinct.subperm workspaces).length_le
  simp only [length_cons, length_map, length_range] at most
  exact most

/-- A list of valid intervals whose segments are too many to be given back. -/
theorem build_again_counterexample : ∃ intervals draft, buildTimeReviewDraft intervals = .ok draft ∧
      buildTimeReviewDraft draft.asIntervals ≠ .ok draft := by
  have built : buildTimeReviewDraft chain = .ok (draftOf chain) := by
    refine build_eq_ok_iff.2 ⟨by simp [chain], ?_, ?_, rfl⟩
    · intro interval member
      obtain ⟨index, inRange, rfl⟩ := mem_map.1 member
      have small := mem_range.1 inRange
      rw [show maxSanitizedAttentionIntervals = 4096 from rfl] at small
      simp only [validInterval, Bool.and_eq_true, decide_eq_true_eq]
      rw [← MachineInt.toInt_le, ← MachineInt.toInt_strictMono, link, toInt_ofNat_of_lt (by omega),
        toInt_ofNat_of_lt (by omega)]
      refine ⟨⟨rfl, by simp⟩, by omega⟩
    · intro interval member
      obtain ⟨index, _, rfl⟩ := mem_map.1 member
      rfl
  refine ⟨chain, draftOf chain, built, ?_⟩
  intro again
  exact absurd (build_eq_ok_iff.1 again).1 (Nat.not_le.2 chain_segments)

end Wts.TimeReview
