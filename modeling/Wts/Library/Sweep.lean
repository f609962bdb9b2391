/-
Module: Wts.Library.Sweep
Purpose: Half-open slices of a line, each with a key.
-/
import Mathlib

namespace Wts.Sweep

open List

variable {T κ : Type} [LinearOrder T]

structure Slice (T κ : Type) where
  key : κ
  start : T
  stop : T

def Slice.Covers (slice : Slice T κ) (t : T) : Prop :=
  slice.start ≤ t ∧ t < slice.stop

/-- A slice of the list gives the point its key. -/
def Labels (slices : List (Slice T κ)) (t : T) (key : κ) : Prop :=
  ∃ slice ∈ slices, slice.Covers t ∧ slice.key = key

/-- No slice is empty, and each ends before the later ones start. -/
structure InOrder (slices : List (Slice T κ)) : Prop where
  nonempty : ∀ slice ∈ slices, slice.start < slice.stop
  ordered : slices.Pairwise fun first second => first.stop ≤ second.start

/-- Slices in order, where touching ones differ in their key. -/
structure Canonical (slices : List (Slice T κ)) : Prop extends InOrder slices where
  separate : slices.Pairwise fun first second => first.key = second.key → first.stop ≠ second.start

variable {slices others : List (Slice T κ)} {slice other : Slice T κ} {t : T} {key : κ}

@[simp] theorem labels_nil : ¬ Labels ([] : List (Slice T κ)) t key := by
  rintro ⟨_, member, _⟩
  cases member

theorem labels_cons :
    Labels (slice :: slices) t key ↔ slice.Covers t ∧ slice.key = key ∨ Labels slices t key := by
  simp only [Labels, mem_cons, exists_eq_or_imp]

theorem InOrder.tail (inOrder : InOrder (slice :: slices)) : InOrder slices where
  nonempty := fun other member => inOrder.nonempty other (mem_cons_of_mem _ member)
  ordered := inOrder.ordered.of_cons

theorem Canonical.tail (canonical : Canonical (slice :: slices)) : Canonical slices where
  toInOrder := canonical.toInOrder.tail
  separate := canonical.separate.of_cons

theorem InOrder.stop_le (inOrder : InOrder (slice :: slices)) (member : other ∈ slices) :
    slice.stop ≤ other.start :=
  (pairwise_cons.1 inOrder.ordered).1 other member

theorem InOrder.labels_before (inOrder : InOrder (slice :: slices)) (before : t < slice.stop) :
    Labels (slice :: slices) t key ↔ slice.start ≤ t ∧ slice.key = key := by
  constructor
  · rintro ⟨found, member, ⟨reached, _⟩, rfl⟩
    rcases mem_cons.1 member with rfl | later
    · exact ⟨reached, rfl⟩
    exact absurd (reached.trans_lt before) (inOrder.stop_le later).not_gt
  rintro ⟨reached, rfl⟩
  exact ⟨slice, mem_cons_self, ⟨reached, before⟩, rfl⟩

theorem labels_after (after : slice.stop ≤ t) :
    Labels (slice :: slices) t key ↔ Labels slices t key := by
  constructor
  · rintro ⟨found, member, ⟨reached, before⟩, rfl⟩
    rcases mem_cons.1 member with rfl | later
    · exact absurd before after.not_gt
    exact ⟨found, later, ⟨reached, before⟩, rfl⟩
  rintro ⟨found, member, covers, same⟩
  exact ⟨found, mem_cons_of_mem _ member, covers, same⟩

theorem Canonical.head_start_le (canonical : Canonical (slice :: slices))
    (otherCanonical : Canonical (other :: others))
    (same : ∀ t key, Labels (slice :: slices) t key ↔ Labels (other :: others) t key) :
    slice.start ≤ other.start := by
  have covered : Labels (other :: others) other.start other.key :=
    ⟨other, mem_cons_self, ⟨le_refl _, otherCanonical.nonempty other mem_cons_self⟩, rfl⟩
  obtain ⟨found, member, ⟨reached, _⟩, _⟩ := (same _ _).2 covered
  rcases mem_cons.1 member with rfl | later
  · exact reached
  have first := canonical.nonempty slice mem_cons_self
  exact (first.le.trans (canonical.toInOrder.stop_le later)).trans reached

theorem Canonical.head_stop_le (canonical : Canonical (slice :: slices))
    (otherCanonical : Canonical (other :: others)) (start : slice.start = other.start)
    (key : slice.key = other.key)
    (same : ∀ t key, Labels (slice :: slices) t key ↔ Labels (other :: others) t key) :
    other.stop ≤ slice.stop := by
  by_contra longer
  rw [not_le] at longer
  have first := canonical.nonempty slice mem_cons_self
  have covered : Labels (other :: others) slice.stop other.key :=
    (otherCanonical.toInOrder.labels_before longer).2 ⟨start ▸ first.le, rfl⟩
  obtain ⟨found, member, ⟨reached, _⟩, sameKey⟩ :=
    (labels_after (le_refl slice.stop)).1 ((same _ _).2 covered)
  -- The slice that goes on at the end of the first one touches it and has its key.
  have touches : slice.stop = found.start :=
    le_antisymm (canonical.toInOrder.stop_le member) reached
  exact (pairwise_cons.1 canonical.separate).1 found member (key.trans sameKey.symm) touches

theorem canonical_ext (canonical : Canonical slices) (otherCanonical : Canonical others)
    (same : ∀ t key, Labels slices t key ↔ Labels others t key) : slices = others := by
  induction slices generalizing others with
  | nil =>
    cases others with
    | nil => rfl
    | cons other others =>
      have covered : Labels (other :: others) other.start other.key :=
        ⟨other, mem_cons_self, ⟨le_refl _, otherCanonical.nonempty other mem_cons_self⟩, rfl⟩
      obtain ⟨_, member, _⟩ := (same _ _).2 covered
      cases member
  | cons slice slices ih =>
    have first := canonical.nonempty slice mem_cons_self
    cases others with
    | nil =>
      have covered : Labels (slice :: slices) slice.start slice.key :=
        ⟨slice, mem_cons_self, ⟨le_refl _, first⟩, rfl⟩
      obtain ⟨_, member, _⟩ := (same _ _).1 covered
      cases member
    | cons other others =>
      have otherFirst := otherCanonical.nonempty other mem_cons_self
      have back : ∀ t key, Labels (other :: others) t key ↔ Labels (slice :: slices) t key :=
        fun t key => (same t key).symm
      have start : slice.start = other.start :=
        le_antisymm (canonical.head_start_le otherCanonical same)
          (otherCanonical.head_start_le canonical back)
      have sameKey : slice.key = other.key := by
        have covered : Labels (slice :: slices) slice.start slice.key :=
          ⟨slice, mem_cons_self, ⟨le_refl _, first⟩, rfl⟩
        have before : slice.start < other.stop := start ▸ otherFirst
        exact ((otherCanonical.toInOrder.labels_before before).1 ((same _ _).1 covered)).2.symm
      have stop : slice.stop = other.stop :=
        le_antisymm (otherCanonical.head_stop_le canonical start.symm sameKey.symm back)
          (canonical.head_stop_le otherCanonical start sameKey same)
      have equal : slice = other := by
        cases slice
        cases other
        simp_all
      subst equal
      refine congrArg _ (ih canonical.tail otherCanonical.tail ?_)
      intro t key
      rcases lt_or_ge t slice.stop with before | after
      · constructor
        · rintro ⟨found, member, ⟨reached, _⟩, _⟩
          exact absurd (reached.trans_lt before) (canonical.toInOrder.stop_le member).not_gt
        · rintro ⟨found, member, ⟨reached, _⟩, _⟩
          exact absurd (reached.trans_lt before) (otherCanonical.toInOrder.stop_le member).not_gt
      rw [← labels_after after, ← @labels_after _ _ _ others _ _ _ after]
      exact same t key

/-- A slice is added behind the last one, which it extends if both touch and have one key. The last
slice is the head of the list. -/
def push [DecidableEq κ] (merged : List (Slice T κ)) (slice : Slice T κ) : List (Slice T κ) :=
  match merged with
  | [] => [slice]
  | previous :: earlier =>
    if previous.key = slice.key ∧ previous.stop = slice.start then
      { previous with stop := slice.stop } :: earlier
    else
      slice :: previous :: earlier

def merge [DecidableEq κ] (slices : List (Slice T κ)) : List (Slice T κ) :=
  (slices.foldl push []).reverse

section Merge

variable {merged : List (Slice T κ)}

/-- A list of slices with the last one at its head, which ends before what follows. -/
structure Pushed (merged rest : List (Slice T κ)) : Prop where
  canonical : Canonical merged.reverse
  inOrder : InOrder rest
  before : ∀ first ∈ merged, ∀ second ∈ rest, first.stop ≤ second.start

theorem canonical_concat {slices : List (Slice T κ)} (canonical : Canonical slices)
    (nonempty : slice.start < slice.stop) (ordered : ∀ first ∈ slices, first.stop ≤ slice.start)
    (separate : ∀ first ∈ slices, first.key = slice.key → first.stop ≠ slice.start) :
    Canonical (slices ++ [slice]) where
  nonempty := by
    intro other member
    rcases mem_append.1 member with old | new
    · exact canonical.nonempty other old
    rwa [mem_singleton.1 new]
  ordered := by
    refine pairwise_append.2 ⟨canonical.ordered, pairwise_singleton _ _, ?_⟩
    intro first member second isLast
    rw [mem_singleton.1 isLast]
    exact ordered first member
  separate := by
    refine pairwise_append.2 ⟨canonical.separate, pairwise_singleton _ _, ?_⟩
    intro first member second isLast
    rw [mem_singleton.1 isLast]
    exact separate first member

theorem Canonical.of_concat {slices : List (Slice T κ)} (canonical : Canonical (slices ++ [slice])) :
    Canonical slices ∧ slice.start < slice.stop ∧ (∀ first ∈ slices, first.stop ≤ slice.start) ∧
      ∀ first ∈ slices, first.key = slice.key → first.stop ≠ slice.start := by
  obtain ⟨ordered, _, before⟩ := pairwise_append.1 canonical.ordered
  obtain ⟨separate, _, apart⟩ := pairwise_append.1 canonical.separate
  exact ⟨⟨⟨fun other member => canonical.nonempty other (mem_append_left _ member), ordered⟩,
      separate⟩,
    canonical.nonempty slice (mem_append_right _ mem_cons_self),
    fun first member => before first member slice mem_cons_self,
    fun first member => apart first member slice mem_cons_self⟩

theorem labels_reverse : Labels slices.reverse t key ↔ Labels slices t key := by
  simp [Labels]

theorem pushed_nil (inOrder : InOrder slices) : Pushed [] slices where
  canonical :=
    { nonempty := fun _ member => absurd member not_mem_nil
      ordered := List.Pairwise.nil
      separate := List.Pairwise.nil }
  inOrder := inOrder
  before := fun _ member => absurd member not_mem_nil

variable [DecidableEq κ]

theorem push_cons (previous : Slice T κ) (earlier : List (Slice T κ)) :
    push (previous :: earlier) slice =
      if previous.key = slice.key ∧ previous.stop = slice.start then
        { previous with stop := slice.stop } :: earlier
      else
        slice :: previous :: earlier :=
  rfl

variable {rest : List (Slice T κ)}

theorem Pushed.step (pushed : Pushed merged (slice :: rest)) : Pushed (push merged slice) rest := by
  have here := pushed.inOrder.nonempty slice mem_cons_self
  have later : ∀ second ∈ rest, slice.stop ≤ second.start :=
    fun second member => pushed.inOrder.stop_le member
  cases merged with
  | nil =>
    refine ⟨?_, pushed.inOrder.tail, ?_⟩
    · exact canonical_concat pushed.canonical here (fun _ member => absurd member not_mem_nil)
        fun _ member => absurd member not_mem_nil
    intro first member
    rw [mem_singleton.1 member]
    exact later
  | cons previous earlier =>
    have canonical := pushed.canonical
    rw [reverse_cons] at canonical
    obtain ⟨old, nonempty, ordered, separate⟩ := canonical.of_concat
    have touching := pushed.before previous mem_cons_self slice mem_cons_self
    rw [push_cons]
    split
    · refine ⟨?_, pushed.inOrder.tail, ?_⟩
      · rw [reverse_cons]
        exact canonical_concat old (nonempty.trans_le (touching.trans here.le)) ordered separate
      · intro first member second isLater
        rcases mem_cons.1 member with rfl | isEarlier
        · exact later second isLater
        exact pushed.before first (mem_cons_of_mem _ isEarlier) second (mem_cons_of_mem _ isLater)
    rename_i differs
    refine ⟨?_, pushed.inOrder.tail, ?_⟩
    · rw [reverse_cons]
      apply canonical_concat pushed.canonical here
      · intro first member
        exact pushed.before first (mem_reverse.1 member) slice mem_cons_self
      intro first member sameKey touches
      rcases mem_cons.1 (mem_reverse.1 member) with rfl | isEarlier
      · exact differs ⟨sameKey, touches⟩
      -- Between an earlier slice and the new one lies the previous one.
      have short := (ordered first (mem_reverse.2 isEarlier)).trans_lt nonempty
      exact absurd touches (short.trans_le touching).ne
    intro first member second isLater
    rcases mem_cons.1 member with rfl | isEarlier
    · exact later second isLater
    exact pushed.before first isEarlier second (mem_cons_of_mem _ isLater)

theorem labels_push (pushed : Pushed merged (slice :: rest)) :
    Labels (push merged slice) t key ↔ Labels merged t key ∨ slice.Covers t ∧ slice.key = key := by
  cases merged with
  | nil => simp [push, labels_cons]
  | cons previous earlier =>
    rw [push_cons]
    split
    · rename_i joined
      have canonical := pushed.canonical
      rw [reverse_cons] at canonical
      have nonempty := canonical.of_concat.2.1
      have here := pushed.inOrder.nonempty slice mem_cons_self
      have covers : ({ previous with stop := slice.stop } : Slice T κ).Covers t ↔
          previous.Covers t ∨ slice.Covers t := by
        simp only [Slice.Covers]
        constructor
        · intro ⟨reached, before⟩
          rcases lt_or_ge t previous.stop with inside | after
          · exact .inl ⟨reached, inside⟩
          exact .inr ⟨joined.2 ▸ after, before⟩
        rintro (⟨reached, inside⟩ | ⟨reached, inside⟩)
        · exact ⟨reached, inside.trans_le (joined.2.le.trans here.le)⟩
        exact ⟨nonempty.le.trans (joined.2.le.trans reached), inside⟩
      rw [labels_cons, labels_cons, covers]
      dsimp only
      rw [joined.1, or_and_right, or_assoc, or_assoc, or_comm (a := slice.Covers t ∧ _)]
    rw [labels_cons, or_comm]

theorem foldl_push (pushed : Pushed merged rest) : Canonical (rest.foldl push merged).reverse ∧
      ∀ t key, Labels (rest.foldl push merged) t key ↔ Labels merged t key ∨ Labels rest t key := by
  induction rest generalizing merged with
  | nil =>
    refine ⟨pushed.canonical, ?_⟩
    intro t key
    simp [Labels]
  | cons slice rest ih =>
    obtain ⟨canonical, labels⟩ := ih pushed.step
    refine ⟨canonical, ?_⟩
    intro t key
    rw [foldl_cons, labels, labels_push pushed, labels_cons, or_assoc]

theorem merge_canonical (inOrder : InOrder slices) : Canonical (merge slices) :=
  (foldl_push (pushed_nil inOrder)).1

theorem labels_merge (inOrder : InOrder slices) : Labels (merge slices) t key ↔ Labels slices t key := by
  rw [merge, labels_reverse, (foldl_push (pushed_nil inOrder)).2]
  simp [Labels]

end Merge

/-! ### Boundaries -/

/-- The distinct points in order. -/
def boundaries (points : List T) : List T :=
  points.dedup.insertionSort (· ≤ ·)

/-- `slice::windows(2)`. -/
def windows {α : Type} : List α → List (α × α)
  | first :: second :: rest => (first, second) :: windows (second :: rest)
  | _ => []

variable {points : List T}

@[simp] theorem mem_boundaries : t ∈ boundaries points ↔ t ∈ points := by
  rw [boundaries, (perm_insertionSort _ _).mem_iff, mem_dedup]

theorem boundaries_sorted : (boundaries points).Pairwise (· < ·) := by
  have sorted : (boundaries points).Pairwise (· ≤ ·) := pairwise_insertionSort (· ≤ ·) _
  have distinct : (boundaries points).Nodup :=
    (perm_insertionSort (· ≤ ·) _).nodup_iff.2 (nodup_dedup _)
  exact (sorted.and distinct).imp fun ⟨le, ne⟩ => lt_of_le_of_ne le ne

variable {sorted : List T} {a b : T}

theorem mem_windows (strict : sorted.Pairwise (· < ·)) (member : (a, b) ∈ windows sorted) :
    a ∈ sorted ∧ b ∈ sorted ∧ a < b ∧ ∀ point ∈ sorted, point ≤ a ∨ b ≤ point := by
  induction sorted with
  | nil => cases member
  | cons first rest ih =>
    cases rest with
    | nil => cases member
    | cons second rest =>
      obtain ⟨least, strictRest⟩ := pairwise_cons.1 strict
      rcases mem_cons.1 member with here | later
      · obtain ⟨rfl, rfl⟩ := Prod.mk.inj here
        refine ⟨mem_cons_self, mem_cons_of_mem _ mem_cons_self, least b mem_cons_self, ?_⟩
        intro point inside
        rcases mem_cons.1 inside with rfl | inside
        · exact .inl le_rfl
        rcases mem_cons.1 inside with rfl | inside
        · exact .inr le_rfl
        exact .inr ((pairwise_cons.1 strictRest).1 point inside).le
      obtain ⟨aMember, bMember, less, gap⟩ := ih strictRest later
      refine ⟨mem_cons_of_mem _ aMember, mem_cons_of_mem _ bMember, less, ?_⟩
      intro point inside
      rcases mem_cons.1 inside with rfl | inside
      · exact .inl (least a aMember).le
      exact gap point inside

theorem windows_ordered (strict : sorted.Pairwise (· < ·)) :
    (windows sorted).Pairwise fun first second => first.2 ≤ second.1 := by
  induction sorted with
  | nil => exact List.Pairwise.nil
  | cons first rest ih =>
    cases rest with
    | nil => exact List.Pairwise.nil
    | cons second rest =>
      obtain ⟨_, strictRest⟩ := pairwise_cons.1 strict
      refine pairwise_cons.2 ⟨?_, ih strictRest⟩
      rintro ⟨a, b⟩ member
      rcases mem_cons.1 (mem_windows strictRest member).1 with rfl | later
      · exact le_rfl
      exact ((pairwise_cons.1 strictRest).1 a later).le

theorem exists_window (strict : sorted.Pairwise (· < ·)) (lower : a ∈ sorted) (upper : b ∈ sorted)
    (reached : a ≤ t) (before : t < b) :
    ∃ window ∈ windows sorted, window.1 ≤ t ∧ t < window.2 := by
  induction sorted generalizing a with
  | nil => cases lower
  | cons first rest ih =>
    obtain ⟨least, strictRest⟩ := pairwise_cons.1 strict
    have start : first ≤ t := by
      rcases mem_cons.1 lower with rfl | later
      · exact reached
      exact (least a later).le.trans reached
    have isLater : b ∈ rest := by
      rcases mem_cons.1 upper with rfl | later
      · exact absurd before start.not_gt
      exact later
    cases rest with
    | nil => cases isLater
    | cons second rest =>
      rcases lt_or_ge t second with inside | after
      · exact ⟨(first, second), mem_cons_self, start, inside⟩
      obtain ⟨window, member, covers⟩ := ih strictRest mem_cons_self isLater after
      exact ⟨window, mem_cons_of_mem _ member, covers⟩

theorem covers_iff_of_window {start stop : T} (strict : sorted.Pairwise (· < ·))
    (member : (a, b) ∈ windows sorted) (isStart : start ∈ sorted) (isStop : stop ∈ sorted)
    (reached : a ≤ t) (before : t < b) : start ≤ t ∧ t < stop ↔ start < b ∧ a < stop := by
  obtain ⟨_, _, _, gap⟩ := mem_windows strict member
  constructor
  · intro ⟨started, notStopped⟩
    exact ⟨started.trans_lt before, reached.trans_lt notStopped⟩
  intro ⟨started, notStopped⟩
  constructor
  · rcases gap start isStart with low | high
    · exact low.trans reached
    · exact absurd started high.not_gt
  rcases gap stop isStop with low | high
  · exact absurd notStopped low.not_gt
  exact before.trans_le high

/-- The slices of the windows that have a key. -/
def label (key : T → T → Option κ) (sorted : List T) : List (Slice T κ) :=
  (windows sorted).filterMap fun window =>
    (key window.1 window.2).map fun key => { key := key, start := window.1, stop := window.2 }

omit [LinearOrder T] in
theorem mem_label {keyOf : T → T → Option κ} : slice ∈ label keyOf sorted ↔
      (slice.start, slice.stop) ∈ windows sorted ∧ keyOf slice.start slice.stop = some slice.key := by
  simp only [label, mem_filterMap, Option.map_eq_some_iff]
  constructor
  · rintro ⟨⟨start, stop⟩, member, key, found, rfl⟩
    exact ⟨member, found⟩
  rintro ⟨member, found⟩
  exact ⟨(slice.start, slice.stop), member, slice.key, found, rfl⟩

theorem label_inOrder (strict : sorted.Pairwise (· < ·)) (keyOf : T → T → Option κ) :
    InOrder (label keyOf sorted) where
  nonempty := fun _ member => (mem_windows strict (mem_label.1 member).1).2.2.1
  ordered := by
    rw [label, pairwise_filterMap]
    apply (windows_ordered strict).imp
    rintro first second before slice isSlice other isOther
    simp only [Option.map_eq_some_iff] at isSlice isOther
    obtain ⟨_, _, rfl⟩ := isSlice
    obtain ⟨_, _, rfl⟩ := isOther
    exact before

section Measure

/-- The points that the slices cover. -/
def covered (slices : List (Slice T κ)) : Set T :=
  { t | ∃ slice ∈ slices, slice.Covers t }

def extent (length : T → T → ℤ) (slices : List (Slice T κ)) : ℤ :=
  (slices.map fun slice => length slice.start slice.stop).sum

theorem mem_covered_iff : t ∈ covered slices ↔ ∃ key, Labels slices t key := by
  constructor
  · rintro ⟨slice, member, covers⟩
    exact ⟨slice.key, slice, member, covers, rfl⟩
  rintro ⟨_, slice, member, covers, _⟩
  exact ⟨slice, member, covers⟩

theorem covered_merge [DecidableEq κ] (inOrder : InOrder slices) :
    covered (merge slices) = covered slices := by
  ext t
  simp only [mem_covered_iff, labels_merge inOrder]

/-- The length of an interval is the number of its points. -/
def Counts (length : T → T → ℤ) : Prop :=
  ∀ start stop, start ≤ stop →
    (Set.Ico start stop).Finite ∧ ((Set.Ico start stop).ncard : ℤ) = length start stop

theorem counts_int : Counts (fun start stop : ℤ => stop - start) := by
  intro start stop ordered
  refine ⟨Set.finite_Ico _ _, ?_⟩
  rw [Set.ncard_eq_toFinset_card', Set.toFinset_Ico, Int.card_Ico]
  exact Int.toNat_of_nonneg (by omega)

/-- No point is in two slices. -/
structure Apart (slices : List (Slice T κ)) : Prop where
  nonempty : ∀ slice ∈ slices, slice.start < slice.stop
  disjoint : slices.Pairwise fun first second => ∀ t, first.Covers t → ¬ second.Covers t

theorem InOrder.apart (inOrder : InOrder slices) : Apart slices where
  nonempty := inOrder.nonempty
  disjoint := inOrder.ordered.imp fun before _ ⟨_, ended⟩ ⟨reached, _⟩ =>
    absurd (before.trans reached) ended.not_ge

theorem Apart.perm (apart : Apart slices) (same : slices.Perm others) : Apart others where
  nonempty := fun slice member => apart.nonempty slice (same.mem_iff.2 member)
  disjoint := (same.pairwise_iff fun {_ _} disjoint t isSecond isFirst =>
    disjoint t isFirst isSecond).1 apart.disjoint

theorem Apart.sublist (apart : Apart slices) (part : others.Sublist slices) : Apart others where
  nonempty := fun slice member => apart.nonempty slice (part.subset member)
  disjoint := apart.disjoint.sublist part

theorem ncard_covered {length : T → T → ℤ} (counts : Counts length) (apart : Apart slices) :
    (covered slices).Finite ∧ ((covered slices).ncard : ℤ) = extent length slices := by
  induction slices with
  | nil =>
    have none : covered ([] : List (Slice T κ)) = ∅ := by
      simp [covered]
    simp [none, extent]
  | cons slice slices ih =>
    obtain ⟨finite, count⟩ := ih (apart.sublist (sublist_cons_self _ _))
    have first : covered (slice :: slices) = Set.Ico slice.start slice.stop ∪ covered slices := by
      ext t
      simp [covered, Slice.Covers]
    have disjoint : Disjoint (Set.Ico slice.start slice.stop) (covered slices) := by
      rw [Set.disjoint_left]
      rintro t inside ⟨other, member, covers⟩
      exact (pairwise_cons.1 apart.disjoint).1 other member t inside covers
    obtain ⟨finiteFirst, length⟩ := counts _ _ (apart.nonempty slice mem_cons_self).le
    refine ⟨?_, ?_⟩
    · rw [first]
      exact finiteFirst.union finite
    rw [first, Set.ncard_union_eq disjoint finiteFirst finite, Nat.cast_add, length, count]
    simp [extent]

end Measure

end Wts.Sweep
