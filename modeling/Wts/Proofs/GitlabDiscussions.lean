/-
Module: Wts.Proofs.GitlabDiscussions
Purpose: The discussions of a merge request as they are read: a list that is not marked as truncated has
  every note of the provider's pages.
Trusted boundary: none
Main exports: 
-/
import Wts.Library.Interrupt
import Wts.Integrations.GitlabDiscussions

namespace Wts.Gitlab

open List Text

/-! ### Every note is in the list -/

/-- A note is in a list of threads: as a comment of the thread of its node. -/
def HasNote (discussions : List GitlabReviewDiscussion) (node : ReviewDiscussionNode)
    (note : ReviewDiscussionNoteNode) : Prop :=
  ∃ thread ∈ discussions, thread.id = node.id ∧
    ∃ comment ∈ thread.comments, validatedComment note = some comment

theorem noteCount_cons (node : ReviewDiscussionNode) (nodes : List ReviewDiscussionNode) :
    noteCount (node :: nodes) =
      (node.notes.filter fun note => !note.system).length + noteCount nodes := by
  rw [noteCount, flatMap_cons, filter_append, length_append]
  rfl

theorem validatedComments_count (count : ℕ) (notes : List ReviewDiscussionNoteNode) :
    (validatedComments count notes).length ≤ (notes.filter fun note => !note.system).length ∧
      ((notes.filter fun note => !note.system).length ≤ (validatedComments count notes).length →
        ∀ note ∈ notes, note.system = false →
          ∃ comment ∈ validatedComments count notes, validatedComment note = some comment) := by
  induction notes generalizing count with
  | nil => exact ⟨le_rfl, fun _ _ none => absurd none not_mem_nil⟩
  | cons note rest ih =>
    rw [validatedComments, filter_cons]
    rcases isSystem : note.system with _ | _
    · have skipped : (validatedComments count rest).length <
          ((rest.filter fun note => !note.system).length + 1) := Nat.lt_succ_of_le (ih count).1
      simp only [Bool.not_false, if_true, Bool.false_eq_true, false_or, length_cons]
      split
      · exact ⟨skipped.le, fun few => absurd few skipped.not_ge⟩
      split
      · exact ⟨skipped.le, fun few => absurd few skipped.not_ge⟩
      rename_i comment valid
      obtain ⟨fewer, complete⟩ := ih (count + 1)
      rw [length_cons]
      refine ⟨Nat.succ_le_succ fewer, ?_⟩
      intro few other member notSystem
      rcases mem_cons.1 member with rfl | later
      · exact ⟨comment, mem_cons_self, valid⟩
      obtain ⟨found, isFound, same⟩ :=
        complete (Nat.le_of_succ_le_succ few) other later notSystem
      exact ⟨found, mem_cons_of_mem _ isFound, same⟩
    simp only [Bool.not_true, Bool.false_eq_true, if_false, true_or, if_true]
    obtain ⟨fewer, complete⟩ := ih count
    refine ⟨fewer, ?_⟩
    intro few other member notSystem
    rcases mem_cons.1 member with rfl | later
    · rw [isSystem] at notSystem
      cases notSystem
    exact complete few other later notSystem

theorem discussionsFrom_count (count : ℕ) (nodes : List ReviewDiscussionNode) :
    commentCount (discussionsFrom count nodes) ≤ noteCount nodes ∧
      (noteCount nodes ≤ commentCount (discussionsFrom count nodes) →
        ∀ node ∈ nodes, ∀ note ∈ node.notes, note.system = false →
          HasNote (discussionsFrom count nodes) node note) := by
  induction nodes generalizing count with
  | nil => exact ⟨le_rfl, fun _ _ none => absurd none not_mem_nil⟩
  | cons node rest ih =>
    rw [discussionsFrom, noteCount_cons]
    -- a thread that is left out has no notes, if all notes are counted
    have skipped : commentCount (discussionsFrom count rest) ≤
          (node.notes.filter fun note => !note.system).length + noteCount rest ∧
        ((node.notes.filter fun note => !note.system).length + noteCount rest ≤
            commentCount (discussionsFrom count rest) →
          ∀ other ∈ node :: rest, ∀ note ∈ other.notes, note.system = false →
            HasNote (discussionsFrom count rest) other note) := by
      obtain ⟨fewer, complete⟩ := ih count
      refine ⟨fewer.trans (Nat.le_add_left _ _), ?_⟩
      intro few other member note isNote notSystem
      rcases mem_cons.1 member with rfl | later
      · have kept : note ∈ other.notes.filter fun note => !note.system := by
          rw [mem_filter, notSystem]
          exact ⟨isNote, rfl⟩
        have some := length_pos_of_mem kept
        omega
      exact complete (by omega) other later note isNote notSystem
    split
    · simp only
      split
      · exact skipped
      obtain ⟨fewerComments, allComments⟩ := validatedComments_count count node.notes
      obtain ⟨fewer, complete⟩ := ih (count + (validatedComments count node.notes).length)
      have counted : commentCount (threadOf node (validatedComments count node.notes) ::
          discussionsFrom (count + (validatedComments count node.notes).length) rest) =
            (validatedComments count node.notes).length + commentCount
              (discussionsFrom (count + (validatedComments count node.notes).length) rest) := by
        simp only [commentCount, map_cons, sum_cons, threadOf]
      rw [counted]
      refine ⟨Nat.add_le_add fewerComments fewer, ?_⟩
      intro few other member note isNote notSystem
      rcases mem_cons.1 member with rfl | later
      · obtain ⟨comment, isComment, same⟩ := allComments (by omega) note isNote notSystem
        exact ⟨_, mem_cons_self, rfl, comment, isComment, same⟩
      obtain ⟨thread, isThread, found⟩ := complete (by omega) other later note isNote notSystem
      exact ⟨thread, mem_cons_of_mem _ isThread, found⟩
    exact skipped

theorem required_eq_ok {α : Type} {answer : Answer α} {value : α}
    (isOk : answer.required = .ok value) : answer = .ok (some value) := by
  rcases answer with failure | _ | found
  · cases isOk
  · cases isOk
  cases isOk
  rfl

variable {pages : DiscussionPages}

theorem readPages_cons {nodes result : List ReviewDiscussionNode}
    {truncated cut : Bool} {page : ℕ} {rest : List ℕ}
    (read : readPages pages nodes truncated (page :: rest) = .ok (result, cut)) :
    ∃ batch, pages page = .ok (some batch) ∧
      (batch.length < discussionsPerPage ∧ result = nodes ++ batch ∧ cut = truncated ∨
        batch.length = discussionsPerPage ∧ readPages pages (nodes ++ batch)
          (truncated || maxReviewDiscussions ≤ (nodes ++ batch).length) rest = .ok (result, cut)) := by
  rw [readPages] at read
  obtain ⟨batch, isBatch, read⟩ := Interrupt.bind_eq_ok.1 read
  refine ⟨batch, required_eq_ok isBatch, ?_⟩
  split at read
  · cases read
  rename_i accepted
  rw [not_or, gt_iff_lt, Nat.not_lt] at accepted
  split at read
  · rename_i short
    cases read
    exact .inl ⟨short, rfl, rfl⟩
  rename_i full
  exact .inr ⟨Nat.le_antisymm accepted.1 (Nat.not_lt.1 full), read⟩

theorem readPages_whole {nodes : List ReviewDiscussionNode}
    (read : readPages pages [] false pageNumbers = .ok (nodes, false)) :
    ∃ first, pages 1 = .ok (some first) ∧ (first.length < discussionsPerPage ∧ nodes = first ∨
        first.length = discussionsPerPage ∧ ∃ second, pages 2 = .ok (some second) ∧
          second.length < discussionsPerPage ∧ nodes = first ++ second) := by
  have numbers : pageNumbers = [1, 2] := by decide
  rw [numbers] at read
  obtain ⟨first, isFirst, ⟨short, isResult, _⟩ | ⟨full, read⟩⟩ := readPages_cons read
  · exact ⟨first, isFirst, .inl ⟨short, isResult⟩⟩
  rw [nil_append] at read
  obtain ⟨second, isSecond, ⟨short, isResult, _⟩ | ⟨full', read⟩⟩ := readPages_cons read
  · exact ⟨first, isFirst, .inr ⟨full, second, isSecond, short, isResult⟩⟩
  rw [readPages] at read
  have cut : (false || decide (maxReviewDiscussions ≤ first.length) ||
      decide (maxReviewDiscussions ≤ (first ++ second).length)) = true := by
    rw [Bool.or_eq_true, decide_eq_true_eq, length_append, full, full']
    exact .inr (by decide)
  rw [cut] at read
  cases read

/-- A page that the provider holds: every page before it is full. -/
def Held (pages : DiscussionPages) (page : ℕ) (batch : List ReviewDiscussionNode) : Prop :=
  1 ≤ page ∧ pages page = .ok (some batch) ∧ ∀ earlier, 1 ≤ earlier → earlier < page →
    ∃ full, pages earlier = .ok (some full) ∧ full.length = discussionsPerPage

/-- A list that is not truncated has every note of the pages that the provider holds. -/
def Whole (pages : DiscussionPages) (discussions : List GitlabReviewDiscussion) : Prop :=
  ∀ page batch, Held pages page batch → ∀ node ∈ batch, ∀ note ∈ node.notes, note.system = false →
    HasNote discussions node note

theorem fetchDiscussions_complete {discussions : List GitlabReviewDiscussion}
    (fetched : fetchDiscussions pages = .ok (discussions, false)) : Whole pages discussions := by
  rw [fetchDiscussions] at fetched
  obtain ⟨⟨nodes, truncated⟩, read, fetched⟩ := Interrupt.bind_eq_ok.1 fetched
  simp only [Except.ok.injEq, Prod.mk.injEq, Bool.or_eq_false_iff, decide_eq_false_iff_not,
    Nat.not_lt] at fetched
  obtain ⟨rfl, rfl, counted⟩ := fetched
  obtain ⟨first, isFirst, taken⟩ := readPages_whole read
  have fewNodes : nodes.length ≤ maxReviewDiscussions := by
    have sizes : discussionsPerPage + discussionsPerPage = maxReviewDiscussions := by decide
    rcases taken with ⟨short, rfl⟩ | ⟨full, second, _, short, rfl⟩
    · omega
    rw [length_append]
    omega
  rw [validatedReviewDiscussions, take_of_length_le fewNodes] at counted ⊢
  intro page batch ⟨positive, isBatch, fullBefore⟩ node isNode note isNote notSystem
  refine (discussionsFrom_count 0 nodes).2 counted node ?_ note isNote notSystem
  rcases taken with ⟨short, rfl⟩ | ⟨full, second, isSecond, short, rfl⟩
  · have isOne : page = 1 := by
      by_contra other
      obtain ⟨before, isBefore, isFull⟩ := fullBefore 1 le_rfl (by omega)
      rw [isFirst] at isBefore
      cases isBefore
      omega
    rw [isOne, isFirst] at isBatch
    cases isBatch
    exact isNode
  have isTwo : page ≤ 2 := by
    by_contra other
    obtain ⟨before, isBefore, isFull⟩ := fullBefore 2 (by omega) (by omega)
    rw [isSecond] at isBefore
    cases isBefore
    omega
  rw [mem_append]
  rcases Nat.lt_or_ge page 2 with isOne | isTwo'
  · rw [show page = 1 by omega, isFirst] at isBatch
    cases isBatch
    exact .inl isNode
  rw [show page = 2 by omega, isSecond] at isBatch
  cases isBatch
  exact .inr isNode

end Wts.Gitlab
