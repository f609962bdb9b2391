/-
Module: Wts.Proofs.ConversationFrames
Purpose: The frames of an output are its lines, for every way in which the reads cut it into chunks.
Trusted boundary: none
Main exports: readFrames_lines
-/
import Wts.Proofs.ConversationResponse
import Wts.Library.LineReader

namespace Wts.ConversationProcess

/-- The lines of an output, each with its line break; the last one may have none. -/
inductive Lines : List UInt8 → List (List UInt8) → Prop where
  | done : Lines [] []
  | last {body : List UInt8} (nonempty : body ≠ []) (unbroken : (0x0A : UInt8) ∉ body) :
      Lines body [body]
  | line {body rest : List UInt8} {lines : List (List UInt8)} (unbroken : (0x0A : UInt8) ∉ body)
      (later : Lines rest lines) : Lines (body ++ 0x0A :: rest) ((body ++ [0x0A]) :: lines)

/-- The reads that an output arrives in: none is empty. -/
structure Chunks (output : List UInt8) where
  reads : List (List UInt8)
  full : ∀ read ∈ reads, read ≠ []
  joined : reads.flatten = output

def Chunks.bytes (output : List UInt8) : Chunks output where
  reads := output.map fun byte => [byte]
  full := by
    intro read member
    obtain ⟨byte, -, isRead⟩ := List.mem_map.1 member
    rw [← isRead]
    exact List.cons_ne_nil byte []
  joined := by
    rw [← List.flatMap_def]
    exact List.flatMap_singleton' output

theorem pieces_line {body : List UInt8} (unbroken : (0x0A : UInt8) ∉ body) (rest : List UInt8) :
    pieces (body ++ 0x0A :: rest) = (body ++ [0x0A]) :: pieces rest := by
  rw [← pieces_append_of_ends ⟨body, rfl, unbroken⟩ rest, List.append_assoc]
  rfl

theorem lines_pieces (output : List UInt8) : Lines output (pieces output) := by
  induction output using LineReader.line_induction (0x0A : UInt8) with
  | unfinished items unbroken =>
    by_cases empty : items = []
    · rw [empty]
      exact .done
    rw [pieces_of_notMem empty unbroken]
    exact .last empty unbroken
  | line body rest unbroken later =>
    rw [pieces_line unbroken]
    exact .line unbroken later

theorem Lines.eq_pieces {output : List UInt8} {lines : List (List UInt8)}
    (isLines : Lines output lines) : lines = pieces output := by
  induction isLines with
  | done => rfl
  | last nonempty unbroken => rw [pieces_of_notMem nonempty unbroken]
  | line unbroken _ ih => rw [pieces_line unbroken, ih]

theorem readFrames_ended {reads : List (List UInt8)} (full : ∀ read ∈ reads, read ≠ [])
    (after : List (List UInt8)) : readFrames (reads ++ [] :: after) = readFrames reads := by
  have all : reads.takeWhile (· ≠ []) = reads := by
    rw [List.takeWhile_eq_self_iff]
    intro read member
    exact decide_eq_true (full read member)
  have ends : (reads ++ [] :: after).takeWhile (· ≠ []) = reads := by
    rw [List.takeWhile_append_of_pos fun read member => decide_eq_true (full read member)]
    exact List.append_nil reads
  rw [readFrames, ends, readFrames, all]

/-- Every output has one list of lines. -/
theorem readFrames_lines (output : List UInt8) :
    ∃ lines, Lines output lines ∧ (∀ others, Lines output others → others = lines) ∧
      ∀ (chunks : Chunks output) (after : List (List UInt8)),
        readFrames (chunks.reads ++ [] :: after) =
          lines.map fun line => if line.length ≤ MAX_FRAME_BYTES then some line else none := by
  refine ⟨pieces output, lines_pieces output, fun others isLines => isLines.eq_pieces, ?_⟩
  intro chunks after
  rw [readFrames_ended chunks.full, readFrames_eq chunks.full, chunks.joined]
  rfl

/-- Two lines and a last one without a break, read one byte at a time. -/
example : readFrames ((Chunks.bytes [0x61, 0x0A, 0x62, 0x63, 0x0A, 0x64]).reads ++ [[]]) =
    [some [0x61, 0x0A], some [0x62, 0x63, 0x0A], some [0x64]] := by decide +kernel

end Wts.ConversationProcess
