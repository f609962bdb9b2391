/-
Module: Wts.Proofs.ConversationResponse
Purpose: Which final response a run of a provider publishes.
Trusted boundary: none
Main exports: finish_confirmed_iff
-/
import Wts.App.ConversationProcess
import Wts.Library.FirstMatch

namespace Wts.ConversationProcess

open List

open Text Utf8
open Collaboration (AgentProvider)

/-! ### Frames -/

/-- A part that ends a line. -/
def Ends (piece : List UInt8) : Prop :=
  ∃ body, piece = body ++ [0x0A] ∧ (0x0A : UInt8) ∉ body

theorem pieces_of_notMem {bytes : List UInt8} (nonempty : bytes ≠ [])
    (open_ : (0x0A : UInt8) ∉ bytes) : pieces bytes = [bytes] := by
  induction bytes with
  | nil => exact absurd rfl nonempty
  | cons byte rest ih =>
    have here : byte ≠ 0x0A := fun same => open_ (same ▸ mem_cons_self)
    have later : (0x0A : UInt8) ∉ rest := fun member => open_ (mem_cons_of_mem _ member)
    cases rest with
    | nil => simp [pieces, here]
    | cons next rest =>
      rw [pieces, if_neg here, ih (cons_ne_nil _ _) later]

variable {piece line start : List UInt8}

theorem pieces_append_of_ends (ends : Ends piece) (rest : List UInt8) :
    pieces (piece ++ rest) = piece :: pieces rest := by
  obtain ⟨body, rfl, notBreak⟩ := ends
  induction body with
  | nil => simp [pieces]
  | cons byte body ih =>
    have here : byte ≠ 0x0A := fun same => notBreak (same ▸ mem_cons_self)
    have later := ih fun member => notBreak (mem_cons_of_mem _ member)
    rw [cons_append, cons_append, pieces, if_neg here, later]

theorem pieces_spec (block : List UInt8) : (pieces block).flatten = block ∧
      ∀ piece ∈ pieces block, piece ≠ [] ∧ (Ends piece ∨ (0x0A : UInt8) ∉ piece) := by
  induction block with
  | nil => exact ⟨rfl, by simp [pieces]⟩
  | cons byte rest ih =>
    obtain ⟨joined, parts⟩ := ih
    rw [pieces]
    split
    · rename_i here
      subst here
      refine ⟨by rw [flatten_cons, joined]; rfl, ?_⟩
      intro piece member
      obtain rfl | member := mem_cons.1 member
      · exact ⟨cons_ne_nil _ _, .inl ⟨[], rfl, not_mem_nil⟩⟩
      exact parts piece member
    rename_i here
    cases found : pieces rest with
    | nil =>
      rw [found] at joined
      refine ⟨by simp [← joined], ?_⟩
      intro piece member
      obtain rfl := mem_singleton.1 member
      exact ⟨cons_ne_nil _ _, .inr fun member => here (mem_singleton.1 member).symm⟩
    | cons first others =>
      rw [found] at joined parts
      refine ⟨by simp [← joined], ?_⟩
      intro piece member
      obtain rfl | member := mem_cons.1 member
      · refine ⟨cons_ne_nil _ _, ?_⟩
        obtain ⟨body, rfl, notBreak⟩ | none_ := (parts first mem_cons_self).2
        · refine .inl ⟨byte :: body, rfl, ?_⟩
          rintro member
          obtain same | member := mem_cons.1 member
          · exact here same.symm
          exact notBreak member
        refine .inr fun member => ?_
        obtain same | member := mem_cons.1 member
        · exact here same.symm
        exact none_ member
      exact parts piece (mem_cons_of_mem _ member)

def frameOf (line : List UInt8) : Option (List UInt8) :=
  if line.length ≤ MAX_FRAME_BYTES then some line else none

/-- What the loop keeps of the start of a line: all of it, or nothing once it is too long. -/
structure Keeps (line : List UInt8) (oversized : Bool) (start : List UInt8) : Prop where
  unbroken : (0x0A : UInt8) ∉ start
  oversized_eq : oversized = decide (MAX_FRAME_BYTES < start.length)
  line_eq : line = if oversized then [] else start

theorem keeps_nil : Keeps [] false [] where
  unbroken := not_mem_nil
  oversized_eq := by simp
  line_eq := rfl

variable {oversized succeeded : Bool}

theorem Keeps.fits (keeps : Keeps line oversized start)
    (piece : List UInt8) : (!oversized && decide (line.length + piece.length ≤ MAX_FRAME_BYTES)) =
      decide ((start ++ piece).length ≤ MAX_FRAME_BYTES) := by
  rw [keeps.line_eq, keeps.oversized_eq, length_append]
  by_cases long : MAX_FRAME_BYTES < start.length
  · have : ¬start.length + piece.length ≤ MAX_FRAME_BYTES :=
      fun short => absurd (Nat.le_of_add_right_le short) (Nat.not_le.2 long)
    simp [long, this]
  simp [long]

theorem Keeps.line_append (keeps : Keeps line oversized start)
    (fits : (start ++ piece).length ≤ MAX_FRAME_BYTES) : line ++ piece = start ++ piece := by
  have short : ¬MAX_FRAME_BYTES < start.length := by
    rw [length_append] at fits
    exact Nat.not_lt.2 (Nat.le_of_add_right_le fits)
  rw [keeps.line_eq, keeps.oversized_eq, decide_eq_false short]
  rfl

theorem readPieces_eq {parts : List (List UInt8)}
    (sound : ∀ piece ∈ parts, piece ≠ [] ∧ (Ends piece ∨ (0x0A : UInt8) ∉ piece)) :
    ∀ {line start : List UInt8} {oversized : Bool}, Keeps line oversized start →
      readPieces line oversized parts = (pieces (start ++ parts.flatten)).map frameOf := by
  induction parts with
  | nil =>
    intro line start oversized keeps
    rw [flatten_nil, append_nil, readPieces, keeps.line_eq, keeps.oversized_eq]
    by_cases empty : start = []
    · subst empty
      rfl
    rw [pieces_of_notMem empty keeps.unbroken]
    by_cases long : MAX_FRAME_BYTES < start.length
    · simp [frameOf, long]
    simp [frameOf, long, empty, Nat.not_lt.1 long]
  | cons piece others ih =>
    intro line start oversized keeps
    have later := @ih fun other member => sound other (mem_cons_of_mem _ member)
    rw [flatten_cons, ← append_assoc, readPieces]
    simp only [keeps.fits piece]
    obtain ⟨nonempty, ⟨body, rfl, notBreak⟩ | open_⟩ := sound piece mem_cons_self
    · -- the part ends the line
      have last : (body ++ [0x0A] : List UInt8).getLast? = some 0x0A := getLast?_concat
      have ends : Ends (start ++ (body ++ [0x0A])) := by
        refine ⟨start ++ body, (append_assoc _ _ _).symm, fun member => ?_⟩
        exact (mem_append.1 member).elim keeps.unbroken notBreak
      rw [if_pos last, later keeps_nil, pieces_append_of_ends ends, map_cons, nil_append]
      congr 1
      by_cases fits : (start ++ (body ++ [0x0A])).length ≤ MAX_FRAME_BYTES
      · simp only [frameOf, fits, decide_true, if_true, keeps.line_append fits]
      rw [decide_eq_false fits, frameOf, if_neg fits]
      rfl
    -- the line goes on
    have last : piece.getLast? ≠ some 0x0A := fun found => open_ (mem_of_getLast? found)
    rw [if_neg last]
    apply later
    refine ⟨fun member => (mem_append.1 member).elim keeps.unbroken open_, ?_, ?_⟩
    · rw [← decide_not]
      exact decide_eq_decide.2 Nat.not_le
    by_cases fits : (start ++ piece).length ≤ MAX_FRAME_BYTES
    · simp only [fits, decide_true, if_true, keeps.line_append fits]
      rfl
    rw [decide_eq_false fits]
    rfl

theorem readFrames_eq {reads : List (List UInt8)} (full : ∀ block ∈ reads, block ≠ []) :
    readFrames reads = (pieces reads.flatten).map frameOf := by
  have all : reads.takeWhile (· ≠ []) = reads := by
    rw [takeWhile_eq_self_iff]
    intro block member
    exact decide_eq_true (full block member)
  have joined : (reads.flatMap pieces).flatten = reads.flatten := by
    rw [flatMap_def, flatten_flatten, map_map]
    congr 1
    exact map_id'' (fun block => (pieces_spec block).1) reads
  rw [readFrames, all, readPieces_eq _ keeps_nil, nil_append, joined]
  intro piece member
  obtain ⟨block, -, member⟩ := mem_flatMap.1 member
  exact (pieces_spec block).2 piece member

/-- What a frame of the provider says about the response. -/
inductive ProviderEvent where
  | message (text : String)
  | completed
  | failed
  | skipped
  | other
deriving DecidableEq

namespace ProviderEvent

def text? : ProviderEvent → Option String
  | .message text => some text
  | _ => none

def turn? : ProviderEvent → Option Bool
  | .completed => some true
  | .failed => some false
  | _ => none

/-- The event takes the confirmation away from an earlier message. -/
def Unsettles : ProviderEvent → Prop
  | .message _ | .skipped => True
  | _ => False

end ProviderEvent

/-- The event that a frame is; an overlong frame is skipped. -/
def frameEvent (fromSlice : List UInt8 → Option Json) : Option (List UInt8) → ProviderEvent
  | none => .skipped
  | some line =>
    match fromSlice line with
    | none => .other
    | some value =>
      if isText (get value "type") "item.completed" ∧
          isText (get (get value "item") "type") "agent_message" then
        (asStr (get (get value "item") "text")).elim .other .message
      else if isText (get value "type") "turn.completed" then .completed
      else if isText (get value "type") "turn.failed" then .failed
      else .other

def frames (observations : List Observation) : List (Option (List UInt8)) :=
  observations.filterMap fun
    | .stdout frame => some frame
    | _ => none

/-- The events of the frames that were read. -/
def events (fromSlice : List UInt8 → Option Json) (observations : List Observation) :
    List ProviderEvent :=
  (frames observations).map (frameEvent fromSlice)

/-- The text of the last message. -/
def lastMessage (stream : List ProviderEvent) : Option String :=
  stream.reverse.findSome? ProviderEvent.text?

/-- Whether the last turn that ended was completed. -/
def lastTurn (stream : List ProviderEvent) : Option Bool :=
  stream.reverse.findSome? ProviderEvent.turn?

@[simp] theorem lastMessage_concat (stream : List ProviderEvent) (event : ProviderEvent) :
    lastMessage (stream ++ [event]) = event.text?.or (lastMessage stream) := by
  rw [lastMessage, reverse_concat, findSome?_cons]
  cases event <;> rfl

@[simp] theorem lastTurn_concat (stream : List ProviderEvent) (event : ProviderEvent) :
    lastTurn (stream ++ [event]) = event.turn?.or (lastTurn stream) := by
  rw [lastTurn, reverse_concat, findSome?_cons]
  cases event <;> rfl

/-- The part of the capture that decides about the body, as a function of the events. -/
structure Decisive (capture : ConversationCapture) (stream : List ProviderEvent) : Prop where
  message : capture.latestMessage =
    ((lastMessage stream).map fun text => boundUtf8 (removeNul text) MAX_FINAL_BYTES).getD ""
  oversized : capture.oversizedFinal =
    (lastMessage stream).any fun text => MAX_FINAL_BYTES < text.utf8ByteSize
  completed : capture.completed = true ↔ ProviderEvent.completed ∈ stream
  terminalFailed : capture.terminalFailed = true ↔ lastTurn stream = some false

theorem decisive_nil : Decisive {} [] where
  message := rfl
  oversized := rfl
  completed := by simp
  terminalFailed := by simp [lastTurn]

variable {capture : ConversationCapture} {stream : List ProviderEvent}

theorem Decisive.concat_of_same {after : ConversationCapture}
    {event : ProviderEvent} (decisive : Decisive capture stream)
    (silent : event = .skipped ∨ event = .other)
    (message : after.latestMessage = capture.latestMessage)
    (oversized : after.oversizedFinal = capture.oversizedFinal)
    (completed : after.completed = capture.completed)
    (failed : after.terminalFailed = capture.terminalFailed) :
    Decisive after (stream ++ [event]) := by
  have noText : lastMessage (stream ++ [event]) = lastMessage stream := by
    obtain rfl | rfl := silent <;> simp [ProviderEvent.text?]
  have noTurn : lastTurn (stream ++ [event]) = lastTurn stream := by
    obtain rfl | rfl := silent <;> simp [ProviderEvent.turn?]
  refine ⟨?_, ?_, ?_, ?_⟩
  · rw [message, noText, decisive.message]
  · rw [oversized, noText, decisive.oversized]
  · rw [completed, decisive.completed]
    obtain rfl | rfl := silent <;> simp
  rw [failed, noTurn, decisive.terminalFailed]

variable {fromSlice : List UInt8 → Option Json}

theorem Decisive.observe (decisive : Decisive capture stream) (line : List UInt8) :
    Decisive (capture.observe fromSlice .codex line)
      (stream ++ [frameEvent fromSlice (some line)]) := by
  cases parsed : fromSlice line with
  | none =>
    simp only [ConversationCapture.observe, frameEvent, parsed]
    exact decisive.concat_of_same (.inr rfl) rfl rfl rfl rfl
  | some value =>
    simp only [ConversationCapture.observe, frameEvent, parsed]
    by_cases message : isText (get value "type") "item.completed" = true ∧
      isText (get (get value "item") "type") "agent_message" = true
    · cases asStr (get (get value "item") "text") with
      | none =>
        simpa [message] using decisive.concat_of_same (.inr rfl) rfl rfl rfl rfl
      | some text =>
        simp only [message, and_self, if_true, true_or, Option.elim_some]
        refine ⟨?_, ?_, ?_, ?_⟩
        · simp [ProviderEvent.text?]
        · simp [ProviderEvent.text?]
        · simpa using decisive.completed
        simpa [ProviderEvent.turn?] using decisive.terminalFailed
    by_cases completed : isText (get value "type") "turn.completed" = true
    · simp only [message, completed, if_true, if_false, true_or, and_false, false_and, reduceCtorEq]
      refine ⟨?_, ?_, ?_, ?_⟩
      · simpa [ProviderEvent.text?] using decisive.message
      · simpa [ProviderEvent.text?] using decisive.oversized
      · simp
      simp [ProviderEvent.turn?]
    by_cases failed : isText (get value "type") "turn.failed" = true
    · simp only [message, completed, failed, if_true, if_false, true_or, or_true, true_and,
        false_and, reduceCtorEq]
      refine ⟨?_, ?_, ?_, ?_⟩
      · cases errorMessage value <;> simpa [ProviderEvent.text?] using decisive.message
      · cases errorMessage value <;> simpa [ProviderEvent.text?] using decisive.oversized
      · cases errorMessage value <;> simpa using decisive.completed
      cases errorMessage value <;> simp [ProviderEvent.turn?]
    simp only [message, completed, failed, if_false, or_false, true_and, false_and, reduceCtorEq]
    cases isText (get value "type") "error" <;> cases errorMessage value <;>
      exact decisive.concat_of_same (.inr rfl) rfl rfl rfl rfl

theorem events_concat (observations : List Observation) (observation : Observation) :
    events fromSlice (observations ++ [observation]) = events fromSlice observations ++
        match observation with
        | .stdout frame => [frameEvent fromSlice frame]
        | _ => [] := by
  cases observation <;> simp [events, frames]

variable {observations : List Observation}

theorem Decisive.record
    (decisive : Decisive capture (events fromSlice observations)) (observation : Observation) :
    Decisive (capture.record fromSlice .codex observation)
      (events fromSlice (observations ++ [observation])) := by
  rw [events_concat]
  cases observation with
  | stdout frame =>
    cases frame with
    | none => exact decisive.concat_of_same (.inl rfl) rfl rfl rfl rfl
    | some line => exact decisive.observe line
  | stderr bytes | exited code | readError error =>
    rw [append_nil]
    exact ⟨decisive.message, decisive.oversized, decisive.completed, decisive.terminalFailed⟩

theorem decisive_recordAll (observations : List Observation) :
    Decisive (ConversationCapture.recordAll fromSlice .codex observations)
      (events fromSlice observations) := by
  induction observations using List.reverseRecOn with
  | nil => exact decisive_nil
  | append_singleton observations observation ih =>
    rw [ConversationCapture.recordAll, foldl_append]
    exact ih.record observation

/-! ### The body -/

/-- No final message was written: reading its file gives no text. -/
def NoFinalMessage (finalPath : FinalPath) : Prop :=
  ∀ text, readFinalMessage finalPath ≠ .ok (some text)

/-- The body is the displayed text of the last agent message, and a completed turn follows that no
message, skipped frame or failed turn comes after. -/
def Confirmed (stream : List ProviderEvent) (body : String) : Prop :=
  ∃ before text between after,
    stream = before ++ .message text :: between ++ .completed :: after ∧
    (∀ event ∈ between, event.text? = none) ∧
    (∀ event ∈ after, ¬event.Unsettles ∧ event ≠ .failed) ∧
    body = removeNul text

/-- What the provider's run may publish: a confirmed response, and nothing after a failed turn. -/
def PublishesConfirmed (stream : List ProviderEvent) (body : String) : Prop :=
  (body ≠ "" → Confirmed stream body) ∧ (lastTurn stream = some false → body = "")

/-- The run publishes nothing from its stream. -/
def Withheld (stream : List ProviderEvent) (succeeded : Bool) (failure : Option AdapterFailure)
    (finalPath : FinalPath) : Prop :=
  succeeded = false ∨ failure ≠ none ∨ readFinalMessage finalPath ≠ .ok none ∨
    lastTurn stream ≠ some true ∨
    ∀ text, lastMessage stream = some text →
      MAX_FINAL_BYTES < text.utf8ByteSize ∨ removeNul text = ""

/-- No message and no skipped frame comes after the last completed turn. -/
def Settled (stream : List ProviderEvent) : Prop :=
  ∀ before after, stream = before ++ .completed :: after → .completed ∉ after →
    ∀ event ∈ after, ¬event.Unsettles

variable {finalPath : FinalPath}

theorem finish_body
    (noFinal : NoFinalMessage finalPath) (succeeded : Bool) (failure : Option AdapterFailure) :
    (capture.finish .codex succeeded failure finalPath).body =
      if succeeded = true ∧ capture.terminalFailed = false ∧ failure = none ∧
          readFinalMessage finalPath = .ok none ∧ capture.completed = true ∧
          capture.oversizedFinal = false then capture.latestMessage else "" := by
  simp only [ConversationCapture.finish, ConversationCapture.selectBody]
  cases read : readFinalMessage finalPath with
  | error error => cases succeeded <;> cases capture.terminalFailed <;> cases failure <;> simp
  | ok final =>
    cases final with
    | some text => exact absurd read (noFinal text)
    | none =>
      cases succeeded <;> cases capture.terminalFailed <;> cases failure <;>
        cases capture.completed <;> cases capture.oversizedFinal <;> simp

variable {failure : Option AdapterFailure}

theorem body_of_withheld (noFinal : NoFinalMessage finalPath)
    (withheld : Withheld (events fromSlice observations) succeeded failure finalPath) :
    ((ConversationCapture.recordAll fromSlice .codex observations).finish .codex succeeded failure
      finalPath).body = "" := by
  have decisive : Decisive (ConversationCapture.recordAll fromSlice .codex observations)
      (events fromSlice observations) := decisive_recordAll observations
  rw [finish_body noFinal]
  split
  · rename_i publishes
    obtain ⟨success, notFailed, noFailure, blank, completed, fits⟩ := publishes
    obtain failed | failed | unread | unfinished | silent := withheld
    · exact absurd success (by rw [failed]; exact Bool.false_ne_true)
    · exact absurd noFailure failed
    · exact absurd blank unread
    · -- some turn completed and the last one did not fail, so the last one completed
      exfalso
      have last : lastTurn (events fromSlice observations) ≠ some false := by
        intro found
        rw [← decisive.terminalFailed, notFailed] at found
        exact Bool.false_ne_true found
      have some_ : lastTurn (events fromSlice observations) ≠ none := by
        intro missing
        have none_ := findSome?_eq_none_iff.1 missing .completed
        exact Option.some_ne_none _ (none_ (mem_reverse.2 (decisive.completed.1 completed)))
      match found : lastTurn (events fromSlice observations) with
      | some true => exact unfinished found
      | some false => exact last found
      | none => exact some_ found
    rw [decisive.message]
    have fits := decisive.oversized.symm.trans fits
    cases found : lastMessage (events fromSlice observations) with
    | none => rfl
    | some text =>
      rw [found] at fits
      obtain large | empty := silent text found
      · exact absurd large (of_decide_eq_false fits)
      rw [Option.map_some, Option.getD_some, empty, boundUtf8, truncate_of_fits]
      exact Nat.zero_le _
  rfl

theorem body_of_not_withheld (noFinal : NoFinalMessage finalPath)
    (published : ¬Withheld (events fromSlice observations) succeeded failure finalPath) :
    ∃ text, lastMessage (events fromSlice observations) = some text ∧
      lastTurn (events fromSlice observations) = some true ∧ removeNul text ≠ "" ∧
      ((ConversationCapture.recordAll fromSlice .codex observations).finish .codex succeeded
        failure finalPath).body = removeNul text := by
  have decisive : Decisive (ConversationCapture.recordAll fromSlice .codex observations)
      (events fromSlice observations) := decisive_recordAll observations
  simp only [Withheld, not_or, not_not, not_forall] at published
  obtain ⟨success, noFailure, blank, turn, text, message, fits, nonempty⟩ := published
  refine ⟨text, message, turn, nonempty, ?_⟩
  have completed : ProviderEvent.completed ∈ events fromSlice observations := by
    obtain ⟨event, member, found⟩ := exists_of_findSome?_eq_some turn
    cases event <;> simp [ProviderEvent.turn?] at found
    exact mem_reverse.1 member
  rw [finish_body noFinal, if_pos]
  · have displayed : (removeNul text).utf8ByteSize ≤ MAX_FINAL_BYTES := by
      have shrinks := utf8ByteSize_sublist_le
        (filter_sublist (p := (· ≠ Char.ofNat 0)) (l := text.toList))
      rw [String.ofList_toList] at shrinks
      exact shrinks.trans (Nat.not_lt.1 fits)
    rw [decisive.message, message, Option.map_some, Option.getD_some, boundUtf8,
      truncate_of_fits displayed]
  refine ⟨by simpa using success, ?_, noFailure, blank, decisive.completed.2 completed, ?_⟩
  · rw [← Bool.not_eq_true, decisive.terminalFailed, turn]
    exact fun same => Bool.noConfusion (Option.some.inj same)
  rw [decisive.oversized, message]
  exact decide_eq_false fits

theorem settled_of_confirmed {body : String}
    (confirmed : Confirmed stream body) : Settled stream := by
  obtain ⟨before, text, between, after, rfl, -, quiet, -⟩ := confirmed
  intro before' after' split last event member
  have place : before' ++ .completed :: after' =
      (before ++ .message text :: between) ++ .completed :: after := by
    rw [← split, append_assoc, cons_append]
  have inside := suffix_of_notMem place last
  obtain equal | inside := suffix_cons_iff.1 inside
  · exact (quiet event ((List.cons.inj equal).2 ▸ member)).1
  exact (quiet event (inside.subset (mem_cons_of_mem _ member))).1

theorem confirmed_of_settled {text : String}
    (settled : Settled stream) (message : lastMessage stream = some text)
    (turn : lastTurn stream = some true) : Confirmed stream (removeNul text) := by
  obtain ⟨before, event, after, split, isTurn, noTurn⟩ := findSome?_reverse_eq_some_iff.1 turn
  obtain ⟨before', event', after', split', isText_, noText⟩ :=
    findSome?_reverse_eq_some_iff.1 message
  obtain rfl : event = .completed := by
    cases event <;> simp [ProviderEvent.turn?] at isTurn
    rfl
  obtain rfl : event' = .message text := by
    cases event' <;> simp [ProviderEvent.text?] at isText_
    rw [isText_]
  have last : ProviderEvent.completed ∉ after := fun member =>
    Option.some_ne_none _ (noTurn _ member)
  have quiet := settled before after split last
  have noMessage : ProviderEvent.message text ∉ after := fun member => quiet _ member trivial
  -- the last message stands before the last completed turn
  have inside := suffix_of_notMem (split.symm.trans split') noMessage
  obtain equal | inside := suffix_cons_iff.1 inside
  · exact ProviderEvent.noConfusion (List.cons.inj equal).1
  obtain ⟨between, rfl⟩ := inside
  refine ⟨before', text, between, after, ?_, ?_, ?_, rfl⟩
  · rw [split', append_assoc, cons_append]
  · intro event member
    exact noText event (mem_append_left _ member)
  intro event member
  refine ⟨quiet event member, ?_⟩
  rintro rfl
  exact Option.some_ne_none _ (noTurn _ member)

/-- Without a final message a run of Codex publishes nothing but a confirmed response, exactly when
it publishes nothing or no message and no skipped frame comes after the last completed turn. -/
theorem finish_confirmed_iff (fromSlice : List UInt8 → Option Json)
    (observations : List Observation) (succeeded : Bool) (failure : Option AdapterFailure)
    (finalPath : FinalPath) (noFinal : NoFinalMessage finalPath) :
    PublishesConfirmed (events fromSlice observations)
        ((ConversationCapture.recordAll fromSlice .codex observations).finish .codex succeeded
          failure finalPath).body ↔
      Withheld (events fromSlice observations) succeeded failure finalPath ∨
        Settled (events fromSlice observations) := by
  by_cases withheld : Withheld (events fromSlice observations) succeeded failure finalPath
  · rw [body_of_withheld noFinal withheld]
    exact iff_of_true ⟨fun published => absurd rfl published, fun _ => rfl⟩ (.inl withheld)
  obtain ⟨text, message, turn, nonempty, body⟩ := body_of_not_withheld noFinal withheld
  rw [body]
  constructor
  · intro publishes
    exact .inr (settled_of_confirmed (publishes.1 nonempty))
  intro condition
  refine ⟨fun _ => confirmed_of_settled (condition.resolve_left withheld) message turn, ?_⟩
  intro failed
  exact Bool.noConfusion (Option.some.inj (turn.symm.trans failed))

def jsonFromSlice (bytes : List UInt8) : Option Json :=
  (fromUtf8 bytes).bind Json.parse

def frameLine (text : String) : Observation :=
  .stdout (some (text.toList.map fun c => UInt8.ofNat c.toNat))

def lateMessage : List Observation :=
  [frameLine "\x7b\"type\":\"turn.completed\"\x7d\n",
    frameLine
      ("\x7b\"type\":\"item.completed\"," ++
        "\"item\":\x7b\"type\":\"agent_message\",\"text\":\"Draft\"\x7d\x7d\n")]

theorem events_lateMessage : events jsonFromSlice lateMessage = [.completed, .message "Draft"] := by
  decide +kernel

def emptyFile : FinalPath :=
  .file 0 (some [])

theorem noFinalMessage_emptyFile : NoFinalMessage emptyFile := by
  intro text same
  have read : readFinalMessage emptyFile = .ok none := by decide
  rw [read] at same
  cases same

theorem finish_confirmed_iff_sample : PublishesConfirmed (events jsonFromSlice lateMessage)
        ((ConversationCapture.recordAll jsonFromSlice .codex lateMessage).finish .codex true none
          emptyFile).body ↔ Withheld (events jsonFromSlice lateMessage) true none emptyFile ∨
        Settled (events jsonFromSlice lateMessage) :=
  finish_confirmed_iff jsonFromSlice lateMessage true none emptyFile noFinalMessage_emptyFile

/-- The message after the only completed turn is published: the completion of the turn before it is
not taken back. -/
theorem late_message_counterexample : NoFinalMessage emptyFile ∧
      ((ConversationCapture.recordAll jsonFromSlice .codex lateMessage).finish .codex true none
        emptyFile).body = "Draft" ∧ ¬PublishesConfirmed (events jsonFromSlice lateMessage)
        ((ConversationCapture.recordAll jsonFromSlice .codex lateMessage).finish .codex true none
          emptyFile).body := by
  have unsettled : ¬Settled (events jsonFromSlice lateMessage) := by
    rw [events_lateMessage]
    intro settled
    exact settled [] [.message "Draft"] rfl (by simp) (.message "Draft") mem_cons_self trivial
  have body : ((ConversationCapture.recordAll jsonFromSlice .codex lateMessage).finish .codex true
      none emptyFile).body = "Draft" := by
    decide +kernel
  refine ⟨noFinalMessage_emptyFile, body, ?_⟩
  intro publishes
  exact unsettled (settled_of_confirmed (publishes.1 (by rw [body]; decide)))

end Wts.ConversationProcess
