/-
Module: Wts.Proofs.AgentObservationReads
Purpose: The incremental reading of session logs.
Trusted boundary: none
Main exports: incremental_read_exact
-/
import Wts.App.AgentObservation

namespace Wts.AgentObservation

open LineReader List Text EventState MapRows

variable {ν : Type} (readers : Readers ν)

/-- The complete lines of a log that are not too long. -/
def logLines (bytes : List UInt8) : List (List UInt8) :=
  completeLines 0x0a maxEventLineBytes bytes

/-- The state after one read of the whole log. -/
def singleRead (bytes : List UInt8) : EventState :=
  (readLines 0x0a maxEventLineBytes (applyLine readers) bytes 0 EventState.initial).2

/-- A read of a log: where it is, and what the file holds if it can be read. -/
structure LogCall where
  path : PathBuf
  file : Option LogFile

/-- The contents that the calls found at a path. -/
def filesAt (path : PathBuf) (calls : List LogCall) : List LogFile :=
  calls.filterMap fun call => if call.path = path then call.file else none

/-- The log at the path only grows. -/
def AppendOnly (path : PathBuf) (calls : List LogCall) : Prop :=
  (filesAt path calls).Pairwise fun earlier later => earlier.bytes <+: later.bytes

/-- The call does not resume inside an overlong line, or the rest of that line is no record. -/
def Harmless (cache : Cache) (path : PathBuf) (file : LogFile) : Prop :=
  EndsLine 0x0a (file.bytes.take (resumePoint cache path file).1) ∨
    ∀ body rest, file.bytes.drop (resumePoint cache path file).1 = body ++ 0x0a :: rest →
      0x0a ∉ body → body.length ≤ maxEventLineBytes →
      ∀ record, readers.record (body ++ [0x0a]) = some record → record.payload = none

/-- Every call on the path is harmless. -/
def HarmlessReads (path : PathBuf) : Cache → List LogCall → Prop
  | _, [] => True
  | cache, call :: rest =>
    (∀ file, call.path = path → call.file = some file → Harmless readers cache path file) ∧
      HarmlessReads path (readEventState readers cache call.path call.file).2 rest

/-- Every call on the path that gives a state gives the one of a single read of the log, which comes
from the complete lines within the limit, each applied once and in order. -/
def ExactReads (path : PathBuf) : Cache → List LogCall → Prop
  | _, [] => True
  | cache, call :: rest =>
    (∀ state, call.path = path → (readEventState readers cache call.path call.file).1 = some state →
      ∃ file, call.file = some file ∧ state = singleRead readers file.bytes ∧
        state = (logLines file.bytes).foldl (applyLine readers) EventState.initial) ∧
      ExactReads path (readEventState readers cache call.path call.file).2 rest

variable {entry : CachedEventState}

theorem popFirst_getElem {cache : Cache} {path : PathBuf}
    (found : (popFirst cache)[path]? = some entry) : cache[path]? = some entry := by
  rw [popFirst] at found
  split at found
  · rename_i first isFirst
    rw [lookup_erase] at found
    split at found
    · cases found
    exact found
  exact found

theorem popFirst_iterate_getElem {cache : Cache} {path : PathBuf} (n : ℕ)
    (found : (popFirst^[n] cache)[path]? = some entry) : cache[path]? = some entry := by
  induction n generalizing cache with
  | zero => exact found
  | succ n ih => exact popFirst_getElem (ih found)

theorem readEventState_other {cache : Cache} {path other : PathBuf} (different : other ≠ path)
    (file : Option LogFile)
    (found : (readEventState readers cache other file).2[path]? = some entry) :
    cache[path]? = some entry := by
  have kept : ∀ {entry}, (cache.erase other)[path]? = some entry → cache[path]? = some entry := by
    intro entry found
    rw [lookup_erase] at found
    split at found
    · cases found
    exact found
  cases file with
  | none => exact found
  | some file =>
    rw [readEventState] at found
    dsimp only at found
    split at found
    · exact kept found
    rw [lookup_insert] at found
    split at found
    · rename_i same
      exact absurd same different
    exact kept (popFirst_iterate_getElem _ found)

/-- The entry of a path can be read on: its offset is inside the bytes, and its state is the one of the
lines before it. -/
def Cached (cache : Cache) (path : PathBuf) (bytes : List UInt8) : Prop :=
  ∀ entry, cache[path]? = some entry → entry.offset ≤ bytes.length ∧
    Resumable 0x0a maxEventLineBytes (applyLine readers) EventState.initial
      (bytes.take entry.offset) entry.state

variable {readers} {cache : Cache} {path : PathBuf} {bytes : List UInt8} {file : LogFile}

theorem Cached.resumePoint (cached : Cached readers cache path bytes)
    (grown : bytes <+: file.bytes) : (resumePoint cache path file).1 ≤ file.bytes.length ∧
      Resumable 0x0a maxEventLineBytes (applyLine readers) initial
        (file.bytes.take (resumePoint cache path file).1) (resumePoint cache path file).2 := by
  rw [AgentObservation.resumePoint]
  split
  · rename_i entry found
    obtain ⟨isEntry, _⟩ := Option.filter_eq_some_iff.1 found
    obtain ⟨inside, resumable⟩ := cached entry isEntry
    refine ⟨inside.trans grown.length_le, ?_⟩
    obtain ⟨more, whole⟩ := grown
    change Resumable 0x0a maxEventLineBytes (applyLine readers) initial
      (file.bytes.take entry.offset) entry.state
    rw [← whole, take_append_of_le_length inside]
    exact resumable
  exact ⟨Nat.zero_le _, resumable_nil _ _⟩

theorem Harmless.noEffect (harmless : Harmless readers cache path file) (state : EventState) :
    EndsLine 0x0a (file.bytes.take (AgentObservation.resumePoint cache path file).1) ∨
      ∀ body rest, file.bytes.drop (AgentObservation.resumePoint cache path file).1 =
        body ++ 0x0a :: rest → 0x0a ∉ body → body.length ≤ maxEventLineBytes →
          applyLine readers state (body ++ [0x0a]) = state := by
  refine harmless.imp_right fun noRecord body rest same inside short => ?_
  rw [applyLine]
  cases isRecord : readers.record (body ++ [0x0a]) with
  | none => rfl
  | some record =>
    change applyRecord readers state record = state
    rw [applyRecord, noRecord body rest same inside short record isRecord]

theorem singleRead_eq (bytes : List UInt8) : singleRead readers bytes =
      (logLines bytes).foldl (applyLine readers) initial := by
  rw [singleRead, readLines_state]
  rfl

theorem readEventState_readable (readers : Readers ν) (cache : Cache) (path : PathBuf)
    (readable : file.readable = true) :
    ∃ kept : Cache, readEventState readers cache path (some file) =
      (some (readLines 0x0a maxEventLineBytes (applyLine readers)
        (file.bytes.drop (resumePoint cache path file).1) (resumePoint cache path file).1
        (resumePoint cache path file).2).2,
      kept.insert path {
        identity := file.identity
        modified := file.modified
        length := file.length
        offset := (readLines 0x0a maxEventLineBytes (applyLine readers)
          (file.bytes.drop (resumePoint cache path file).1) (resumePoint cache path file).1
          (resumePoint cache path file).2).1
        state := (readLines 0x0a maxEventLineBytes (applyLine readers)
          (file.bytes.drop (resumePoint cache path file).1) (resumePoint cache path file).1
          (resumePoint cache path file).2).2 }) := by
  rw [readEventState, readable]
  exact ⟨_, rfl⟩

theorem Cached.call (cached : Cached readers cache path bytes) (grown : bytes <+: file.bytes)
    (harmless : Harmless readers cache path file) :
    (∀ state, (readEventState readers cache path (some file)).1 = some state →
      state = singleRead readers file.bytes) ∧
      Cached readers (readEventState readers cache path (some file)).2 path file.bytes := by
  obtain ⟨inside, resumable⟩ := cached.resumePoint grown
  obtain ⟨offset, start, isPoint⟩ :
      ∃ offset start, AgentObservation.resumePoint cache path file = (offset, start) := ⟨_, _, rfl⟩
  have noEffect := harmless.noEffect start
  rw [isPoint] at inside resumable noEffect
  have length : (file.bytes.take offset).length = offset := length_take_of_le inside
  obtain ⟨isRead, consumed, left, isUnread, isOffset, next⟩ := resumable.read noEffect
  rw [length, take_append_drop] at isRead
  rw [length] at isOffset next
  cases readable : file.readable with
  | false =>
    have result : readEventState readers cache path (some file) = (none, cache.erase path) := by
      rw [readEventState, isPoint, readable]
      rfl
    rw [result]
    refine ⟨fun state none => (by cases none), fun entry found => ?_⟩
    rw [lookup_erase, if_pos rfl] at found
    cases found
  | true =>
    obtain ⟨kept, result⟩ := readEventState_readable readers cache path readable
    rw [isPoint] at result
    rw [result]
    refine ⟨fun state isState => ?_, fun entry found => ?_⟩
    · rw [singleRead_eq, logLines, ← isRead]
      exact (Option.some_inj.1 isState).symm
    rw [lookup_insert, if_pos rfl] at found
    cases found
    obtain ⟨done, isDone⟩ : ∃ done, done = file.bytes.take offset ++ consumed := ⟨_, rfl⟩
    have whole : file.bytes = done ++ left := by
      rw [isDone, append_assoc, ← isUnread, take_append_drop]
    rw [← isDone] at isOffset next
    dsimp only
    have takeDone : file.bytes.take done.length = done := by
      rw [whole]
      exact take_left
    have isPrefix : done <+: file.bytes := ⟨left, whole.symm⟩
    rw [isOffset, takeDone]
    exact ⟨isPrefix.length_le, next⟩

theorem filesAt_cons (path : PathBuf) (call : LogCall) (rest : List LogCall) :
    filesAt path (call :: rest) =
      (if call.path = path then call.file else none).toList ++ filesAt path rest := by
  rw [filesAt, filterMap_cons]
  cases found : (if call.path = path then call.file else none) <;> rfl

theorem Cached.run {calls : List LogCall} (cached : Cached readers cache path bytes)
    (grown : ∀ file ∈ filesAt path calls, bytes <+: file.bytes)
    (appendOnly : AppendOnly path calls) (harmless : HarmlessReads readers path cache calls) :
    ExactReads readers path cache calls := by
  induction calls generalizing cache bytes with
  | nil => trivial
  | cons call rest ih =>
    obtain ⟨thisHarmless, restHarmless⟩ := harmless
    obtain ⟨other, found⟩ := call
    rw [AppendOnly, filesAt_cons] at appendOnly
    rw [filesAt_cons] at grown
    by_cases here : other = path
    · subst here
      rw [if_pos rfl] at appendOnly grown
      cases found with
      | none =>
        exact ⟨fun state _ none => (by cases none), ih cached grown appendOnly restHarmless⟩
      | some file =>
        obtain ⟨later, restAppendOnly⟩ := pairwise_cons.1 appendOnly
        obtain ⟨isRead, next⟩ := cached.call (grown file mem_cons_self) (thisHarmless file rfl rfl)
        refine ⟨fun state _ isState => ?_, ih next later restAppendOnly restHarmless⟩
        have single := isRead state isState
        exact ⟨file, rfl, single, single.trans (singleRead_eq _)⟩
    rw [if_neg here] at appendOnly grown
    refine ⟨fun state same => absurd same here, ih ?_ grown appendOnly restHarmless⟩
    intro entry isEntry
    exact cached entry (readEventState_other readers here found isEntry)

/-- Incremental reading of an append-only log is exact in every run of calls, on this log and others,
whose calls on the log are harmless. -/
theorem incremental_read_exact (readers : Readers ν) (path : PathBuf) (calls : List LogCall)
    (appendOnly : AppendOnly path calls) (harmless : HarmlessReads readers path ∅ calls) :
    ExactReads readers path ∅ calls := by
  have cached : Cached readers ∅ path [] := by
    intro entry found
    rw [Std.ExtTreeMap.getElem?_empty] at found
    cases found
  exact cached.run (fun file _ => nil_prefix) appendOnly harmless

/-! ### A record at the end of an overlong line -/

def samplePath : PathBuf where
  absolute := true
  components := ["sessions", "rollout.jsonl"]

def abortedText : List UInt8 :=
  utf8Bytes "\x7b\"type\":\"event_msg\",\"payload\":\x7b\"type\":\"turn_aborted\"\x7d\x7d"

def abortedRecord : RolloutRecord where
  recordType := some "event_msg"
  timestamp := none
  payload := some {
    payloadType := some "turn_aborted"
    turnId := none
    name := none
    callId := none
    arguments := none
    input := none
    role := none
    phase := none
    model := none
    content := none
    lastAgentMessage := none
    startedAt := none
    completedAt := none
    durationMs := none }

def sampleReaders : Readers ℕ where
  record := fun line => if line = abortedText ++ [0x0a] then some abortedRecord else none
  json := fun _ => none
  changeRequestProposal := fun _ => none
  mrLinkProposal := fun _ => none

def sampleFile (bytes : List UInt8) : LogFile where
  identity := (1, 1)
  modified := none
  length := bytes.length
  bytes := bytes
  readable := true

theorem newline_notMem_abortedText : (0x0a : UInt8) ∉ abortedText := by
  decide +kernel

theorem length_abortedText : abortedText.length ≤ maxEventLineBytes := by
  decide +kernel

def overlong : List UInt8 :=
  List.replicate (maxEventLineBytes + 2) 0x78

/-- A log is read, has grown, and is read again. -/
def callsOf (first rest : List UInt8) : List LogCall :=
  [⟨samplePath, some (sampleFile first)⟩, ⟨samplePath, some (sampleFile (first ++ rest))⟩]

theorem appendOnly_callsOf (first rest : List UInt8) :
    AppendOnly samplePath (callsOf first rest) := by
  have files : filesAt samplePath (callsOf first rest) =
      [sampleFile first, sampleFile (first ++ rest)] := rfl
  rw [AppendOnly, files, pairwise_pair]
  exact prefix_append _ _

theorem resumePoint_second {first : List UInt8} (unfinished : 0x0a ∉ first) (rest : List UInt8) :
    resumePoint (readEventState sampleReaders ∅ samplePath (some (sampleFile first))).2 samplePath
      (sampleFile (first ++ rest)) =
        (if first.length ≤ maxEventLineBytes + 1 then 0 else first.length, initial) := by
  have start : resumePoint ∅ samplePath (sampleFile first) = (0, initial) := by
    rw [resumePoint, Std.ExtTreeMap.getElem?_empty]
    rfl
  have readable : (sampleFile first).readable = true := rfl
  obtain ⟨kept, result⟩ := readEventState_readable sampleReaders ∅ samplePath readable
  have isRead : readLines 0x0a maxEventLineBytes (applyLine sampleReaders) first 0
      initial = (if first.length ≤ maxEventLineBytes + 1 then 0 else first.length,
        initial) := by
    rw [readLines_of_not_mem unfinished, Nat.zero_add]
  rw [start] at result
  change readEventState sampleReaders ∅ samplePath (some (sampleFile first)) =
    (some (readLines 0x0a maxEventLineBytes (applyLine sampleReaders) first 0
      initial).2, kept.insert samplePath {
        identity := (1, 1)
        modified := none
        length := first.length
        offset := (readLines 0x0a maxEventLineBytes (applyLine sampleReaders) first 0 initial).1
        state := (readLines 0x0a maxEventLineBytes (applyLine sampleReaders) first 0
          initial).2 }) at result
  rw [isRead] at result
  rw [result, resumePoint, lookup_insert, if_pos rfl, Option.filter_some, if_pos]
  simp [usable, sampleFile]

theorem applyLine_aborted : applyLine sampleReaders initial (abortedText ++ [0x0a]) ≠ initial := by
  have isRecord : sampleReaders.record (abortedText ++ [0x0a]) = some abortedRecord := by
    change (if abortedText ++ [0x0a] = abortedText ++ [0x0a] then some abortedRecord else none) = _
    exact if_pos rfl
  have applied : (applyLine sampleReaders initial (abortedText ++ [0x0a])).lastTerminal =
      some .interrupted := by
    rw [applyLine, isRecord]
    rfl
  intro same
  rw [same] at applied
  cases applied

/-- The log is cut in the middle of a record, which the second call reads. -/
theorem incremental_read_exact_sample :
    ExactReads sampleReaders samplePath ∅ (callsOf abortedText [0x0a]) := by
  refine incremental_read_exact sampleReaders samplePath _ (appendOnly_callsOf _ _) ⟨?_, ?_, trivial⟩
  · intro file _ isFile
    cases isFile
    exact Or.inl (Or.inl rfl)
  intro file _ isFile
  cases isFile
  refine Or.inl (Or.inl ?_)
  rw [resumePoint_second newline_notMem_abortedText,
    if_pos (length_abortedText.trans (Nat.le_succ _)), take_zero]

/-- The rest of an overlong line is read as a record of its own. -/
theorem overlong_line_counterexample :
    ¬ ∀ (readers : Readers ℕ) (path : PathBuf) (calls : List LogCall), AppendOnly path calls →
      ExactReads readers path ∅ calls := by
  intro claim
  obtain ⟨_, second, _⟩ := claim sampleReaders samplePath
    (callsOf overlong (abortedText ++ [0x0a])) (appendOnly_callsOf _ _)
  have inside : (0x0a : UInt8) ∉ overlong := by
    rw [overlong, mem_replicate]
    exact fun both => absurd both.2 (by decide)
  have length : overlong.length = maxEventLineBytes + 2 := length_replicate
  have long : ¬ overlong.length ≤ maxEventLineBytes + 1 := by omega
  have point := resumePoint_second inside (abortedText ++ [0x0a])
  rw [if_neg long] at point
  have readable : (sampleFile (overlong ++ (abortedText ++ [0x0a]))).readable = true := rfl
  obtain ⟨kept, result⟩ := readEventState_readable sampleReaders
    (readEventState sampleReaders ∅ samplePath (some (sampleFile overlong))).2 samplePath readable
  have unread : (sampleFile (overlong ++ (abortedText ++ [0x0a]))).bytes.drop overlong.length =
      abortedText ++ [0x0a] := drop_left
  rw [point] at result
  dsimp only at result
  rw [unread, readLines_append newline_notMem_abortedText, if_pos length_abortedText,
    readLines_of_not_mem not_mem_nil] at result
  obtain ⟨file, isFile, single, _⟩ := second _ rfl (congrArg Prod.fst result)
  cases isFile
  have bytes : (sampleFile (overlong ++ (abortedText ++ [0x0a]))).bytes =
      (overlong ++ abortedText) ++ 0x0a :: [] := by
    rw [append_assoc]
    rfl
  have skipped : (0x0a : UInt8) ∉ overlong ++ abortedText := by
    rw [mem_append]
    exact not_or.2 ⟨inside, newline_notMem_abortedText⟩
  have isLong : maxEventLineBytes + 1 < (overlong ++ abortedText).length := by
    rw [length_append]
    omega
  rw [singleRead_eq, logLines, bytes, completeLines_skipped skipped isLong,
    completeLines_of_not_mem not_mem_nil] at single
  exact applyLine_aborted single

end Wts.AgentObservation
