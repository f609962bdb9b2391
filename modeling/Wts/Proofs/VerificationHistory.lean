/-
Module: Wts.Proofs.VerificationHistory
Purpose: A verification result is recorded as a whole exactly when the latest result cannot be written
  or stays what it was, or the history can be read and written too.
Trusted boundary: none
Main exports: recordedWhole_iff
-/
import Wts.App.EvidenceStore
import Wts.Library.JsonSize

namespace Wts.EvidenceStore

open Serde Json List

variable {fromSlice : List UInt8 → Option (List WorkspaceVerificationResult)}

/-! ### One file -/

/-- A file is replaced by a text. -/
structure Replaces (faults : WriteFaults) (node : Option Node) (bytes : List UInt8) : Prop where
  root : faults.root = none
  target : replaceable node = true
  fits : bytes.length ≤ MAX_EVIDENCE_FILE_BYTES
  writes : faults.replace = false

variable {bytes : List UInt8} {node : Option Node} {written : Node}

theorem atomicReplaceBytes_eq_ok_iff {fails : Bool}
    : atomicReplaceBytes fails node bytes = .ok written ↔
      replaceable node = true ∧ bytes.length ≤ MAX_EVIDENCE_FILE_BYTES ∧ fails = false ∧
        written = .file bytes true := by
  unfold atomicReplaceBytes
  by_cases target : replaceable node = true
  · rw [if_neg (not_not.2 target)]
    by_cases fits : bytes.length ≤ MAX_EVIDENCE_FILE_BYTES
    · rw [if_neg (not_lt.2 fits)]
      cases fails with
      | true =>
        constructor
        · intro impossible
          cases impossible
        intro ⟨_, _, impossible, _⟩
        cases impossible
      | false =>
        constructor
        · intro same
          exact ⟨target, fits, rfl, (Except.ok.inj same).symm⟩
        intro ⟨_, _, _, same⟩
        rw [same]
        rfl
    rw [if_pos (not_le.1 fits)]
    constructor
    · intro impossible
      cases impossible
    intro ⟨_, isFitting, _⟩
    exact absurd isFitting fits
  rw [if_pos target]
  constructor
  · intro impossible
    cases impossible
  intro ⟨isTarget, _⟩
  exact absurd isTarget target

theorem write_eq_ok_iff {faults : WriteFaults} :
    write faults node bytes = .ok written ↔ Replaces faults node bytes ∧ written = .file bytes true := by
  unfold write
  cases root : faults.root with
  | some error =>
    constructor
    · intro impossible
      cases impossible
    intro ⟨replaces, _⟩
    rw [replaces.root] at root
    cases root
  | none =>
    dsimp only
    rw [atomicReplaceBytes_eq_ok_iff]
    constructor
    · intro ⟨target, fits, writes, same⟩
      exact ⟨⟨root, target, fits, writes⟩, same⟩
    intro ⟨replaces, same⟩
    exact ⟨replaces.target, replaces.fits, replaces.writes, same⟩

/-- The history that a file holds; no file is an empty history. -/
inductive HistoryHolds (fromSlice : List UInt8 → Option (List WorkspaceVerificationResult)) :
    Option Node → List WorkspaceVerificationResult → Prop where
  | missing : HistoryHolds fromSlice none []
  | file {bytes : List UInt8} {history : List WorkspaceVerificationResult}
      (short : bytes.length ≤ MAX_EVIDENCE_FILE_BYTES) (read : fromSlice bytes = some history)
      (few : history.length ≤ MAX_VERIFICATION_HISTORY)
      (terminal : ∀ result ∈ history, terminalVerificationResult result = true) :
      HistoryHolds fromSlice (some (.file bytes true)) history

theorem readJson_eq_ok_iff {α : Type} {read : List UInt8 → Option α}
    {value : α} : readJson read node = .ok value ↔ ∃ bytes, node = some (.file bytes true) ∧
      bytes.length ≤ MAX_EVIDENCE_FILE_BYTES ∧ read bytes = some value := by
  unfold readJson readBytes
  split
  · rename_i error isError
    constructor
    · intro impossible
      cases impossible
    intro ⟨bytes, isFile, short, _⟩
    subst isFile
    simp only [if_neg (not_lt.2 short), if_true] at isError
    cases isError
  rename_i bytes isBytes
  have isFile : node = some (.file bytes true) ∧ bytes.length ≤ MAX_EVIDENCE_FILE_BYTES := by
    split at isBytes
    · cases isBytes
    · cases isBytes
    · cases isBytes
    split_ifs at isBytes with long readable
    obtain rfl := Except.ok.inj isBytes
    rw [readable]
    exact ⟨rfl, not_lt.1 long⟩
  obtain ⟨isNode, short⟩ := isFile
  constructor
  · intro found
    cases parsed : read bytes with
    | none =>
      rw [parsed] at found
      cases found
    | some other =>
      rw [parsed] at found
      exact ⟨bytes, isNode, short, by rw [parsed, Except.ok.inj found]⟩
  intro ⟨other, isOther, _, parsed⟩
  rw [isNode] at isOther
  obtain rfl : bytes = other := (Node.file.inj (Option.some.inj isOther)).1
  rw [parsed]

theorem readVerificationHistory_eq_ok_iff {history : List WorkspaceVerificationResult} :
    readVerificationHistory fromSlice node = .ok history ↔ HistoryHolds fromSlice node history := by
  cases node with
  | none =>
    constructor
    · intro same
      rw [← Except.ok.inj same]
      exact .missing
    intro holds
    cases holds
    rfl
  | some node =>
    rw [readVerificationHistory]
    constructor
    · intro found
      cases read : readJson fromSlice (some node) with
      | error error =>
        rw [read] at found
        cases found
      | ok stored =>
        rw [read] at found
        dsimp only at found
        split_ifs at found with refused
        obtain rfl := Except.ok.inj found
        obtain ⟨bytes, isFile, short, parsed⟩ := readJson_eq_ok_iff.1 read
        rw [isFile]
        rw [not_or, any_eq_true] at refused
        refine .file short parsed (not_lt.1 refused.1) ?_
        intro result member
        by_contra open_
        exact refused.2 ⟨result, member, by simpa using open_⟩
    intro holds
    cases holds with
    | file short parsed few terminal =>
      rw [readJson_eq_ok_iff.2 ⟨_, rfl, short, parsed⟩]
      apply if_neg
      rw [not_or, any_eq_true]
      refine ⟨not_lt.2 few, ?_⟩
      intro ⟨result, member, open_⟩
      rw [terminal result member] at open_
      cases open_

/-- Two results of one run. -/
def SameRun (first second : WorkspaceVerificationResult) : Prop :=
  first.workspaceId = second.workspaceId ∧ first.planRevision = second.planRevision ∧
    first.startedAtUnixMs = second.startedAtUnixMs

instance (first second : WorkspaceVerificationResult) : Decidable (SameRun first second) :=
  inferInstanceAs (Decidable (_ ∧ _ ∧ _))

theorem updateHistory_eq (history : List WorkspaceVerificationResult)
    (result : WorkspaceVerificationResult) : updateHistory history result =
      (result :: history.filter fun snapshot => ¬SameRun snapshot result).take
        MAX_VERIFICATION_HISTORY := by
  unfold updateHistory SameRun
  congr 2
  apply filter_congr
  intro snapshot _
  exact decide_eq_decide.2 (by tauto)

/-- The text of the result. -/
def resultFile (result : WorkspaceVerificationResult) : List UInt8 :=
  toVecPretty result.toJson

/-- The text of the history with the result in front. -/
def historyFile (history : List WorkspaceVerificationResult) (result : WorkspaceVerificationResult) :
    List UInt8 :=
  toVecPretty (ofList WorkspaceVerificationResult.toJson
    ((result :: history.filter fun snapshot => ¬SameRun snapshot result).take
      MAX_VERIFICATION_HISTORY))

/-- An error leaves both files as they were. -/
def RecordedWhole (fromSlice : List UInt8 → Option (List WorkspaceVerificationResult))
    (files : VerificationFiles) (result : WorkspaceVerificationResult) :
    Except EvidenceStoreError Unit × VerificationFiles → Prop
  | (.error _, after) => after = files
  | (.ok _, after) => after.result = some (.file (resultFile result) true) ∧
      ∃ history, HistoryHolds fromSlice files.history history ∧
        after.history = some (.file (historyFile history result) true)

/-- The latest result is not written or is already there, or the history can be read and replaced. -/
def KeepsBoth (fromSlice : List UInt8 → Option (List WorkspaceVerificationResult))
    (faults : ResultFaults) (files : VerificationFiles) (result : WorkspaceVerificationResult) :
    Prop :=
  ¬Replaces faults.result files.result (resultFile result) ∨
    files.result = some (.file (resultFile result) true) ∨
    ∃ history, HistoryHolds fromSlice files.history history ∧
      Replaces faults.history files.history (historyFile history result)

/-- A result is recorded in both files or in neither, exactly when `KeepsBoth` holds. -/
theorem recordedWhole_iff (fromSlice : List UInt8 → Option (List WorkspaceVerificationResult))
    (faults : ResultFaults) (files : VerificationFiles) (result : WorkspaceVerificationResult)
    (terminal : terminalVerificationResult result = true) :
    RecordedWhole fromSlice files result (writeVerificationResult fromSlice faults files result) ↔
      KeepsBoth fromSlice faults files result := by
  unfold writeVerificationResult
  cases wrote : write faults.result files.result (toVecPretty result.toJson) with
  | error error =>
    have refused : ¬Replaces faults.result files.result (resultFile result) := by
      intro replaces
      have written := write_eq_ok_iff.2 ⟨replaces, rfl⟩
      rw [resultFile, wrote] at written
      cases written
    exact ⟨fun _ => .inl refused, fun _ => rfl⟩
  | ok written =>
    obtain ⟨replaces, rfl⟩ := write_eq_ok_iff.1 wrote
    have changed : KeepsBoth fromSlice faults files result ↔
        files.result = some (.file (resultFile result) true) ∨
          ∃ history, HistoryHolds fromSlice files.history history ∧
            Replaces faults.history files.history (historyFile history result) := by
      unfold KeepsBoth
      exact or_iff_right (not_not.2 replaces)
    have unchanged : ∀ error : EvidenceStoreError, RecordedWhole fromSlice files result
        (.error error, { files with result := some (.file (toVecPretty result.toJson) true) }) ↔
          files.result = some (.file (resultFile result) true) := by
      intro error
      constructor
      · intro same
        exact (congrArg VerificationFiles.result same).symm
      · intro same
        show VerificationFiles.mk _ _ = files
        rw [← resultFile, ← same]
    dsimp only
    rw [changed, if_pos terminal]
    cases read : readVerificationHistory fromSlice files.history with
    | error error =>
      have unread : ∀ history, ¬HistoryHolds fromSlice files.history history := by
        intro history holds
        rw [readVerificationHistory_eq_ok_iff.2 holds] at read
        cases read
      dsimp only
      rw [unchanged]
      constructor
      · exact .inl
      intro either
      rcases either with same | ⟨history, holds, _⟩
      · exact same
      · exact absurd holds (unread history)
    | ok history =>
      have holds := readVerificationHistory_eq_ok_iff.1 read
      have only : ∀ other, HistoryHolds fromSlice files.history other → other = history := by
        intro other isOther
        rw [readVerificationHistory_eq_ok_iff.2 isOther] at read
        exact Except.ok.inj read
      have isFile : toVecPretty (ofList WorkspaceVerificationResult.toJson
          (updateHistory history result)) = historyFile history result := by
        rw [updateHistory_eq]
        rfl
      dsimp only
      rw [isFile]
      cases again : write faults.history files.history (historyFile history result) with
      | error error =>
        dsimp only
        rw [unchanged]
        constructor
        · exact .inl
        intro either
        rcases either with same | ⟨other, isOther, replacesHistory⟩
        · exact same
        · rw [only other isOther] at replacesHistory
          rw [write_eq_ok_iff.2 ⟨replacesHistory, rfl⟩] at again
          cases again
      | ok written =>
        obtain ⟨replacesHistory, rfl⟩ := write_eq_ok_iff.1 again
        constructor
        · intro _
          exact .inr ⟨history, holds, replacesHistory⟩
        · intro _
          exact ⟨rfl, history, holds, rfl⟩

def longResult (startedAtUnixMs : Int64) (characters : ℕ) : WorkspaceVerificationResult where
  schemaVersion := 1
  workspaceId := 7
  planRevision := 1
  status := .failed
  startedAtUnixMs := some startedAtUnixMs
  completedAtUnixMs := some 900
  durationMs := none
  checks :=
    [{ checkId := "unit"
       status := .failed
       startedAtUnixMs := none
       completedAtUnixMs := none
       durationMs := none
       exitCode := none
       logDisplayPath := none
       detail := String.ofList (List.replicate characters 'a') }]
  warnings := []

theorem terminal_longResult (startedAtUnixMs : Int64) (characters : ℕ) :
    terminalVerificationResult (longResult startedAtUnixMs characters) = true :=
  rfl

theorem prettySize_longResult (startedAtUnixMs : Int64) (characters depth : ℕ) :
    prettySize depth (longResult startedAtUnixMs characters).toJson =
      prettySize depth (longResult startedAtUnixMs 0).toJson + characters := by
  have plain : escapedSize 'a' = 1 := by decide
  simp only [longResult, WorkspaceVerificationResult.toJson, VerificationCheckResult.toJson, record,
    present, ofList, map_cons, map_nil, filterMap_cons, filterMap_nil,
    Option.map_some, Option.map_none, prettySize, prettyFieldsSize, prettyEntrySize,
    prettyItemsSize, VerificationStatus.toJson, VerificationCheckStatus.toJson, Json.size,
    textSize_replicate, plain]
  ring

theorem length_toVecPretty (value : Json) : (toVecPretty value).length = prettySize 0 value := by
  rw [toVecPretty, Text.length_utf8Bytes, utf8ByteSize_pretty]

theorem length_resultFile (startedAtUnixMs : Int64) (characters : ℕ) :
    (resultFile (longResult startedAtUnixMs characters)).length =
      prettySize 0 (longResult startedAtUnixMs 0).toJson + characters := by
  rw [resultFile, length_toVecPretty, prettySize_longResult]

theorem length_historyFile_le (first second : Int64) (different : second ≠ first) (characters : ℕ) :
    2 * characters ≤
      (historyFile [longResult first characters] (longResult second characters)).length := by
  have other : ¬SameRun (longResult first characters) (longResult second characters) :=
    fun same => different (Option.some.inj same.2.2).symm
  have both : ((longResult second characters :: [longResult first characters].filter fun snapshot =>
      ¬SameRun snapshot (longResult second characters)).take MAX_VERIFICATION_HISTORY) =
        [longResult second characters, longResult first characters] := by
    have kept : ([longResult first characters].filter fun snapshot =>
        ¬SameRun snapshot (longResult second characters)) = [longResult first characters] := by
      apply filter_eq_self.2
      intro snapshot member
      rw [mem_singleton.1 member]
      exact decide_eq_true other
    rw [kept]
    rfl
  rw [historyFile, both, length_toVecPretty]
  simp only [ofList, map_cons, map_nil, prettySize, prettyItemsSize,
    prettySize_longResult second characters, prettySize_longResult first characters]
  omega

theorem longResult_ne (characters : ℕ) :
    (longResult 100 characters).toJson ≠ (longResult 200 characters).toJson := by
  intro same
  have fields := object.inj same
  simp [longResult, present, ofInt64] at fields

def noFaults : ResultFaults where
  result := { root := none, replace := false }
  history := { root := none, replace := false }

def filesWith (result : WorkspaceVerificationResult) : VerificationFiles where
  result := some (.file (resultFile result) true)
  history := some (.file (historyFile [] result) true)

def readOnly (result : WorkspaceVerificationResult) (bytes : List UInt8) :
    Option (List WorkspaceVerificationResult) :=
  if bytes = historyFile [] result then some [result] else none

/-- A later result that fits is recorded whole before the stored one. -/
theorem recordedWhole_iff_second : ∃ older newer, terminalVerificationResult newer = true ∧
      ¬SameRun older newer ∧ RecordedWhole (readOnly older) (filesWith older) newer
        (writeVerificationResult (readOnly older) noFaults (filesWith older) newer) := by
  have sizeOlder : (historyFile [] (longResult 100 0)).length ≤ MAX_EVIDENCE_FILE_BYTES := by
    rw [historyFile, length_toVecPretty]
    decide +kernel
  have sizeNewer : (historyFile [longResult 100 0] (longResult 200 0)).length ≤
      MAX_EVIDENCE_FILE_BYTES := by
    rw [historyFile, length_toVecPretty]
    decide +kernel
  obtain ⟨older, newer, terminalOlder, terminal, apart, fitsOlder, fitsNewer⟩ :
      ∃ older newer : WorkspaceVerificationResult, terminalVerificationResult older = true ∧
        terminalVerificationResult newer = true ∧ ¬SameRun older newer ∧
        (historyFile [] older).length ≤ MAX_EVIDENCE_FILE_BYTES ∧
        (historyFile [older] newer).length ≤ MAX_EVIDENCE_FILE_BYTES :=
    ⟨longResult 100 0, longResult 200 0, terminal_longResult 100 0, terminal_longResult 200 0,
      by decide, sizeOlder, sizeNewer⟩
  refine ⟨older, newer, terminal, apart, (recordedWhole_iff _ _ _ _ terminal).2 ?_⟩
  have holds : HistoryHolds (readOnly older) (filesWith older).history [older] := by
    refine .file fitsOlder (if_pos rfl) (show 1 ≤ MAX_VERIFICATION_HISTORY by decide) ?_
    intro result member
    rw [mem_singleton.1 member]
    exact terminalOlder
  exact .inr (.inr ⟨[older], holds, rfl, decide_eq_true fitsOlder, fitsNewer, rfl⟩)

theorem not_recordedWhole {older newer : WorkspaceVerificationResult}
    (terminal : terminalVerificationResult newer = true)
    (fitsOlder : (resultFile older).length ≤ MAX_EVIDENCE_FILE_BYTES)
    (fitsNewer : (resultFile newer).length ≤ MAX_EVIDENCE_FILE_BYTES) (differs : older.toJson ≠ newer.toJson)
    (tooLong : MAX_EVIDENCE_FILE_BYTES < (historyFile [older] newer).length) :
    ¬RecordedWhole (readOnly older) (filesWith older) newer
      (writeVerificationResult (readOnly older) noFaults (filesWith older) newer) := by
  rw [recordedWhole_iff _ _ _ _ terminal]
  intro keeps
  rcases keeps with refused | same | ⟨history, holds, replaces⟩
  · exact refused ⟨rfl, decide_eq_true fitsOlder, fitsNewer, rfl⟩
  · have texts := Text.utf8Bytes_injective (Node.file.inj (Option.some.inj same)).1
    have values := parse_pretty newer.toJson
    rw [← texts, parse_pretty] at values
    exact differs (Option.some.inj values)
  have old : history = [older] := by
    cases holds with
    | file _ read _ _ =>
      rw [readOnly, if_pos rfl] at read
      exact (Option.some.inj read).symm
  have fits := replaces.fits
  rw [old] at fits
  exact absurd fits (not_le.2 tooLong)

/-- Two results of 300000 characters fit into a file each, but not into one history. -/
theorem history_limit_counterexample :
    ¬∀ (fromSlice : List UInt8 → Option (List WorkspaceVerificationResult)) (faults : ResultFaults)
      (files : VerificationFiles) (result : WorkspaceVerificationResult),
      terminalVerificationResult result = true → RecordedWhole fromSlice files result
        (writeVerificationResult fromSlice faults files result) := by
  intro claim
  have size : ∀ started : Int64, started = 100 ∨ started = 200 →
      (resultFile (longResult started 300000)).length ≤ MAX_EVIDENCE_FILE_BYTES := by
    intro started either
    rw [length_resultFile]
    rcases either with isFirst | isSecond
    · rw [isFirst]
      decide +kernel
    · rw [isSecond]
      decide +kernel
  have long := length_historyFile_le 100 200 (by decide) 300000
  obtain ⟨older, newer, terminal, fitsOlder, fitsNewer, differs, tooLong⟩ :
      ∃ older newer : WorkspaceVerificationResult, terminalVerificationResult newer = true ∧
        (resultFile older).length ≤ MAX_EVIDENCE_FILE_BYTES ∧
        (resultFile newer).length ≤ MAX_EVIDENCE_FILE_BYTES ∧ older.toJson ≠ newer.toJson ∧
        MAX_EVIDENCE_FILE_BYTES < (historyFile [older] newer).length :=
    ⟨longResult 100 300000, longResult 200 300000, terminal_longResult 200 300000,
      size 100 (.inl rfl), size 200 (.inr rfl), longResult_ne 300000, lt_of_lt_of_le (by decide) long⟩
  exact not_recordedWhole terminal fitsOlder fitsNewer differs tooLong (claim _ _ _ _ terminal)

end Wts.EvidenceStore
