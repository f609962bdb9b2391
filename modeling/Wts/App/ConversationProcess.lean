/-
Module: Wts.App.ConversationProcess
Purpose: Capture of the output of an agent process: the frames of its standard output, what each
  frame does to the capture, and the response that is published when the process has ended.
Trusted boundary: `serde_json::from_slice` is the parameter `fromSlice`
-/
import Wts.Library.Json
import Wts.Library.Utf8
import Wts.App.Collaboration

namespace Wts.ConversationProcess

open Text Utf8
open Collaboration (AgentProvider)

def MAX_FRAME_BYTES : ℕ := 4 * 1024 * 1024
def MAX_FINAL_BYTES : ℕ := 2 * 1024 * 1024
def MAX_PROGRESS_BYTES : ℕ := 64 * 1024
def MAX_DIAGNOSTIC_BYTES : ℕ := 16 * 1024

inductive AdapterFailure where
  | unavailable
  | spawnFailed
  | timedOut
  | outputTooLarge
  | graphFailed
  | cancelled
deriving DecidableEq

structure ConversationCapture where
  progress : String := ""
  latestMessage : String := ""
  providerError : String := ""
  stderr : String := ""
  completed : Bool := false
  terminalFailed : Bool := false
  rootExited : Bool := false
  exitCode : Option ℤ := none
  readError : Option String := none
  oversizedFinal : Bool := false
  skippedFrames : ℕ := 0
  text : String := ""

structure ConversationOutput where
  body : String
  progress : String
  diagnostic : String
  providerError : String
  failure : Option AdapterFailure
  rootExited : Bool
  exitCode : Option ℤ
  terminalFailed : Bool

/-- `text.replace('\0', "")`. -/
def removeNul (text : String) : String :=
  String.ofList (text.toList.filter (· ≠ Char.ofNat 0))

def boundUtf8 (output : String) (maximumBytes : ℕ) : String :=
  truncate output maximumBytes

def appendFinal (output text : String) (oversized : Bool) : String × Bool :=
  let remaining := MAX_FINAL_BYTES - output.utf8ByteSize
  (output ++ boundUtf8 (removeNul text) remaining,
    oversized || MAX_FINAL_BYTES < output.utf8ByteSize + text.utf8ByteSize)

def appendTail (output text : String) (maximum : ℕ) : String :=
  if text = "" then
    output
  else
    let output := (if output = "" then output else output ++ "\n") ++ removeNul text
    if maximum < output.utf8ByteSize then
      String.ofList (dropBytes (output.utf8ByteSize - maximum) output.toList)
    else
      output

/-! ### Frames of the standard output -/

/-- `value[name]` of a `serde_json::Value`: of a repeated name the last field counts, and what is not
there is null. -/
def get (value : Json) (name : String) : Json :=
  match value with
  | .object fields => (fields.reverse.lookup name).getD .null
  | _ => .null

def asStr : Json → Option String
  | .string text => some text
  | _ => none

/-- Comparison of a value with a text. -/
def isText (value : Json) (text : String) : Bool :=
  asStr value == some text

def errorMessage (value : Json) : Option String :=
  (asStr (get value "message")).orElse fun _ =>
    (asStr (get (get value "error") "message")).orElse fun _ =>
      (asStr (get (get (get value "error") "data") "message")).orElse fun _ =>
        asStr (get (get value "error") "name")

namespace ConversationCapture

variable (fromSlice : List UInt8 → Option Json)

def observe (capture : ConversationCapture) (provider : AgentProvider) (line : List UInt8) :
    ConversationCapture :=
  if provider = .codex ∨ provider = .openCode then
    match fromSlice line with
    | none =>
      { capture with
        stderr := appendTail capture.stderr (fromUtf8Lossy line) MAX_DIAGNOSTIC_BYTES }
    | some value =>
      if provider = .codex ∧ isText (get value "type") "item.completed" ∧
          isText (get (get value "item") "type") "agent_message" then
        match asStr (get (get value "item") "text") with
        | some text =>
          { capture with
            progress :=
              if capture.latestMessage = "" then capture.progress
              else appendTail capture.progress capture.latestMessage MAX_PROGRESS_BYTES
            oversizedFinal := MAX_FINAL_BYTES < text.utf8ByteSize
            latestMessage := boundUtf8 (removeNul text) MAX_FINAL_BYTES }
        | none => capture
      else if provider = .openCode ∧ isText (get value "type") "text" ∧
          isText (get (get value "part") "type") "text" then
        match asStr (get (get value "part") "text") with
        | some text =>
          let (text, oversized) := appendFinal capture.text text capture.oversizedFinal
          { capture with text := text, oversizedFinal := oversized }
        | none => capture
      else if isText (get value "type") "turn.completed" then
        { capture with completed := true, terminalFailed := false }
      else if isText (get value "type") "error" ∨ isText (get value "type") "turn.failed" then
        let capture :=
          if isText (get value "type") "turn.failed" then
            { capture with terminalFailed := true }
          else
            capture
        match errorMessage value with
        | some text =>
          { capture with
            providerError := appendTail capture.providerError text MAX_DIAGNOSTIC_BYTES }
        | none => capture
      else
        capture
  else
    let (text, oversized) := appendFinal capture.text (fromUtf8Lossy line) capture.oversizedFinal
    { capture with text := text, oversizedFinal := oversized }

end ConversationCapture

/-- The parts of a block that one round of the reading loop takes each: up to and with a line break,
or what is left of the block. -/
def pieces : List UInt8 → List (List UInt8)
  | [] => []
  | byte :: rest =>
    if byte = 0x0A then
      [byte] :: pieces rest
    else
      match pieces rest with
      | [] => [[byte]]
      | piece :: others => (byte :: piece) :: others

/-- The loop of `read_frames` over these parts: `some` for a frame, `none` for one that is too long.
The frame being read is `line`, or it is `oversized` and nothing of it is kept. -/
def readPieces (line : List UInt8) (oversized : Bool) :
    List (List UInt8) → List (Option (List UInt8))
  | [] => if oversized then [none] else if line = [] then [] else [some line]
  | piece :: others =>
    let fits := !oversized && line.length + piece.length ≤ MAX_FRAME_BYTES
    let line := if fits then line ++ piece else []
    if piece.getLast? = some 0x0A then
      (if fits then some line else none) :: readPieces [] false others
    else
      readPieces line (!fits) others

/-- `read_frames` on the blocks that the reads return. An empty block ends the output. -/
def readFrames (reads : List (List UInt8)) : List (Option (List UInt8)) :=
  readPieces [] false ((reads.takeWhile (· ≠ [])).flatMap pieces)

/-- What is at the path of the final message: nothing, something else than a regular file, or a file
with its length and the contents that reading it returns. -/
inductive FinalPath where
  | missing
  | special
  | file (length : ℕ) (contents : Option (List UInt8))

def readFinalMessage : FinalPath → Except AdapterFailure (Option String)
  | .missing | .special => .error .spawnFailed
  | .file length contents =>
    if MAX_FINAL_BYTES < length then
      .error .outputTooLarge
    else
      match contents with
      | none => .error .spawnFailed
      | some bytes =>
        if MAX_FINAL_BYTES < bytes.length then
          .error .outputTooLarge
        else
          match fromUtf8 bytes with
          | none => .error .spawnFailed
          | some text =>
            let text := removeNul text
            .ok (if trim text = "" then none else some text)

namespace ConversationCapture

/-- The body that `finish` starts from, and the failure of the turn. -/
def selectBody (capture : ConversationCapture) (provider : AgentProvider) (succeeded : Bool)
    (failure : Option AdapterFailure) (finalPath : FinalPath) : String × Option AdapterFailure :=
  if succeeded ∧ failure = none then
    if provider = .codex then
      match readFinalMessage finalPath with
      | .ok (some finalMessage) => (finalMessage, failure)
      | .ok none =>
        if capture.completed ∧ ¬capture.oversizedFinal then (capture.latestMessage, failure)
        else ("", failure)
      | .error error => ("", some error)
    else if ¬capture.oversizedFinal then
      (trim capture.text, failure)
    else
      ("", some .outputTooLarge)
  else
    ("", failure)

/-- The provider's error, then the read error, then what fits of the standard error. -/
def diagnostic (capture : ConversationCapture) : String :=
  let diagnostic := capture.readError.elim capture.providerError fun error =>
    appendTail capture.providerError error MAX_DIAGNOSTIC_BYTES
  if trim capture.stderr = "" then
    diagnostic
  else
    let diagnostic :=
      if diagnostic ≠ "" ∧ 2 ≤ MAX_DIAGNOSTIC_BYTES - diagnostic.utf8ByteSize then
        diagnostic ++ "\n\n"
      else
        diagnostic
    diagnostic ++ boundUtf8 capture.stderr (MAX_DIAGNOSTIC_BYTES - diagnostic.utf8ByteSize)

def finish (capture : ConversationCapture) (provider : AgentProvider) (succeeded : Bool)
    (failure : Option AdapterFailure) (finalPath : FinalPath) : ConversationOutput :=
  let succeeded := succeeded && !capture.terminalFailed
  let (body, failure) := capture.selectBody provider succeeded failure finalPath
  let progress :=
    if body = "" ∨ body ≠ capture.latestMessage then
      appendTail capture.progress capture.latestMessage MAX_PROGRESS_BYTES
    else
      capture.progress
  let withheld := !succeeded || failure.isSome
  { body := if withheld then "" else body
    progress := if withheld then appendTail progress capture.text MAX_PROGRESS_BYTES else progress
    diagnostic := capture.diagnostic
    providerError := capture.providerError
    failure := failure
    rootExited := capture.rootExited
    exitCode := capture.exitCode
    terminalFailed := capture.terminalFailed }

end ConversationCapture

/-- A change to the capture by one of the threads of `run_conversation_process`. -/
inductive Observation where
  | stdout (frame : Option (List UInt8))
  | stderr (bytes : List UInt8)
  | exited (code : Option ℤ)
  | readError (error : String)

namespace ConversationCapture

variable (fromSlice : List UInt8 → Option Json)

def record (provider : AgentProvider) (capture : ConversationCapture) :
    Observation → ConversationCapture
  | .stdout none => { capture with skippedFrames := capture.skippedFrames + 1 }
  | .stdout (some line) => capture.observe fromSlice provider line
  | .stderr bytes =>
    { capture with
      stderr := appendTail capture.stderr (fromUtf8Lossy bytes) MAX_DIAGNOSTIC_BYTES }
  | .exited code => { capture with rootExited := true, exitCode := code }
  | .readError error => { capture with readError := some error }

/-- The capture after these changes, in the order in which the threads made them. -/
def recordAll (provider : AgentProvider) (observations : List Observation) : ConversationCapture :=
  observations.foldl (record fromSlice provider) {}

end ConversationCapture

end Wts.ConversationProcess
