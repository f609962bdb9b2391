/-
Module: Wts.App.ReviewSize
Purpose: The number of changed lines that decides whether a review is run.
-/
import Wts.App.PatchLines
import Wts.Library.Words

namespace Wts.PatchLines

open Text (startsWith endsWith containsText stripPrefix)

/-- The last piece of `str::rsplit`: the text after the last separator, or all of it. -/
def lastPiece (separator : List Char) : List Char → List Char
  | [] => []
  | c :: rest =>
    if rest.tails.any separator.isPrefixOf then lastPiece separator rest
    else if separator.isPrefixOf (c :: rest) then (c :: rest).drop separator.length
    else c :: rest

def isExcludedFromSizeGate (path : String) : Bool :=
  let path := String.ofList (Words.trimMatches (· = '"') path.toList)
  let leaf := String.ofList (lastPiece ['/'] path.toList)
  endsWith ".lock" leaf ||
    ["package-lock.json", "pnpm-lock.yaml", "yarn.lock", "go.sum", "Cargo.lock",
      "poetry.lock"].contains leaf ||
    containsText ".generated." leaf || endsWith ".pb.go" leaf || endsWith ".min.js" leaf ||
    startsWith "vendor/" path || containsText "/vendor/" path || startsWith "node_modules/" path

structure LineCount where
  count : ℕ
  countedFile : Bool
deriving DecidableEq

/-- The path that the counter reads from the title of a section. -/
def titlePath (title : String) : String :=
  String.ofList (lastPiece " b/".toList title.toList)

def countLine (state : LineCount) (line : String) : LineCount :=
  match stripPrefix "diff --git " line with
  | some rest => { state with countedFile := !isExcludedFromSizeGate (titlePath rest) }
  | none =>
    if startsWith "+++ " line || startsWith "--- " line then state
    else if state.countedFile && (startsWith "+" line || startsWith "-" line) then
      { state with count := min u32Max (state.count + 1) }
    else state

def countReviewableChangedLines (patch : String) : ℕ :=
  ((Text.lines patch).foldl countLine { count := 0, countedFile := true }).count

inductive GateAnswer where
  | noChanges
  | sizeGateStopped
  | reviewed
deriving DecidableEq

/-- How a review of recent changes is answered by the changed lines of the repositories. -/
def gateAnswer (sizeGateLines : Option ℕ) (ignoreSizeGate : Bool) (changedLines : List ℕ) : GateAnswer :=
  let totalLines := changedLines.foldl (fun total lines => min u32Max (total + lines)) 0
  if totalLines = 0 then .noChanges
  else if sizeGateLines.any (· < totalLines) && !ignoreSizeGate then .sizeGateStopped
  else .reviewed

end Wts.PatchLines
