/-
Module: Wts.App.ReviewTrace
Purpose: The live trace of an agent's code review: the store that updates a step in place when its
  item goes on and drops the oldest steps, and the incremental reading of the trace.
Trusted boundary: the reader of the agent's output lines, whose steps are given
-/
import Wts.App.CodeWorkspace
import Wts.App.Collaboration
import Wts.Library.Lines
import Wts.Library.Utf8

namespace Wts.ReviewTrace

open Text
open Collaboration (AgentProvider)

def maxSteps : ℕ := 400

inductive CodeReviewTraceKind where
  | status
  | thinking
  | message
  | command
  | tool
  | search
  | error
deriving DecidableEq

/-- One readable step of the agent run. -/
structure CodeReviewTraceStep where
  sequence : UInt32
  kind : CodeReviewTraceKind
  text : String
  detail : Option String
  itemId : Option String
  running : Bool
  atUnixMs : Int64
deriving DecidableEq

inductive CodeReviewRunState where
  | running
  | finished
  | failed

/-- The steps of the current or last review run of a workspace. -/
structure CodeReviewTrace where
  workspaceId : Uuid
  runId : Uuid
  provider : AgentProvider
  model : Option String
  state : CodeReviewRunState
  startedAtUnixMs : Int64
  steps : List CodeReviewTraceStep
  droppedSteps : UInt32

/-- A step from the parser, before the store gives it a sequence number. -/
structure ParsedStep where
  kind : CodeReviewTraceKind
  text : String
  detail : Option String
  itemId : Option String
  running : Bool

/-! ### The store -/

/-- The live trace of the newest review run of each workspace. -/
def CodeReviewTraceStore := Uuid → Option CodeReviewTrace

/-- Change the last item that is found, if there is one. -/
def updateLast {α : Type} (found : α → Bool) (update : α → α) : List α → Option (List α)
  | [] => none
  | item :: rest =>
    match updateLast found update rest with
    | some updated => some (item :: updated)
    | none => if found item then some (update item :: rest) else none

/-- Whether a step shows the item that a parsed step names. -/
def sameItem (parsed : ParsedStep) (existing : CodeReviewTraceStep) : Bool :=
  parsed.itemId.isSome && existing.itemId = parsed.itemId && existing.kind = parsed.kind

def updateStep (parsed : ParsedStep) (existing : CodeReviewTraceStep) : CodeReviewTraceStep :=
  { existing with
    text := parsed.text
    detail := parsed.detail.or existing.detail
    running := parsed.running }

namespace CodeReviewTrace

variable (trace : CodeReviewTrace)

def nextSequence : UInt32 :=
  trace.droppedSteps + UInt32.ofNat trace.steps.length + 1

def newStep (parsed : ParsedStep) (now : Int64) :
    CodeReviewTraceStep where
  sequence := trace.nextSequence
  kind := parsed.kind
  text := parsed.text
  detail := parsed.detail
  itemId := parsed.itemId
  running := parsed.running
  atUnixMs := now

/-- Add a step at the end and drop the oldest ones. -/
def append (parsed : ParsedStep) (now : Int64) : CodeReviewTrace :=
  let steps := trace.steps ++ [trace.newStep parsed now]
  let excess := steps.length - maxSteps
  { trace with
    steps := steps.drop excess
    droppedSteps := trace.droppedSteps + UInt32.ofNat excess }

def push (parsed : ParsedStep) (now : Int64) : CodeReviewTrace :=
  match updateLast (sameItem parsed) (updateStep parsed) trace.steps with
  | some steps => { trace with steps := steps }
  | none => trace.append parsed now

def finish (succeeded : Bool) : CodeReviewTrace :=
  { trace with
    state := if succeeded then .finished else .failed
    steps := trace.steps.map fun step => { step with running := false } }

/-- The steps that are sent to a reader that has the steps up to a sequence number. -/
def since (after : Option UInt32) : CodeReviewTrace :=
  match after with
  | none => trace
  | some after =>
    { trace with steps := trace.steps.filter fun step => after < step.sequence || step.running }

end CodeReviewTrace

namespace CodeReviewTraceStore

variable (traces : CodeReviewTraceStore)

/-- `begin`, with the identifier that it draws. -/
def beginRun (workspaceId : Uuid) (provider : AgentProvider)
    (model : Option String) (runId : Uuid) (now : Int64) : CodeReviewTraceStore :=
  Function.update traces workspaceId (some {
    workspaceId := workspaceId
    runId := runId
    provider := provider
    model := model
    state := .running
    startedAtUnixMs := now
    steps := []
    droppedSteps := 0 })

/-- Change the trace of a workspace if it is of the run. -/
def change (workspaceId runId : Uuid)
    (update : CodeReviewTrace → CodeReviewTrace) : CodeReviewTraceStore :=
  match traces workspaceId with
  | some trace =>
    if trace.runId = runId then Function.update traces workspaceId (some (update trace)) else traces
  | none => traces

def push (workspaceId runId : Uuid) (parsed : ParsedStep) (now : Int64) : CodeReviewTraceStore :=
  traces.change workspaceId runId fun trace => trace.push parsed now

def finish (workspaceId runId : Uuid) (succeeded : Bool) :
    CodeReviewTraceStore :=
  traces.change workspaceId runId fun trace => trace.finish succeeded

/-- Returns the trace. With `after`, it returns only the steps with a larger sequence number, and the
running ones. -/
def get (workspaceId : Uuid) (after : Option UInt32) :
    Option CodeReviewTrace :=
  (traces workspaceId).map fun trace => trace.since after

end CodeReviewTraceStore

end Wts.ReviewTrace
