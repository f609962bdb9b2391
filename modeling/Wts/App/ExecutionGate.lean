/-
Module: Wts.App.ExecutionGate
Purpose: The gate that bounds the agents of a coordinator.
-/
import Wts.App.Collaboration

namespace Wts.Collaboration

open Std (ExtTreeSet)

def gatePollInterval : Duration := millis 20

/-- The state behind the mutex. A poisoned mutex gives the same state. -/
structure ExecutionGateState where
  active : ℕ
  workspaceRoots : ExtTreeSet PathBuf

def ExecutionGateState.empty : ExecutionGateState where
  active := 0
  workspaceRoots := ∅

structure ExecutionPermit where
  workspaceRoot : PathBuf

/-- A call of `acquire` that has not returned. -/
structure AcquireCall where
  workspaceRoot : PathBuf
  deadline : Duration

/-- What one round of the loop reads: the cancellation flags and the clock, at the checkpoint and
when the remaining time is measured. -/
structure RoundReading where
  cancelled : Bool
  checkedAt : Duration
  measuredAt : Duration

def checkpoint (cancelled : Bool) (deadline now : Duration) : Except CollaborationStopReason Unit :=
  if cancelled then .error .cancelled
  else if deadline ≤ now then .error .timedOut
  else .ok ()

inductive RoundOutcome where
  | granted (permit : ExecutionPermit)
  | stopped (reason : CollaborationStopReason)
  | waits (timeout : Duration)

/-- A free slot and no active root that overlaps the wanted one. -/
def ExecutionGateState.admits (maximum : ℕ) (state : ExecutionGateState) (root : PathBuf) : Bool :=
  state.active < maximum &&
    !state.workspaceRoots.toList.any fun active => pathsOverlap active root

/-- One round of the loop of `acquire`, under the lock. -/
def acquireRound (maximum : ℕ) (state : ExecutionGateState) (call : AcquireCall)
    (reading : RoundReading) : ExecutionGateState × RoundOutcome :=
  match checkpoint reading.cancelled call.deadline reading.checkedAt with
  | .error reason => (state, .stopped reason)
  | .ok () =>
    if state.admits maximum call.workspaceRoot then
      ({ active := state.active + 1
         workspaceRoots := state.workspaceRoots.insert call.workspaceRoot },
        .granted { workspaceRoot := call.workspaceRoot })
    else if call.deadline - reading.measuredAt = 0 then
      (state, .stopped .timedOut)
    else
      (state, .waits (min (call.deadline - reading.measuredAt) gatePollInterval))

/-- `ExecutionPermit::drop`. The waiting calls are notified. -/
def dropPermit (state : ExecutionGateState) (permit : ExecutionPermit) : ExecutionGateState where
  active := state.active - 1
  workspaceRoots := state.workspaceRoots.erase permit.workspaceRoot

/-! ### Runs -/

/-- The ways in which `execute_task` gives a permit up. -/
inductive PermitExit where
  | checkpointFailed (reason : CollaborationStopReason)
  | adapterReturned (outcome : CollaborationAdapterOutcome)
  | adapterPanicked
  | unwound

inductive GateEvent where
  | enter (call : AcquireCall)
  | round (call : ℕ) (reading : RoundReading)
  | leave (permit : ℕ) (exit : PermitExit)

/-- The gate with the calls that wait in `acquire` and the permits that have not been dropped. -/
structure GateRun where
  gate : ExecutionGateState
  calls : List AcquireCall
  permits : List ExecutionPermit

def GateRun.initial : GateRun where
  gate := .empty
  calls := []
  permits := []

/-- An event for a call or a permit that is not there changes nothing. -/
def gateStep (maximum : ℕ) (run : GateRun) : GateEvent → GateRun
  | .enter call => { run with calls := run.calls ++ [call] }
  | .round index reading =>
    match run.calls[index]? with
    | none => run
    | some call =>
      match acquireRound maximum run.gate call reading with
      | (gate, .granted permit) =>
        { gate := gate, calls := run.calls.eraseIdx index, permits := permit :: run.permits }
      | (gate, .stopped _) => { run with gate := gate, calls := run.calls.eraseIdx index }
      -- The call sleeps until a permit is dropped, the time is over, or it wakes up by itself.
      | (gate, .waits _) => { run with gate := gate }
  -- Every exit drops the permit, a panic of the adapter and unwinding included.
  | .leave index _ =>
    match run.permits[index]? with
    | none => run
    | some permit =>
      { run with
        gate := dropPermit run.gate permit
        permits := run.permits.eraseIdx index }

def gateRun (maximum : ℕ) (events : List GateEvent) : GateRun :=
  events.foldl (gateStep maximum) .initial

end Wts.Collaboration
