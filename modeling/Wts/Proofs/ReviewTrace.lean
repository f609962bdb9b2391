/-
Module: Wts.Proofs.ReviewTrace
Purpose: The incremental reading of a review trace.
Trusted boundary: none
Main exports: incremental_trace_iff
-/
import Wts.App.ReviewTrace

namespace Wts.ReviewTrace

open List

open Collaboration (AgentProvider)

/-! ### Runs with one reader -/

inductive TraceEvent where
  | push (runId : Uuid) (parsed : ParsedStep) (now : Int64)
  | finish (runId : Uuid) (succeeded : Bool)
  | poll

/-- Whether an event carries another run id. -/
def TraceEvent.Stale (current : Uuid) : TraceEvent → Prop
  | .push runId _ _ => runId ≠ current
  | .finish runId _ => runId ≠ current
  | .poll => False

def largest (after : Option UInt32) (steps : List CodeReviewTraceStep) : Option UInt32 :=
  steps.foldl (fun after step => some (max (after.getD 0) step.sequence)) after

/-- A reader that polls with the largest sequence number it has seen. -/
structure TraceReader where
  after : Option UInt32
  held : UInt32 → Option CodeReviewTraceStep

/-- The reader keeps the newest version of each step. -/
def TraceReader.receive (reader : TraceReader) (trace : CodeReviewTrace) : TraceReader where
  after := largest reader.after trace.steps
  held := fun sequence =>
    (trace.steps.find? fun step => step.sequence = sequence).or (reader.held sequence)

/-- The store and its reader, with the sequence numbers given and the steps polled. -/
structure TraceWorld where
  traces : CodeReviewTraceStore
  reader : TraceReader
  sequences : List UInt32
  polled : List CodeReviewTraceStep

section Runs

variable (workspaceId : Uuid)

/-- The sequence number that a push gives, if it is not an update. -/
def newSequence (traces : CodeReviewTraceStore) (runId : Uuid) (parsed : ParsedStep) :
    Option UInt32 :=
  match traces workspaceId with
  | some trace =>
    if trace.runId = runId ∧
        updateLast (sameItem parsed) (updateStep parsed) trace.steps = none then
      some trace.nextSequence
    else none
  | none => none

namespace TraceWorld

def perform (world : TraceWorld) : TraceEvent → TraceWorld
  | .push runId parsed now =>
    { world with
      traces := world.traces.push workspaceId runId parsed now
      sequences := world.sequences ++ (newSequence workspaceId world.traces runId parsed).toList }
  | .finish runId succeeded =>
    { world with traces := world.traces.finish workspaceId runId succeeded }
  | .poll =>
    match world.traces.get workspaceId world.reader.after, world.traces.get workspaceId none with
    | some received, some trace =>
      { world with reader := world.reader.receive received, polled := trace.steps }
    | _, _ => world

def run (world : TraceWorld) (events : List TraceEvent) : TraceWorld :=
  events.foldl (perform workspaceId) world

/-- The steps that the reader holds, without the dropped ones, are those of the trace. -/
def Agrees (world : TraceWorld) : Prop :=
  ∀ trace, world.traces.get workspaceId none = some trace → ∀ sequence,
    (if sequence ≤ trace.droppedSteps then none else world.reader.held sequence) =
      trace.steps.find? fun step => step.sequence = sequence

/-- No step of the last poll has changed since, unless it is running. -/
def Settled (world : TraceWorld) : Prop :=
  ∀ trace, world.traces workspaceId = some trace → ∀ step ∈ trace.steps, ∀ old ∈ world.polled,
    old.sequence = step.sequence → step = old ∨ step.running = true

end TraceWorld

open TraceWorld

/-- The reader agrees with the trace after each poll. -/
def Faithful : TraceWorld → List TraceEvent → Prop
  | _, [] => True
  | world, event :: rest =>
    (event = .poll → (world.perform workspaceId event).Agrees workspaceId) ∧
      Faithful (world.perform workspaceId event) rest

/-- The trace is settled before each poll. -/
def SettledAtPolls : TraceWorld → List TraceEvent → Prop
  | _, [] => True
  | world, event :: rest =>
    (event = .poll → world.Settled workspaceId) ∧
      SettledAtPolls (world.perform workspaceId event) rest

/-- Events with another run id change nothing. -/
def StaleIgnored (current : Uuid) : TraceWorld → List TraceEvent → Prop
  | _, [] => True
  | world, event :: rest =>
    (event.Stale current → world.perform workspaceId event = world) ∧
      StaleIgnored current (world.perform workspaceId event) rest

def begun (traces : CodeReviewTraceStore) (provider : AgentProvider) (model : Option String)
    (runId : Uuid) (now : Int64) : TraceWorld where
  traces := traces.beginRun workspaceId provider model runId now
  reader := { after := none, held := fun _ => none }
  sequences := []
  polled := []

end Runs

theorem updateLast_map {α β : Type} {found : α → Bool} {update : α → α} {items updated : List α}
    (isUpdated : updateLast found update items = some updated) {key : α → β}
    (same : ∀ item, key (update item) = key item) : updated.map key = items.map key := by
  induction items generalizing updated with
  | nil => cases isUpdated
  | cons item rest ih =>
    rw [updateLast] at isUpdated
    cases isRest : updateLast found update rest with
    | some others =>
      rw [isRest] at isUpdated
      cases isUpdated
      rw [map_cons, map_cons, ih isRest]
    | none =>
      rw [isRest] at isUpdated
      simp only at isUpdated
      split at isUpdated
      · cases isUpdated
        rw [map_cons, map_cons, same]
      cases isUpdated

/-- The steps are numbered one after the other, from the one after the dropped ones. -/
def Numbered (dropped : ℕ) (steps : List CodeReviewTraceStep) : Prop :=
  steps.map (fun step => step.sequence.toNat) = List.range' (dropped + 1) steps.length

variable {dropped given : ℕ} {steps : List CodeReviewTraceStep}

section

variable (numbered : Numbered dropped steps)
include numbered

theorem Numbered.bounds {step : CodeReviewTraceStep} (member : step ∈ steps) :
    dropped < step.sequence.toNat ∧ step.sequence.toNat ≤ dropped + steps.length := by
  have inRange : step.sequence.toNat ∈ List.range' (dropped + 1) steps.length :=
    numbered ▸ mem_map_of_mem member
  rw [mem_range'_1] at inRange
  omega

theorem Numbered.exists_step {sequence : UInt32} (above : dropped < sequence.toNat)
    (below : sequence.toNat ≤ dropped + steps.length) :
    ∃ step ∈ steps, step.sequence = sequence := by
  have inRange : sequence.toNat ∈ List.range' (dropped + 1) steps.length := by
    rw [mem_range'_1]
    omega
  rw [← numbered] at inRange
  obtain ⟨step, member, same⟩ := mem_map.1 inRange
  exact ⟨step, member, UInt32.toNat_inj.1 same⟩

theorem Numbered.unique {first second : CodeReviewTraceStep}
    (isFirst : first ∈ steps) (isSecond : second ∈ steps) (same : first.sequence = second.sequence) :
    first = second := by
  have distinct : (steps.map fun step => step.sequence.toNat).Nodup := by
    rw [numbered]
    exact nodup_range'
  exact inj_on_of_nodup_map distinct isFirst isSecond (congrArg UInt32.toNat same)

theorem Numbered.exists_last (nonempty : steps ≠ []) :
    ∃ step ∈ steps, step.sequence.toNat = dropped + steps.length := by
  have positive := length_pos_of_ne_nil nonempty
  have inRange : dropped + steps.length ∈ List.range' (dropped + 1) steps.length := by
    rw [mem_range'_1]
    omega
  rw [← numbered] at inRange
  exact mem_map.1 inRange

theorem Numbered.find {kept : List CodeReviewTraceStep}
    (subset : kept ⊆ steps) {step : CodeReviewTraceStep} (member : step ∈ kept) :
    (kept.find? fun other => other.sequence = step.sequence) = some step := by
  cases found : kept.find? fun other => other.sequence = step.sequence with
  | none =>
    rw [find?_eq_none] at found
    exact absurd rfl (of_decide_eq_false (eq_false_of_ne_true (found step member)))
  | some other =>
    have same : other.sequence = step.sequence := by simpa using find?_some found
    rw [numbered.unique (subset (mem_of_find?_eq_some found)) (subset member) same]

end

theorem largest_le {after : Option UInt32} {bound : ℕ}
    (start : (after.getD 0).toNat ≤ bound) (each : ∀ step ∈ steps, step.sequence.toNat ≤ bound) :
    ((largest after steps).getD 0).toNat ≤ bound := by
  induction steps generalizing after with
  | nil => exact start
  | cons step rest ih =>
    refine @ih (some (max (after.getD 0) step.sequence)) ?_
      fun other member => each other (mem_cons_of_mem _ member)
    rw [Option.getD_some, UInt32.toNat_max]
    exact max_le start (each step mem_cons_self)

theorem le_largest (after : Option UInt32) (steps : List CodeReviewTraceStep) :
    (after.getD 0).toNat ≤ ((largest after steps).getD 0).toNat ∧
      ∀ step ∈ steps, step.sequence.toNat ≤ ((largest after steps).getD 0).toNat := by
  induction steps generalizing after with
  | nil => exact ⟨le_rfl, fun _ none => absurd none not_mem_nil⟩
  | cons step rest ih =>
    obtain ⟨first, others⟩ := ih (some (max (after.getD 0) step.sequence))
    rw [Option.getD_some, UInt32.toNat_max] at first
    refine ⟨le_trans (le_max_left _ _) first, fun other member => ?_⟩
    rcases mem_cons.1 member with rfl | inside
    · exact le_trans (le_max_right _ _) first
    exact others other inside

/-- The trace of the current run: `given` steps were added, and it keeps the newest ones. -/
structure Numbering (trace : CodeReviewTrace) (given : ℕ) : Prop where
  count : trace.droppedSteps.toNat + trace.steps.length = given
  numbered : Numbered trace.droppedSteps.toNat trace.steps
  keeps : 0 < given → trace.steps ≠ []

variable {trace : CodeReviewTrace}

theorem Numbering.next (numbering : Numbering trace given)
    (room : given + 1 < 2 ^ 32) : trace.nextSequence.toNat = given + 1 := by
  have length : (UInt32.ofNat trace.steps.length).toNat = trace.steps.length :=
    UInt32.toNat_ofNat_of_lt' (by have := numbering.count; change _ < 2 ^ 32; omega)
  rw [CodeReviewTrace.nextSequence, UInt32.toNat_add, UInt32.toNat_add, length, numbering.count]
  change (given % 2 ^ 32 + 1) % 2 ^ 32 = _
  omega

theorem Numbering.append (numbering : Numbering trace given)
    (room : given + 1 < 2 ^ 32) (parsed : ParsedStep) (now : Int64) :
    Numbering (trace.append parsed now) (given + 1) := by
  have count := numbering.count
  have next := numbering.next room
  obtain ⟨added, isAdded⟩ : ∃ added, added = trace.newStep parsed now := ⟨_, rfl⟩
  obtain ⟨excess, isExcess⟩ : ∃ excess, excess = (trace.steps ++ [added]).length - maxSteps :=
    ⟨_, rfl⟩
  have steps : (trace.append parsed now).steps = (trace.steps ++ [added]).drop excess := by
    rw [isExcess, isAdded, CodeReviewTrace.append]
  have length : (trace.steps ++ [added]).length = trace.steps.length + 1 := length_append
  have kept : 0 < maxSteps := by decide
  have dropped : (trace.append parsed now).droppedSteps.toNat =
      trace.droppedSteps.toNat + excess := by
    have fields : (trace.append parsed now).droppedSteps =
        trace.droppedSteps + UInt32.ofNat excess := by
      rw [isExcess, isAdded, CodeReviewTrace.append]
    rw [fields, UInt32.toNat_add, UInt32.toNat_ofNat', Nat.mod_eq_of_lt (by omega : excess < 2 ^ 32)]
    exact Nat.mod_eq_of_lt (by omega)
  have all : (trace.steps ++ [added]).map (fun step => step.sequence.toNat) =
      List.range' (trace.droppedSteps.toNat + 1) (trace.steps ++ [added]).length := by
    have last : added.sequence.toNat = trace.droppedSteps.toNat + 1 + trace.steps.length := by
      rw [isAdded, CodeReviewTrace.newStep, next]
      omega
    rw [map_append, numbering.numbered, length, range'_1_concat, map_singleton, last]
  constructor
  · rw [steps, dropped, length_drop]
    omega
  · have start : trace.droppedSteps.toNat + 1 + excess * 1 =
        trace.droppedSteps.toNat + excess + 1 := by omega
    rw [Numbered, steps, dropped, map_drop, all, drop_range', length_drop, start]
  intro _ none
  have := congrArg List.length none
  rw [steps, length_drop, length_nil] at this
  omega

theorem Numbering.of_same {changed : CodeReviewTrace}
    (numbering : Numbering trace given) (dropped : changed.droppedSteps = trace.droppedSteps)
    (same : changed.steps.map CodeReviewTraceStep.sequence =
      trace.steps.map CodeReviewTraceStep.sequence) : Numbering changed given := by
  have length : changed.steps.length = trace.steps.length := by
    simpa using congrArg List.length same
  have numbers : changed.steps.map (fun step => step.sequence.toNat) =
      trace.steps.map fun step => step.sequence.toNat := by
    have mapped := congrArg (List.map UInt32.toNat) same
    rw [map_map, map_map] at mapped
    exact mapped
  constructor
  · rw [dropped, length]
    exact numbering.count
  · rw [Numbered, dropped, length, numbers]
    exact numbering.numbered
  intro positive none
  rw [none, length_nil] at length
  exact numbering.keeps positive (length_eq_zero_iff.1 length.symm)

theorem Numbering.finish (numbering : Numbering trace given)
    (succeeded : Bool) : Numbering (trace.finish succeeded) given := by
  refine numbering.of_same rfl ?_
  rw [CodeReviewTrace.finish, map_map]
  rfl

section World

variable {workspaceId runId : Uuid} {world : TraceWorld} {trace : CodeReviewTrace}

/-- The trace of the workspace is the one of the run. -/
structure Current (workspaceId runId : Uuid) (world : TraceWorld) (trace : CodeReviewTrace) :
    Prop where
  stored : world.traces workspaceId = some trace
  current : trace.runId = runId

structure Tracks (workspaceId runId : Uuid) (world : TraceWorld) (trace : CodeReviewTrace) : Prop
    extends Current workspaceId runId world trace where
  numbering : Numbering trace world.sequences.length
  polled : ∃ dropped, Numbered dropped world.polled ∧ dropped ≤ trace.droppedSteps.toNat ∧
    (world.reader.after.getD 0).toNat = dropped + world.polled.length ∧
    dropped + world.polled.length ≤ world.sequences.length

/-- The reader holds the steps of the last poll. -/
def Holds (world : TraceWorld) : Prop :=
  ∀ dropped, Numbered dropped world.polled →
    (world.reader.after.getD 0).toNat = dropped + world.polled.length → ∀ sequence : UInt32,
      dropped < sequence.toNat →
        world.reader.held sequence = world.polled.find? fun step => step.sequence = sequence

theorem Current.get (isCurrent : Current workspaceId runId world trace) (after : Option UInt32) :
    world.traces.get workspaceId after = some (trace.since after) := by
  rw [CodeReviewTraceStore.get, isCurrent.stored]
  rfl

variable {traces : CodeReviewTraceStore}

section

variable (stored : traces workspaceId = some trace)
include stored

theorem change_of_current (update : CodeReviewTrace → CodeReviewTrace) :
    traces.change workspaceId trace.runId update workspaceId = some (update trace) := by
  rw [CodeReviewTraceStore.change, stored]
  exact (congrFun (if_pos rfl) workspaceId).trans (Function.update_self ..)

theorem change_of_stale
    {other : Uuid} (stale : other ≠ trace.runId) (update : CodeReviewTrace → CodeReviewTrace) :
    traces.change workspaceId other update = traces := by
  rw [CodeReviewTraceStore.change, stored]
  exact if_neg stale.symm

theorem newSequence_of_stale {other : Uuid} (stale : other ≠ trace.runId)
    (parsed : ParsedStep) : newSequence workspaceId traces other parsed = none := by
  rw [newSequence, stored]
  exact if_neg fun both => stale both.1.symm

end

theorem Current.stale (isCurrent : Current workspaceId runId world trace) {event : TraceEvent}
    (stale : event.Stale runId) : world.perform workspaceId event = world := by
  have stored := isCurrent.stored
  cases event with
  | push other parsed now =>
    have different : other ≠ trace.runId := fun same => stale (same.trans isCurrent.current)
    rw [TraceWorld.perform, CodeReviewTraceStore.push, change_of_stale stored different,
      newSequence_of_stale stored different]
    simp
  | finish other succeeded =>
    have different : other ≠ trace.runId := fun same => stale (same.trans isCurrent.current)
    rw [TraceWorld.perform, CodeReviewTraceStore.finish, change_of_stale stored different]
  | poll => cases stale

/-- A push updates a step in place and gives no sequence number, or it appends a step with the next. -/
theorem push_cases (stored : traces workspaceId = some trace) (parsed : ParsedStep) (now : Int64) :
    (∃ steps, updateLast (sameItem parsed) (updateStep parsed) trace.steps = some steps ∧
      trace.push parsed now = { trace with steps := steps } ∧
      newSequence workspaceId traces trace.runId parsed = none) ∨
    (trace.push parsed now = trace.append parsed now ∧
      newSequence workspaceId traces trace.runId parsed = some trace.nextSequence) := by
  rw [newSequence, stored]
  cases updated : updateLast (sameItem parsed) (updateStep parsed) trace.steps with
  | some steps =>
    refine Or.inl ⟨steps, rfl, by rw [CodeReviewTrace.push, updated], if_neg fun both => ?_⟩
    rw [updated] at both
    cases both.2
  | none => exact Or.inr ⟨by rw [CodeReviewTrace.push, updated], if_pos ⟨rfl, updated⟩⟩

theorem Tracks.change (tracks : Tracks workspaceId runId world trace) {changed : CodeReviewTrace}
    {sequences : List UInt32}
    (stored : traces workspaceId = some changed) (current : changed.runId = trace.runId)
    (numbering : Numbering changed sequences.length)
    (dropped : trace.droppedSteps.toNat ≤ changed.droppedSteps.toNat)
    (more : world.sequences.length ≤ sequences.length) :
    Tracks workspaceId runId { world with traces := traces, sequences := sequences } changed := by
  obtain ⟨below, numbered, isBelow, after, within⟩ := tracks.polled
  exact ⟨⟨stored, current.trans tracks.current⟩, numbering,
    below, numbered, isBelow.trans dropped, after, within.trans more⟩

theorem append_dropped (trace : CodeReviewTrace) (parsed : ParsedStep) (now : Int64) {given : ℕ}
    (numbering : Numbering trace given) (room : given + 1 < 2 ^ 32) :
    trace.droppedSteps.toNat ≤ (trace.append parsed now).droppedSteps.toNat := by
  have before := numbering.count
  have after := (numbering.append room parsed now).count
  have length : (trace.append parsed now).steps.length ≤ trace.steps.length + 1 := by
    rw [CodeReviewTrace.append, length_drop, length_append, length_singleton]
    exact Nat.sub_le _ _
  omega

theorem Tracks.update (tracks : Tracks workspaceId runId world trace) {event : TraceEvent}
    (notPoll : event ≠ .poll) (fresh : ¬ event.Stale runId)
    (room : (world.perform workspaceId event).sequences.length < 2 ^ 32) :
    (∃ changed, Tracks workspaceId runId (world.perform workspaceId event) changed) ∧
      (world.perform workspaceId event).reader = world.reader ∧
      (world.perform workspaceId event).polled = world.polled := by
  have stored := tracks.stored
  cases event with
  | poll => exact absurd rfl notPoll
  | finish other succeeded =>
    have same : trace.runId = other := tracks.current.trans (not_not.1 fresh).symm
    subst same
    refine ⟨⟨trace.finish succeeded, ?_⟩, rfl, rfl⟩
    exact tracks.change (change_of_current stored _) rfl (tracks.numbering.finish succeeded)
      le_rfl le_rfl
  | push other parsed now =>
    have same : trace.runId = other := tracks.current.trans (not_not.1 fresh).symm
    subst same
    rcases push_cases stored parsed now with
      ⟨steps, inPlace, pushed, none⟩ | ⟨pushed, isNew⟩
    · refine ⟨⟨trace.push parsed now, ?_⟩, rfl, rfl⟩
      rw [TraceWorld.perform, none, Option.toList_none, append_nil]
      have numbering : Numbering (trace.push parsed now) world.sequences.length := by
        rw [pushed]
        exact tracks.numbering.of_same rfl (updateLast_map inPlace fun _ => rfl)
      exact tracks.change (change_of_current stored _) (by rw [pushed]) numbering
        (by rw [pushed]) le_rfl
    rw [TraceWorld.perform, isNew, Option.toList_some, length_append, length_singleton] at room
    refine ⟨⟨trace.push parsed now, ?_⟩, rfl, rfl⟩
    rw [TraceWorld.perform, isNew, Option.toList_some]
    refine tracks.change (change_of_current stored _)
      (by rw [pushed, CodeReviewTrace.append]) ?_ ?_ ?_
    · rw [pushed, length_append, length_singleton]
      exact tracks.numbering.append room parsed now
    · rw [pushed]
      exact append_dropped trace parsed now tracks.numbering room
    rw [length_append]
    exact Nat.le_add_right _ _

/-! ### Polls -/

theorem Current.perform_poll (isCurrent : Current workspaceId runId world trace) :
    world.perform workspaceId .poll = { world with
        reader := world.reader.receive (trace.since world.reader.after)
        polled := trace.steps } := by
  rw [TraceWorld.perform, isCurrent.get, isCurrent.get]
  rfl

theorem mem_since {given : ℕ} (numbering : Numbering trace given) (after : Option UInt32)
    {step : CodeReviewTraceStep} : step ∈ (trace.since after).steps ↔ step ∈ trace.steps ∧
      ((after.getD 0).toNat < step.sequence.toNat ∨ step.running = true) := by
  cases after with
  | none =>
    refine ⟨fun member => ⟨member, Or.inl ?_⟩, fun both => both.1⟩
    exact Nat.lt_of_le_of_lt (Nat.zero_le _) (numbering.numbered.bounds member).1
  | some after =>
    rw [CodeReviewTrace.since, mem_filter, Bool.or_eq_true, decide_eq_true_eq,
      UInt32.lt_iff_toNat_lt, Option.getD_some]

theorem find_eq_none {steps : List CodeReviewTraceStep} {sequence : UInt32}
    (absent : ∀ step ∈ steps, step.sequence ≠ sequence) :
    (steps.find? fun step => step.sequence = sequence) = none := by
  rw [find?_eq_none]
  intro step member same
  exact absent step member (of_decide_eq_true same)

section

variable (tracks : Tracks workspaceId runId world trace)
include tracks

theorem Tracks.agrees_iff (holds : Holds world) :
    (world.perform workspaceId .poll).Agrees workspaceId ↔ world.Settled workspaceId := by
  have numbered := tracks.numbering.numbered
  have count := tracks.numbering.count
  obtain ⟨below, polled, isBelow, after, within⟩ := tracks.polled
  have held := holds below polled after
  have subset : (trace.since world.reader.after).steps ⊆ trace.steps := fun step member =>
    ((mem_since tracks.numbering _).1 member).1
  have agrees : (world.perform workspaceId .poll).Agrees workspaceId ↔ ∀ sequence,
      (if sequence ≤ trace.droppedSteps then none else
        ((trace.since world.reader.after).steps.find? fun step => step.sequence = sequence).or
          (world.reader.held sequence)) =
        trace.steps.find? fun step => step.sequence = sequence := by
    rw [tracks.perform_poll, TraceWorld.Agrees]
    constructor
    · exact fun all => all trace (tracks.get none)
    intro all other isOther
    rw [tracks.get none] at isOther
    cases isOther
    exact all
  rw [agrees]
  constructor
  · intro all other isOther step member old isOld same
    cases tracks.stored.symm.trans isOther
    by_contra changed
    obtain ⟨different, still⟩ := not_or.1 changed
    have above := (numbered.bounds member).1
    have atMost := (polled.bounds isOld).2
    have beneath := (polled.bounds isOld).1
    have notDropped : ¬ step.sequence ≤ trace.droppedSteps := by
      rw [UInt32.le_iff_toNat_le]
      omega
    have notSent : ((trace.since world.reader.after).steps.find? fun other =>
        other.sequence = step.sequence) = none := by
      refine find_eq_none fun sent isSent sameSequence => ?_
      have isStep := numbered.unique (subset isSent) member sameSequence
      rcases ((mem_since tracks.numbering _).1 isSent).2 with later | running
      · rw [isStep, ← same] at later
        omega
      exact still (isStep ▸ running)
    have atStep := all step.sequence
    rw [if_neg notDropped, notSent, Option.none_or, held _ (same ▸ beneath),
      numbered.find (List.Subset.refl _) member, ← same,
      polled.find (List.Subset.refl _) isOld] at atStep
    exact different (Option.some_inj.1 atStep).symm
  intro settled sequence
  by_cases dropped : sequence ≤ trace.droppedSteps
  · rw [if_pos dropped, find_eq_none]
    rintro step member rfl
    rw [UInt32.le_iff_toNat_le] at dropped
    exact absurd dropped (Nat.not_le.2 (numbered.bounds member).1)
  rw [if_neg dropped]
  rw [UInt32.le_iff_toNat_le, Nat.not_le] at dropped
  by_cases given : sequence.toNat ≤ trace.droppedSteps.toNat + trace.steps.length
  · obtain ⟨step, member, rfl⟩ := numbered.exists_step dropped given
    rw [numbered.find (List.Subset.refl _) member]
    by_cases sent : step ∈ (trace.since world.reader.after).steps
    · rw [numbered.find subset sent]
      rfl
    have notSent : ((trace.since world.reader.after).steps.find? fun other =>
        other.sequence = step.sequence) = none := by
      refine find_eq_none fun other isOther same => ?_
      exact sent (numbered.unique (subset isOther) member same ▸ isOther)
    rw [mem_since tracks.numbering] at sent
    obtain ⟨earlier, still⟩ := not_or.1 fun either => sent ⟨member, either⟩
    obtain ⟨old, isOld, same⟩ := polled.exists_step (isBelow.trans_lt dropped)
      (after ▸ Nat.not_lt.1 earlier)
    have unchanged := (settled trace tracks.stored step member old isOld same).resolve_right still
    rw [notSent, Option.none_or, held _ (isBelow.trans_lt dropped), ← same,
      polled.find (List.Subset.refl _) isOld, unchanged]
  have absent : ∀ step ∈ trace.steps, step.sequence ≠ sequence := by
    rintro step member rfl
    exact given (numbered.bounds member).2
  have neverHeld : ∀ step ∈ world.polled, step.sequence ≠ sequence := by
    rintro step member rfl
    have := (polled.bounds member).2
    omega
  rw [find_eq_none absent, find_eq_none fun step member => absent step (subset member),
    Option.none_or, held _ (isBelow.trans_lt dropped), find_eq_none neverHeld]

theorem Tracks.after_poll : ((world.perform workspaceId .poll).reader.after.getD 0).toNat =
      trace.droppedSteps.toNat + trace.steps.length := by
  have numbered := tracks.numbering.numbered
  have count := tracks.numbering.count
  obtain ⟨below, polled, isBelow, after, within⟩ := tracks.polled
  rw [tracks.perform_poll]
  change ((largest world.reader.after (trace.since world.reader.after).steps).getD 0).toNat = _
  obtain ⟨kept, received⟩ := le_largest world.reader.after (trace.since world.reader.after).steps
  apply le_antisymm
  · refine largest_le (by omega) fun step member => ?_
    exact (numbered.bounds ((mem_since tracks.numbering _).1 member).1).2
  by_cases none : trace.steps = []
  · have nothing : ¬ 0 < world.sequences.length := fun some => tracks.numbering.keeps some none
    omega
  obtain ⟨step, member, last⟩ := numbered.exists_last none
  rw [← last]
  by_cases sent : step ∈ (trace.since world.reader.after).steps
  · exact received step sent
  rw [mem_since tracks.numbering] at sent
  have earlier := (not_or.1 fun either => sent ⟨member, either⟩).1
  exact (Nat.not_lt.1 earlier).trans kept

theorem Tracks.poll : Tracks workspaceId runId (world.perform workspaceId .poll) trace := by
  have after := tracks.after_poll
  rw [tracks.perform_poll] at after ⊢
  exact ⟨⟨tracks.stored, tracks.current⟩, tracks.numbering,
    trace.droppedSteps.toNat, tracks.numbering.numbered, le_rfl, after, tracks.numbering.count.le⟩

theorem Tracks.holds_of_agrees (agrees : (world.perform workspaceId .poll).Agrees workspaceId) :
    Holds (world.perform workspaceId .poll) := by
  intro dropped isDropped after sequence above
  have atSequence := agrees trace (tracks.poll.get none) sequence
  have same : (world.perform workspaceId .poll).polled = trace.steps := by
    rw [tracks.perform_poll]
  rw [tracks.after_poll, same] at after
  have notDropped : ¬ sequence ≤ trace.droppedSteps := by
    rw [UInt32.le_iff_toNat_le]
    omega
  rw [if_neg notDropped] at atSequence
  rw [same]
  exact atSequence

end

theorem sequences_perform (workspaceId : Uuid) (world : TraceWorld) (event : TraceEvent) :
    ∃ more, (world.perform workspaceId event).sequences = world.sequences ++ more := by
  cases event with
  | push runId parsed now => exact ⟨_, rfl⟩
  | finish runId succeeded => exact ⟨[], (append_nil _).symm⟩
  | poll =>
    refine ⟨[], ?_⟩
    rw [append_nil, TraceWorld.perform]
    split <;> rfl

theorem sequences_run (workspaceId : Uuid) (world : TraceWorld) (events : List TraceEvent) :
    ∃ more, (world.run workspaceId events).sequences = world.sequences ++ more := by
  induction events generalizing world with
  | nil => exact ⟨[], (append_nil _).symm⟩
  | cons event rest ih =>
    obtain ⟨first, isFirst⟩ := sequences_perform workspaceId world event
    obtain ⟨others, isOthers⟩ := ih (world.perform workspaceId event)
    refine ⟨first ++ others, ?_⟩
    rw [← append_assoc, ← isFirst]
    exact isOthers

theorem Tracks.faithful_iff (tracks : Tracks workspaceId runId world trace) (holds : Holds world)
    {events : List TraceEvent} (room : (world.run workspaceId events).sequences.length < 2 ^ 32) :
    Faithful workspaceId world events ↔ SettledAtPolls workspaceId world events := by
  induction events generalizing world trace with
  | nil => rfl
  | cons event rest ih =>
    rw [Faithful, SettledAtPolls]
    have roomRest : ((world.perform workspaceId event).run workspaceId rest).sequences.length <
        2 ^ 32 := room
    by_cases isPoll : event = .poll
    · subst isPoll
      rw [imp_iff_right rfl, imp_iff_right rfl, tracks.agrees_iff holds]
      refine and_congr_right fun settled => ?_
      exact ih tracks.poll (tracks.holds_of_agrees ((tracks.agrees_iff holds).2 settled)) roomRest
    refine and_congr (iff_of_true (fun same => absurd same isPoll) fun same => absurd same isPoll) ?_
    by_cases stale : event.Stale runId
    · rw [tracks.stale stale] at roomRest ⊢
      exact ih tracks holds roomRest
    obtain ⟨more, isMore⟩ := sequences_run workspaceId (world.perform workspaceId event) rest
    rw [isMore, length_append] at roomRest
    obtain ⟨⟨changed, isTracked⟩, reader, polled⟩ := tracks.update isPoll stale (by omega)
    refine ih isTracked ?_ room
    intro dropped isDropped after
    rw [reader, polled] at *
    exact holds dropped isDropped after

/-! ### The numbers that a run gives -/

structure Counts (workspaceId runId : Uuid) (world : TraceWorld) (trace : CodeReviewTrace) : Prop
    extends Current workspaceId runId world trace where
  count : trace.droppedSteps + UInt32.ofNat trace.steps.length =
    UInt32.ofNat world.sequences.length
  sequences : world.sequences =
    (List.range world.sequences.length).map fun given => UInt32.ofNat (given + 1)

theorem append_count (trace : CodeReviewTrace) (parsed : ParsedStep) (now : Int64) :
    (trace.append parsed now).droppedSteps + UInt32.ofNat (trace.append parsed now).steps.length =
      trace.nextSequence := by
  have length : (trace.steps ++ [trace.newStep parsed now]).length = trace.steps.length + 1 :=
    length_append
  rw [CodeReviewTrace.append, CodeReviewTrace.nextSequence, length_drop, UInt32.add_assoc,
    ← UInt32.ofNat_add, Nat.add_sub_of_le (Nat.sub_le _ _), length, UInt32.ofNat_add,
    ← UInt32.add_assoc]
  rfl

section

variable (counts : Counts workspaceId runId world trace)
include counts

theorem Counts.perform (event : TraceEvent) :
    ∃ changed, Counts workspaceId runId (world.perform workspaceId event) changed := by
  have stored := counts.stored
  by_cases stale : event.Stale runId
  · rw [counts.stale stale]
    exact ⟨trace, counts⟩
  cases event with
  | poll =>
    rw [counts.perform_poll]
    exact ⟨trace, ⟨counts.stored, counts.current⟩, counts.count, counts.sequences⟩
  | finish other succeeded =>
    have same : trace.runId = other := counts.current.trans (not_not.1 stale).symm
    subst same
    refine ⟨trace.finish succeeded, ⟨change_of_current stored _, counts.current⟩, ?_,
      counts.sequences⟩
    rw [CodeReviewTrace.finish, length_map]
    exact counts.count
  | push other parsed now =>
    have same : trace.runId = other := counts.current.trans (not_not.1 stale).symm
    subst same
    rcases push_cases stored parsed now with
      ⟨steps, inPlace, pushed, none⟩ | ⟨pushed, isNew⟩
    · have length : steps.length = trace.steps.length := by
        have same := updateLast_map inPlace (fun _ => rfl : ∀ step : CodeReviewTraceStep,
          (updateStep parsed step).sequence = step.sequence)
        simpa using congrArg List.length same
      rw [TraceWorld.perform, none, Option.toList_none, append_nil]
      refine ⟨trace.push parsed now, ⟨change_of_current stored _, ?_⟩, ?_, counts.sequences⟩
      · rw [pushed]
        exact counts.current
      rw [pushed, length]
      exact counts.count
    have next : trace.nextSequence = UInt32.ofNat (world.sequences.length + 1) := by
      rw [CodeReviewTrace.nextSequence, counts.count, UInt32.ofNat_add]
      rfl
    rw [TraceWorld.perform, isNew, Option.toList_some]
    refine ⟨trace.push parsed now, ⟨change_of_current stored _, ?_⟩, ?_, ?_⟩
    · rw [pushed, CodeReviewTrace.append]
      exact counts.current
    · rw [pushed, append_count, next, length_append, length_singleton]
    rw [length_append, length_singleton, range_succ, map_append,
      ← counts.sequences, next, map_singleton]

theorem Counts.run (events : List TraceEvent) :
    ∃ changed, Counts workspaceId runId (world.run workspaceId events) changed := by
  induction events generalizing world trace with
  | nil => exact ⟨trace, counts⟩
  | cons event rest ih =>
    obtain ⟨changed, isChanged⟩ := counts.perform event
    exact ih isChanged

theorem Counts.increasing_iff :
    world.sequences.Pairwise (· < ·) ↔ world.sequences.length < 2 ^ 32 := by
  rw [counts.sequences, length_map, length_range, pairwise_map]
  constructor
  · intro increasing
    by_contra many
    have first : 0 < (List.range world.sequences.length).length := by
      rw [length_range]
      omega
    have last : 2 ^ 32 - 1 < (List.range world.sequences.length).length := by
      rw [length_range]
      omega
    have wrapped := pairwise_iff_getElem.1 increasing 0 (2 ^ 32 - 1) first last (by decide)
    rw [getElem_range, getElem_range] at wrapped
    exact absurd wrapped (by decide)
  intro room
  rw [pairwise_iff_getElem]
  intro i j isLow isHigh before
  rw [length_range] at isHigh
  rw [getElem_range, getElem_range, UInt32.lt_iff_toNat_lt, UInt32.toNat_ofNat',
    UInt32.toNat_ofNat', Nat.mod_eq_of_lt (by omega), Nat.mod_eq_of_lt (by omega)]
  omega

theorem Counts.staleIgnored
    (events : List TraceEvent) : StaleIgnored workspaceId runId world events := by
  induction events generalizing world trace with
  | nil => trivial
  | cons event rest ih =>
    obtain ⟨changed, isChanged⟩ := counts.perform event
    exact ⟨fun stale => counts.stale stale, ih isChanged⟩

end

end World

section Main

variable (traces : CodeReviewTraceStore) (workspaceId : Uuid) (provider : AgentProvider)
  (model : Option String) (runId : Uuid) (now : Int64)

def emptyTrace : CodeReviewTrace where
  workspaceId := workspaceId
  runId := runId
  provider := provider
  model := model
  state := .running
  startedAtUnixMs := now
  steps := []
  droppedSteps := 0

theorem begun_current : Current workspaceId runId
    (begun workspaceId traces provider model runId now)
    (emptyTrace workspaceId provider model runId now) :=
  ⟨Function.update_self .., rfl⟩

theorem begun_tracks : Tracks workspaceId runId (begun workspaceId traces provider model runId now)
    (emptyTrace workspaceId provider model runId now) :=
  ⟨begun_current .., ⟨rfl, rfl, fun positive => absurd positive (lt_irrefl 0)⟩,
    0, rfl, le_rfl, rfl, le_rfl⟩

theorem begun_counts : Counts workspaceId runId (begun workspaceId traces provider model runId now)
    (emptyTrace workspaceId provider model runId now) :=
  ⟨begun_current .., rfl, rfl⟩

/-- Polling with the largest sequence received and merging by sequence gives the full trace after each
poll, with sequence numbers that increase over the whole run and stale calls ignored, exactly when each
step of a poll is unchanged or running at the next one and the numbers are not exhausted. -/
theorem incremental_trace_iff (events : List TraceEvent) :
    (Faithful workspaceId (begun workspaceId traces provider model runId now) events ∧
      ((begun workspaceId traces provider model runId now).run workspaceId events).sequences.Pairwise
        (· < ·) ∧
      StaleIgnored workspaceId runId (begun workspaceId traces provider model runId now) events) ↔
    (SettledAtPolls workspaceId (begun workspaceId traces provider model runId now) events ∧
      ((begun workspaceId traces provider model runId now).run workspaceId events).sequences.length <
        2 ^ 32) := by
  have tracks := begun_tracks traces workspaceId provider model runId now
  have counts := begun_counts traces workspaceId provider model runId now
  obtain ⟨last, atEnd⟩ := counts.run events
  have holds : Holds (begun workspaceId traces provider model runId now) := fun _ _ _ _ _ => rfl
  constructor
  · rintro ⟨faithful, increasing, _⟩
    have room := atEnd.increasing_iff.1 increasing
    exact ⟨(tracks.faithful_iff holds room).1 faithful, room⟩
  · rintro ⟨settled, room⟩
    exact ⟨(tracks.faithful_iff holds room).2 settled, atEnd.increasing_iff.2 room,
      counts.staleIgnored events⟩

end Main

def startedStep : ParsedStep where
  kind := .command
  text := "ls"
  detail := none
  itemId := some "i1"
  running := true

def completedStep : ParsedStep where
  kind := .command
  text := "ls"
  detail := some "1 lines of output"
  itemId := some "i1"
  running := false

def settledLate (runId : Uuid) : List TraceEvent :=
  [.push runId startedStep 0, .poll, .push runId completedStep 1, .poll]
/-- The reader never learns that the command has ended. -/
theorem settled_late_counterexample :
    ¬ ∀ (traces : CodeReviewTraceStore) (workspaceId : Uuid) (provider : AgentProvider)
      (model : Option String) (runId : Uuid) (now : Int64) (events : List TraceEvent),
      Faithful workspaceId (begun workspaceId traces provider model runId now) events ∧
        ((begun workspaceId traces provider model runId now).run workspaceId events).sequences.Pairwise
          (· < ·) ∧
        StaleIgnored workspaceId runId (begun workspaceId traces provider model runId now) events := by
  intro claim
  obtain ⟨⟨_, _, _, agrees, _⟩, _⟩ := claim (fun _ => none) 0 .codex none 1 0 (settledLate 1)
  have held := agrees rfl _ rfl 1
  exact absurd held (by decide +kernel)

end Wts.ReviewTrace
