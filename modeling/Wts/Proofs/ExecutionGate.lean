/-
Module: Wts.Proofs.ExecutionGate
Purpose: The gate counts its permits and keeps their roots apart, over every run of any number of
  callers, and it is back in its initial state when the last permit is dropped.
Trusted boundary: none
Main exports: gate_exclusive, round_grants_iff
-/
import Wts.App.ExecutionGate

namespace Wts.Collaboration

open Std (ExtTreeSet)

/-- Two roots of which neither contains the other. -/
def Apart (left right : PathBuf) : Prop :=
  left.startsWith right = false ∧ right.startsWith left = false

variable {left right root : PathBuf}

theorem apart_iff : Apart left right ↔ pathsOverlap left right = false := by
  simp [Apart, pathsOverlap]

theorem Apart.symm (apart : Apart left right) : Apart right left :=
  ⟨apart.2, apart.1⟩

theorem Apart.ne (apart : Apart left right) : left ≠ right := by
  intro same
  subst same
  have overlap := PathBuf.startsWith_self left
  rw [apart.1] at overlap
  cases overlap

/-- The gate's state is an account of the live permits. -/
structure GateInvariant (maximum : ℕ) (run : GateRun) : Prop where
  bounded : run.gate.active ≤ maximum
  counted : run.gate.active = run.permits.length
  rootsCounted : run.gate.workspaceRoots.size = run.permits.length
  roots : ∀ root, root ∈ run.gate.workspaceRoots ↔ ∃ permit ∈ run.permits, permit.workspaceRoot = root
  apart : run.permits.Pairwise fun first second => Apart first.workspaceRoot second.workspaceRoot

theorem gateInvariant_initial (maximum : ℕ) : GateInvariant maximum .initial where
  bounded := Nat.zero_le _
  counted := rfl
  rootsCounted := rfl
  roots := by
    intro root
    simp [GateRun.initial, ExecutionGateState.empty]
  apart := List.Pairwise.nil

variable {maximum : ℕ}

theorem admits_iff {state : ExecutionGateState} : state.admits maximum root = true ↔
      state.active < maximum ∧ ∀ active ∈ state.workspaceRoots, Apart active root := by
  simp [ExecutionGateState.admits, apart_iff]

theorem acquireRound_cases (maximum : ℕ) (state : ExecutionGateState) (call : AcquireCall)
    (reading : RoundReading) : (state.admits maximum call.workspaceRoot = true ∧
      acquireRound maximum state call reading =
        ({ active := state.active + 1
           workspaceRoots := state.workspaceRoots.insert call.workspaceRoot },
          .granted { workspaceRoot := call.workspaceRoot })) ∨
    (∃ reason, acquireRound maximum state call reading = (state, .stopped reason)) ∨
    ∃ timeout, acquireRound maximum state call reading = (state, .waits timeout) := by
  unfold acquireRound
  split
  · exact .inr (.inl ⟨_, rfl⟩)
  split
  · rename_i admitted
    exact .inl ⟨admitted, rfl⟩
  split
  · exact .inr (.inl ⟨_, rfl⟩)
  exact .inr (.inr ⟨_, rfl⟩)

variable {run : GateRun}

theorem gateInvariant_granted (valid : GateInvariant maximum run)
    (admitted : run.gate.admits maximum root = true) (calls : List AcquireCall) :
    GateInvariant maximum
      { gate := { active := run.gate.active + 1
                  workspaceRoots := run.gate.workspaceRoots.insert root }
        calls := calls
        permits := { workspaceRoot := root } :: run.permits } := by
  obtain ⟨free, others⟩ := admits_iff.1 admitted
  have fresh : root ∉ run.gate.workspaceRoots := by
    intro member
    exact (others root member).ne rfl
  constructor
  · exact free
  · simp [valid.counted]
  · simp [ExtTreeSet.size_insert, fresh, valid.rootsCounted]
  · intro other
    simp only [ExtTreeSet.mem_insert, Std.LawfulEqCmp.compare_eq_iff_eq, valid.roots,
      List.mem_cons, exists_eq_or_imp]
  apply List.Pairwise.cons _ valid.apart
  intro permit member
  exact (others _ ((valid.roots _).2 ⟨permit, member, rfl⟩)).symm

theorem gateInvariant_dropped (valid : GateInvariant maximum run)
    {index : ℕ} {permit : ExecutionPermit} (found : run.permits[index]? = some permit) :
    GateInvariant maximum { run with
        gate := dropPermit run.gate permit
        permits := run.permits.eraseIdx index } := by
  obtain ⟨inside, here⟩ := List.getElem?_eq_some_iff.1 found
  have held : permit.workspaceRoot ∈ run.gate.workspaceRoots :=
    (valid.roots _).2 ⟨permit, List.mem_of_getElem? found, rfl⟩
  have shorter : (run.permits.eraseIdx index).length = run.permits.length - 1 :=
    List.length_eraseIdx_of_lt inside
  have moved : run.permits.Perm (permit :: run.permits.eraseIdx index) := by
    rw [← here]
    exact (List.getElem_cons_eraseIdx_perm inside).symm
  have apart := (moved.pairwise_iff (fun {_ _} (apart : Apart _ _) => apart.symm)).1 valid.apart
  constructor
  · exact le_trans (Nat.sub_le _ _) valid.bounded
  · simp [dropPermit, valid.counted, shorter]
  · simp [dropPermit, ExtTreeSet.size_erase, held, valid.rootsCounted, shorter]
  · intro root
    have before := valid.roots root
    simp only [moved.mem_iff, List.mem_cons, exists_eq_or_imp] at before
    simp only [dropPermit, ExtTreeSet.mem_erase, ne_eq, Std.LawfulEqCmp.compare_eq_iff_eq, before]
    constructor
    · intro ⟨other, present⟩
      exact present.resolve_left other
    intro ⟨live, member, same⟩
    refine ⟨?_, .inr ⟨live, member, same⟩⟩
    rw [← same]
    exact ((List.pairwise_cons.1 apart).1 live member).ne
  exact (List.pairwise_cons.1 apart).2

/-! ### Runs -/

theorem gateInvariant_step (valid : GateInvariant maximum run)
    (event : GateEvent) : GateInvariant maximum (gateStep maximum run event) := by
  cases event with
  | enter call => exact ⟨valid.bounded, valid.counted, valid.rootsCounted, valid.roots, valid.apart⟩
  | round index reading =>
    cases found : run.calls[index]? with
    | none =>
      simp only [gateStep, found]
      exact valid
    | some call =>
      simp only [gateStep, found]
      rcases acquireRound_cases maximum run.gate call reading with
        ⟨admitted, same⟩ | ⟨reason, same⟩ | ⟨timeout, same⟩
      · simp only [same]
        exact gateInvariant_granted valid admitted _
      · simp only [same]
        exact ⟨valid.bounded, valid.counted, valid.rootsCounted, valid.roots, valid.apart⟩
      simp only [same]
      exact valid
  | leave index exit =>
    cases found : run.permits[index]? with
    | none =>
      simp only [gateStep, found]
      exact valid
    | some permit =>
      simp only [gateStep, found]
      exact gateInvariant_dropped valid found

theorem gateInvariant_gateRun (maximum : ℕ) (events : List GateEvent) :
    GateInvariant maximum (gateRun maximum events) := by
  have kept : ∀ (events : List GateEvent) (run : GateRun), GateInvariant maximum run →
      GateInvariant maximum (events.foldl (gateStep maximum) run) := by
    intro events
    induction events with
    | nil =>
      intro run valid
      exact valid
    | cons event rest ih =>
      intro run valid
      exact ih _ (gateInvariant_step valid event)
  exact kept events .initial (gateInvariant_initial maximum)

/-- In every run the gate counts exactly the live permits, at most `maximum` of them; it holds one
root for each, and these are pairwise apart; without permits it is as it was created. -/
theorem gate_exclusive (maximum : ℕ) (events : List GateEvent) :
    (gateRun maximum events).gate.active ≤ maximum ∧
      (gateRun maximum events).gate.active = (gateRun maximum events).permits.length ∧
      (gateRun maximum events).gate.workspaceRoots.size = (gateRun maximum events).permits.length ∧
      (∀ root, root ∈ (gateRun maximum events).gate.workspaceRoots ↔
        ∃ permit ∈ (gateRun maximum events).permits, permit.workspaceRoot = root) ∧
      ((gateRun maximum events).permits.Pairwise fun first second =>
        Apart first.workspaceRoot second.workspaceRoot) ∧
      ((gateRun maximum events).permits = [] →
        (gateRun maximum events).gate = ExecutionGateState.empty) := by
  have valid := gateInvariant_gateRun maximum events
  refine ⟨valid.bounded, valid.counted, valid.rootsCounted, valid.roots, valid.apart, ?_⟩
  intro none
  have idle : (gateRun maximum events).gate.active = 0 := by
    rw [valid.counted, none, List.length_nil]
  have noRoots : (gateRun maximum events).gate.workspaceRoots = ∅ := by
    apply ExtTreeSet.ext_mem
    intro root
    simp [valid.roots, none]
  cases state : (gateRun maximum events).gate with
  | mk active roots =>
    rw [state] at idle noRoots
    simp only at idle noRoots
    rw [idle, noRoots]
    rfl

/-- The gate refuses nothing it could admit: in every reachable state a round that passes its checkpoint
grants the permit exactly when fewer than `maximum` permits are live and the roots of all of them are
apart from the wanted one. -/
theorem round_grants_iff (maximum : ℕ) (events : List GateEvent) (call : AcquireCall)
    (reading : RoundReading) :
    (acquireRound maximum (gateRun maximum events).gate call reading).2 =
        .granted { workspaceRoot := call.workspaceRoot } ↔
      checkpoint reading.cancelled call.deadline reading.checkedAt = .ok () ∧
        (gateRun maximum events).permits.length < maximum ∧
        ∀ permit ∈ (gateRun maximum events).permits,
          Apart permit.workspaceRoot call.workspaceRoot := by
  have valid := gateInvariant_gateRun maximum events
  have admits := @admits_iff call.workspaceRoot maximum (gateRun maximum events).gate
  rw [valid.counted] at admits
  simp only [valid.roots, forall_exists_index, and_imp, forall_apply_eq_imp_iff₂] at admits
  rw [← admits, acquireRound]
  split
  · rename_i reason stopped
    simp [stopped]
  rename_i passed
  split
  · rename_i admitted
    simp [passed, admitted]
  rename_i refused
  split <;> simp [refused]

end Wts.Collaboration
