/-
Module: Wts.Library.Interrupt
Purpose: Programs on a store that outlives them.
-/
import Mathlib

namespace Wts.Interrupt

variable {σ ε α β : Type}

/-- What becomes of one change of the store. -/
inductive Fate where
  | done
  | refused
  | uncertain
  | cutBefore
  | cutAfter

inductive Outcome (ε α : Type) where
  | value (result : α)
  | failed (error : ε)
  | cut
deriving DecidableEq

def Outcome.result? : Outcome ε α → Option α
  | .value result => some result
  | .failed _ => none
  | .cut => none

/-- How a program ends: its outcome, the fates that are left and the store. -/
structure Ending (σ ε α : Type) where
  outcome : Outcome ε α
  fates : List Fate
  store : σ

/-- A program. Once the fates are used up, every change is done. -/
def Proc (σ ε α : Type) : Type := List Fate → σ → Ending σ ε α

namespace Proc

protected def pure (result : α) : Proc σ ε α :=
  fun fates store => { outcome := .value result, fates := fates, store := store }

protected def bind (first : Proc σ ε α) (next : α → Proc σ ε β) : Proc σ ε β := fun fates store =>
  match first fates store with
  | { outcome := .value result, fates := left, store := after } => next result left after
  | { outcome := .failed error, fates := left, store := after } =>
    { outcome := .failed error, fates := left, store := after }
  | { outcome := .cut, fates := left, store := after } =>
    { outcome := .cut, fates := left, store := after }

instance : Monad (Proc σ ε) where
  pure := Proc.pure
  bind := Proc.bind

def fail (error : ε) : Proc σ ε α :=
  fun fates store => { outcome := .failed error, fates := fates, store := store }

def read : Proc σ ε σ :=
  fun fates store => { outcome := .value store, fates := fates, store := store }

def ofExcept : Except ε α → Proc σ ε α
  | .ok result => Proc.pure result
  | .error error => fail error

/-- A step that nothing can interrupt, such as a note about the run. -/
def note (effect : σ → σ) : Proc σ ε Unit :=
  fun fates store => { outcome := .value (), fates := fates, store := effect store }

/-- A change whose success is a value: `false` is a reported failure. -/
def tryChange (effect : σ → σ) : Proc σ ε Bool := fun fates store =>
  match fates with
  | [] => { outcome := .value true, fates := [], store := effect store }
  | .done :: left => { outcome := .value true, fates := left, store := effect store }
  | .refused :: left => { outcome := .value false, fates := left, store := store }
  | .uncertain :: left => { outcome := .value false, fates := left, store := effect store }
  | .cutBefore :: left => { outcome := .cut, fates := left, store := store }
  | .cutAfter :: left => { outcome := .cut, fates := left, store := effect store }

/-- The program that goes on with the error of another one. A cut ends both. -/
def attempt {δ : Type} (program : Proc σ ε α) : Proc σ δ (Except ε α) := fun fates store =>
  match program fates store with
  | { outcome := .value result, fates := left, store := after } =>
    { outcome := .value (.ok result), fates := left, store := after }
  | { outcome := .failed error, fates := left, store := after } =>
    { outcome := .value (.error error), fates := left, store := after }
  | { outcome := .cut, fates := left, store := after } =>
    { outcome := .cut, fates := left, store := after }

/-- A program on a part of the store. -/
def zoom {τ : Type} (get : σ → τ) (set : τ → σ → σ) (program : Proc τ ε α) : Proc σ ε α :=
  fun fates store =>
    match program fates (get store) with
    | { outcome := outcome, fates := left, store := after } =>
      { outcome := outcome, fates := left, store := set after store }

/-- A change that fails with an error. -/
def change (error : ε) (effect : σ → σ) : Proc σ ε Unit :=
  Proc.bind (tryChange effect) fun success => if success then Proc.pure () else fail error

end Proc

open Proc

theorem bind_eq_ok {read : Except ε α} {next : α → Except ε β} {result : β} :
    (read >>= next) = .ok result ↔ ∃ value, read = .ok value ∧ next value = .ok result := by
  cases read with
  | ok value => simp [bind, Except.bind]
  | error error => simp [bind, Except.bind]

/-- The program ends with `post`, or stops, by an error or a cut, with `stop`. -/
def Ends (program : Proc σ ε α) (fates : List Fate) (store : σ) (post : α → List Fate → σ → Prop)
    (stop : Option ε → σ → Prop) : Prop :=
  match program fates store with
  | { outcome := .value result, fates := left, store := after } => post result left after
  | { outcome := .failed error, fates := _, store := after } => stop (some error) after
  | { outcome := .cut, fates := _, store := after } => stop none after

variable {condition : Prop}

section Ends

variable {fates : List Fate} {store : σ} {post : α → List Fate → σ → Prop}
  {stop : Option ε → σ → Prop}

theorem Ends.pure {result : α} (holds : post result fates store) :
    Ends (pure result : Proc σ ε α) fates store post stop :=
  holds

variable {error : ε}

theorem Ends.fail (holds : stop (some error) store) :
    Ends (fail error : Proc σ ε α) fates store post stop :=
  holds

theorem Ends.read {post : σ → List Fate → σ → Prop} (holds : post store fates store) :
    Ends (read : Proc σ ε σ) fates store post stop :=
  holds

variable {effect : σ → σ}

theorem Ends.note {post : Unit → List Fate → σ → Prop} (holds : post () fates (effect store)) :
    Ends (note effect : Proc σ ε Unit) fates store post stop :=
  holds

theorem Ends.ofExcept {result : Except ε α} (value : ∀ a, result = .ok a → post a fates store)
    (error : ∀ e, result = .error e → stop (some e) store) :
    Ends (ofExcept result : Proc σ ε α) fates store post stop := by
  cases result with
  | ok a => exact value a rfl
  | error e => exact error e rfl

variable {program : Proc σ ε α}

theorem Ends.mono {weaker : α → List Fate → σ → Prop}
    {weakerStop : Option ε → σ → Prop} (ends : Ends program fates store post stop)
    (value : ∀ result left after, post result left after → weaker result left after)
    (stopped : ∀ error after, stop error after → weakerStop error after) :
    Ends program fates store weaker weakerStop := by
  unfold Ends at ends ⊢
  split at ends
  · exact value _ _ _ ends
  · exact stopped _ _ ends
  exact stopped _ _ ends

theorem Ends.bind {first : Proc σ ε α} {next : α → Proc σ ε β} {post : β → List Fate → σ → Prop}
    (ends : Ends first fates store (fun result left after => Ends (next result) left after post stop)
      stop) : Ends (first >>= next) fates store post stop := by
  show Ends (Proc.bind first next) fates store post stop
  simp only [Ends, Proc.bind] at ends ⊢
  split at ends
  · exact ends
  · exact ends
  exact ends

/-! The rules for one step and what follows it; the ways in which the step stops come first. -/

section Steps

variable {next : α → Proc σ ε β} {post : β → List Fate → σ → Prop}

theorem Ends.bind_mono {first : Proc σ ε α} {middle : α → List Fate → σ → Prop}
    {middleStop : Option ε → σ → Prop} (ends : Ends first fates store middle middleStop)
    (stopped : ∀ error after, middleStop error after → stop error after)
    (value : ∀ result left after, middle result left after →
      Ends (next result) left after post stop) : Ends (first >>= next) fates store post stop :=
  Ends.bind (ends.mono value stopped)

theorem Ends.bind_read {next : σ → Proc σ ε β} (ends : Ends (next store) fates store post stop) :
    Ends (Proc.read >>= next) fates store post stop :=
  Ends.bind (Ends.read ends)

theorem Ends.bind_note {next : Unit → Proc σ ε β}
    (ends : Ends (next ()) fates (effect store) post stop) :
    Ends (Proc.note effect >>= next) fates store post stop :=
  Ends.bind (Ends.note ends)

theorem Ends.bind_ofExcept {result : Except ε α} (error : ∀ e, result = .error e → stop (some e) store)
    (value : ∀ a, result = .ok a → Ends (next a) fates store post stop) :
    Ends (Proc.ofExcept result >>= next) fates store post stop :=
  Ends.bind (Ends.ofExcept value error)

end Steps

theorem Ends.ite [Decidable condition] {first second : Proc σ ε α}
    (yes : condition → Ends first fates store post stop)
    (no : ¬condition → Ends second fates store post stop) :
    Ends (if condition then first else second) fates store post stop := by
  split
  · rename_i holds
    exact yes holds
  rename_i fails
  exact no fails

theorem Ends.guard [Decidable condition] {next : Proc σ ε α}
    (stopped : stop (some error) store) (passes : ¬condition → Ends next fates store post stop) :
    Ends (if condition then Proc.fail error else next) fates store post stop :=
  Ends.ite (fun _ => Ends.fail stopped) passes

theorem Ends.tryChange {post : Bool → List Fate → σ → Prop}
    (success : ∀ left, post true left (effect store)) (refused : ∀ left, post false left store)
    (uncertain : ∀ left, post false left (effect store)) (before : stop none store)
    (after : stop none (effect store)) :
    Ends (tryChange effect : Proc σ ε Bool) fates store post stop := by
  cases fates with
  | nil => exact success []
  | cons fate left =>
    cases fate with
    | done => exact success left
    | refused => exact refused left
    | uncertain => exact uncertain left
    | cutBefore => exact before
    | cutAfter => exact after

theorem Ends.change {post : Unit → List Fate → σ → Prop}
    (success : ∀ left, post () left (effect store)) (before : ∀ stopped, stop stopped store)
    (after : ∀ stopped, stop stopped (effect store)) :
    Ends (change error effect : Proc σ ε Unit) fates store post stop := by
  apply Ends.bind
  apply Ends.tryChange
  · intro left
    exact success left
  · intro left
    exact before (some error)
  · intro left
    exact after (some error)
  · exact before none
  exact after none

theorem Ends.bind_change {next : Unit → Proc σ ε β} {post : β → List Fate → σ → Prop}
    (before : ∀ stopped, stop stopped store) (after : ∀ stopped, stop stopped (effect store))
    (success : ∀ left, Ends (next ()) left (effect store) post stop) :
    Ends (Proc.change error effect >>= next) fates store post stop :=
  Ends.bind (Ends.change success before after)

theorem Ends.attempt {δ : Type} {post : Except ε α → List Fate → σ → Prop}
    {stop : Option δ → σ → Prop}
    (ends : Ends program fates store (fun result left after => post (.ok result) left after)
      fun stopped after => match stopped with
        | some error => ∀ left, post (.error error) left after
        | none => stop none after) :
    Ends (attempt program : Proc σ δ (Except ε α)) fates store post stop := by
  simp only [Ends, Proc.attempt] at ends ⊢
  split at ends
  · exact ends
  · exact ends _
  exact ends

theorem Ends.zoom {τ : Type} {get : σ → τ} {set : τ → σ → σ} {program : Proc τ ε α}
    (ends : Ends program fates (get store)
      (fun result left after => post result left (set after store))
      fun stopped after => stop stopped (set after store)) :
    Ends (zoom get set program) fates store post stop := by
  cases ended : program fates (get store) with
  | mk outcome left after =>
    simp only [Ends, Proc.zoom, ended] at ends ⊢
    cases outcome with
    | value result => exact ends
    | failed error => exact ends
    | cut => exact ends

theorem Ends.change_of_fate {post : Unit → List Fate → σ → Prop}
    (success : ∀ left, (fates = [] ∧ left = []) ∨ fates = .done :: left →
      post () left (effect store))
    (before : ∀ left, fates = .refused :: left ∨ fates = .cutBefore :: left →
      ∀ stopped, stop stopped store)
    (after : ∀ left, fates = .uncertain :: left ∨ fates = .cutAfter :: left →
      ∀ stopped, stop stopped (effect store)) :
    Ends (Proc.change error effect : Proc σ ε Unit) fates store post stop := by
  cases fates with
  | nil => exact success [] (.inl ⟨rfl, rfl⟩)
  | cons fate left =>
    cases fate with
    | done => exact success left (.inr rfl)
    | refused => exact before left (.inl rfl) (some error)
    | uncertain => exact after left (.inl rfl) (some error)
    | cutBefore => exact before left (.inr rfl) none
    | cutAfter => exact after left (.inr rfl) none

theorem ends_iff : Ends program fates store post stop ↔ (∀ result left after, program fates store =
        { outcome := .value result, fates := left, store := after } → post result left after) ∧
      (∀ error left after, program fates store =
        { outcome := .failed error, fates := left, store := after } → stop (some error) after) ∧
      ∀ left after, program fates store = { outcome := .cut, fates := left, store := after } →
        stop none after := by
  unfold Ends
  split
  · rename_i same
    simp [same]
  · rename_i same
    simp [same]
  rename_i same
  simp [same]

theorem Ends.always (value : ∀ result left after, post result left after)
    (stopped : ∀ error after, stop error after) : Ends program fates store post stop := by
  unfold Ends
  split
  · exact value _ _ _
  · exact stopped _ _
  exact stopped _ _

theorem Ends.after (holds : σ → Prop)
    (ends : Ends program fates store (fun _ _ after => holds after) fun _ after => holds after) :
    holds (program fates store).store := by
  unfold Ends at ends
  split at ends
  · rename_i same
    rw [same]
    exact ends
  · rename_i same
    rw [same]
    exact ends
  rename_i same
  rw [same]
  exact ends

theorem Ends.returns (ends : Ends program fates store post fun _ _ => False) :
    ∃ result left after, post result left after ∧
      program fates store = { outcome := .value result, fates := left, store := after } := by
  unfold Ends at ends
  split at ends
  · rename_i result left after same
    exact ⟨result, left, after, ends, same⟩
  · exact ends.elim
  exact ends.elim

end Ends

/-- The program leaves the store as it is, and what it returns holds of the store. -/
def Reads (program : Proc σ ε α) (holds : α → σ → Prop) : Prop :=
  ∀ fates store, Ends program fates store (fun result _ after => after = store ∧ holds result store)
    fun _ after => after = store

variable {weaker : α → σ → Prop}

section Reads

variable {fates : List Fate} {store : σ} {post : β → List Fate → σ → Prop}
  {stop : Option ε → σ → Prop} {holds : α → σ → Prop}

theorem Reads.pure {result : α} (fact : ∀ store, holds result store) :
    Reads (pure result : Proc σ ε α) holds :=
  fun _ store => ⟨rfl, fact store⟩

theorem Reads.fail {error : ε} : Reads (fail error : Proc σ ε α) holds :=
  fun _ _ => rfl

theorem Reads.read : Reads (read : Proc σ ε σ) fun seen store => seen = store :=
  fun _ _ => ⟨rfl, rfl⟩

theorem Reads.tryChange {effect : σ → σ} (unchanged : ∀ store, effect store = store) :
    Reads (tryChange effect : Proc σ ε Bool) fun _ _ => True := by
  intro fates store
  apply Ends.tryChange
  · exact fun _ => ⟨unchanged store, trivial⟩
  · exact fun _ => ⟨rfl, trivial⟩
  · exact fun _ => ⟨unchanged store, trivial⟩
  · rfl
  exact unchanged store

theorem Reads.ofExcept {result : Except ε α} (fact : ∀ a, result = .ok a → ∀ store, holds a store) :
    Reads (ofExcept result : Proc σ ε α) holds := by
  intro fates store
  apply Ends.ofExcept
  · intro a same
    exact ⟨rfl, fact a same store⟩
  intro error same
  rfl

theorem Reads.mono {program : Proc σ ε α} (reads : Reads program holds)
    (fact : ∀ result store, holds result store → weaker result store) : Reads program weaker := by
  intro fates store
  apply Ends.mono (reads fates store)
  · intro result left after ⟨same, held⟩
    exact ⟨same, fact result store held⟩
  intro error after same
  exact same

theorem Reads.then {first : Proc σ ε α} {next : α → Proc σ ε β} (reads : Reads first holds)
    (stopped : ∀ error, stop error store)
    (continues : ∀ result left, holds result store → Ends (next result) left store post stop) :
    Ends (first >>= next) fates store post stop := by
  apply Ends.bind
  apply Ends.mono (reads fates store)
  · intro result left after ⟨same, held⟩
    subst same
    exact continues result left held
  intro error after same
  subst same
  exact stopped error

theorem Reads.bind {first : Proc σ ε α} {next : α → Proc σ ε β} {result : β → σ → Prop}
    (reads : Reads first holds)
    (continues : ∀ a, Reads (next a) fun b store => holds a store → result b store) :
    Reads (first >>= next) result := by
  intro fates store
  apply reads.then
  · intro error
    rfl
  intro a left held
  apply Ends.mono (continues a left store)
  · intro b _ after ⟨same, fact⟩
    exact ⟨same, fact held⟩
  intro error after same
  exact same

theorem Reads.ite [Decidable condition] {first second : Proc σ ε α}
    (yes : condition → Reads first holds) (no : ¬condition → Reads second holds) :
    Reads (if condition then first else second) holds := by
  split
  · rename_i met
    exact yes met
  rename_i unmet
  exact no unmet

theorem Reads.attempt {δ : Type} {program : Proc σ ε α} {holds : Except ε α → σ → Prop}
    (reads : Reads program fun result store => holds (.ok result) store)
    (failed : ∀ error store, holds (.error error) store) :
    Reads (attempt program : Proc σ δ (Except ε α)) holds := by
  intro fates store
  apply Ends.attempt
  apply Ends.mono (reads fates store)
  · intro result left after held
    exact held
  intro stopped after same
  cases stopped with
  | some error => exact fun _ => ⟨same, failed error store⟩
  | none => exact same

theorem Reads.zoom {τ : Type} {get : σ → τ} {set : τ → σ → σ} {program : Proc τ ε α}
    {holds : α → τ → Prop} (lawful : ∀ store, set (get store) store = store)
    (reads : Reads program holds) :
    Reads (zoom get set program) fun result store => holds result (get store) := by
  intro fates store
  apply Ends.zoom
  apply Ends.mono (reads fates (get store))
  · intro result left after ⟨same, held⟩
    subst same
    exact ⟨lawful store, held⟩
  intro error after same
  subst same
  exact lawful store

end Reads

/-- The program keeps what holds of the store, however it ends. -/
def Keeps (program : Proc σ ε α) (holds : σ → Prop) : Prop :=
  ∀ fates store, holds store →
    Ends program fates store (fun _ _ after => holds after) fun _ after => holds after

section Keeps

variable {holds : σ → Prop}

theorem Keeps.pure {result : α} : Keeps (pure result : Proc σ ε α) holds :=
  fun _ _ held => held

theorem Keeps.fail {error : ε} : Keeps (fail error : Proc σ ε α) holds :=
  fun _ _ held => held

theorem Keeps.read : Keeps (read : Proc σ ε σ) holds :=
  fun _ _ held => held

theorem Keeps.ofExcept {result : Except ε α} : Keeps (ofExcept result : Proc σ ε α) holds :=
  fun _ _ held => Ends.ofExcept (fun _ _ => held) fun _ _ => held

theorem Keeps.change {error : ε} {effect : σ → σ} (kept : ∀ store, holds store → holds (effect store)) :
    Keeps (change error effect : Proc σ ε Unit) holds :=
  fun _ store held =>
    Ends.change (fun _ => kept store held) (fun _ => held) fun _ => kept store held

theorem Keeps.bind {first : Proc σ ε α} {next : α → Proc σ ε β} (keeps : Keeps first holds)
    (continues : ∀ result, Keeps (next result) holds) : Keeps (first >>= next) holds :=
  fun fates store held => Ends.bind_mono (keeps fates store held) (fun _ _ held => held)
    fun result left after held => continues result left after held

theorem Keeps.ite [Decidable condition] {first second : Proc σ ε α}
    (yes : Keeps first holds) (no : Keeps second holds) :
    Keeps (if condition then first else second) holds :=
  fun fates store held => Ends.ite (fun _ => yes fates store held) fun _ => no fates store held

end Keeps

/-- With no fates left, every change is done and the program returns a result with `post`. -/
def Succeeds (program : Proc σ ε α) (store : σ) (post : α → σ → Prop) : Prop :=
  Ends program [] store (fun result left after => left = [] ∧ post result after) fun _ _ => False

section Succeeds

variable {store : σ} {post : α → σ → Prop}

theorem succeeds_iff {program : Proc σ ε α} :
    Succeeds program store post ↔ ∃ result after, post result after ∧
      program [] store = { outcome := .value result, fates := [], store := after } := by
  constructor
  · intro ends
    obtain ⟨result, left, after, ⟨empty, holds⟩, same⟩ := Ends.returns ends
    subst empty
    exact ⟨result, after, holds, same⟩
  intro ⟨result, after, holds, same⟩
  unfold Succeeds Ends
  rw [same]
  exact ⟨rfl, holds⟩

theorem Succeeds.pure {result : α} (holds : post result store) :
    Succeeds (pure result : Proc σ ε α) store post :=
  ⟨rfl, holds⟩

theorem Succeeds.read {post : σ → σ → Prop} (holds : post store store) :
    Succeeds (read : Proc σ ε σ) store post :=
  ⟨rfl, holds⟩

theorem Succeeds.note {post : Unit → σ → Prop} {effect : σ → σ} (holds : post () (effect store)) :
    Succeeds (note effect : Proc σ ε Unit) store post :=
  ⟨rfl, holds⟩

theorem Succeeds.ofExcept {value : Except ε α} {result : α} (same : value = .ok result)
    (holds : post result store) : Succeeds (ofExcept value : Proc σ ε α) store post := by
  rw [same]
  exact ⟨rfl, holds⟩

theorem Succeeds.tryChange {post : Bool → σ → Prop} {effect : σ → σ}
    (holds : post true (effect store)) : Succeeds (tryChange effect : Proc σ ε Bool) store post :=
  ⟨rfl, holds⟩

theorem Succeeds.change {post : Unit → σ → Prop} {error : ε} {effect : σ → σ}
    (holds : post () (effect store)) : Succeeds (change error effect : Proc σ ε Unit) store post :=
  ⟨rfl, holds⟩

theorem Succeeds.bind {first : Proc σ ε α} {next : α → Proc σ ε β} {post : β → σ → Prop}
    (succeeds : Succeeds first store fun result after => Succeeds (next result) after post) :
    Succeeds (first >>= next) store post := by
  apply Ends.bind
  apply Ends.mono succeeds
  · intro result left after continues
    obtain ⟨empty, holds⟩ := continues
    subst empty
    exact holds
  intro error after stopped
  exact stopped

theorem Succeeds.mono {program : Proc σ ε α} (succeeds : Succeeds program store post)
    (value : ∀ result after, post result after → weaker result after) :
    Succeeds program store weaker := by
  apply Ends.mono succeeds
  · intro result left after ⟨empty, holds⟩
    exact ⟨empty, value result after holds⟩
  intro error after stopped
  exact stopped

variable {next : α → Proc σ ε β} {post : β → σ → Prop}

theorem Succeeds.bind_mono {first : Proc σ ε α} {middle : α → σ → Prop}
    (succeeds : Succeeds first store middle)
    (value : ∀ result after, middle result after → Succeeds (next result) after post) :
    Succeeds (first >>= next) store post :=
  Succeeds.bind (succeeds.mono value)

theorem Succeeds.bind_read {next : σ → Proc σ ε β} (succeeds : Succeeds (next store) store post) :
    Succeeds (Proc.read >>= next) store post :=
  Succeeds.bind (Succeeds.read succeeds)

theorem Succeeds.bind_ofExcept {value : Except ε α} {result : α} (same : value = .ok result)
    (succeeds : Succeeds (next result) store post) :
    Succeeds (Proc.ofExcept value >>= next) store post :=
  Succeeds.bind (Succeeds.ofExcept same succeeds)

theorem Succeeds.bind_change {next : Unit → Proc σ ε β} {error : ε} {effect : σ → σ}
    (succeeds : Succeeds (next ()) (effect store) post) :
    Succeeds (Proc.change error effect >>= next) store post :=
  Succeeds.bind (Succeeds.change succeeds)

theorem Succeeds.and_ends {post : α → σ → Prop} {program : Proc σ ε α} {more : α → List Fate → σ → Prop}
    {stop : Option ε → σ → Prop} (succeeds : Succeeds program store post)
    (ends : Ends program [] store more stop) :
    Succeeds program store fun result after => post result after ∧ more result [] after := by
  obtain ⟨result, after, holds, same⟩ := succeeds_iff.1 succeeds
  apply succeeds_iff.2
  exact ⟨result, after, ⟨holds, (ends_iff.1 ends).1 result [] after same⟩, same⟩

end Succeeds

end Wts.Interrupt
