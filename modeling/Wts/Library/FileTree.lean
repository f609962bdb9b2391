/-
Module: Wts.Library.FileTree
Purpose: A directory tree.
-/
import Mathlib

namespace Wts.FileTree

inductive Kind where
  | file
  | symlink
  | directory
deriving DecidableEq

/-- What the system answers about an entry. The length is that of a file. -/
structure Metadata where
  device : UInt64
  inode : UInt64
  mode : UInt32
  kind : Kind
  length : ℕ

/-- The entry itself, without what is in it. -/
structure Header where
  device : UInt64
  inode : UInt64
  mode : UInt32

inductive Node where
  | file (header : Header) (bytes : List UInt8)
  | symlink (header : Header)
  | directory (header : Header) (children : List (String × Node))

def Header.metadata (header : Header) (kind : Kind) (length : ℕ) : Metadata where
  device := header.device
  inode := header.inode
  mode := header.mode
  kind := kind
  length := length

def Node.metadata : Node → Metadata
  | .file header bytes => header.metadata .file bytes.length
  | .symlink header => header.metadata .symlink 0
  | .directory header _ => header.metadata .directory 0

/-- The bytes of a file. -/
def Node.contents : Node → Option (List UInt8)
  | .file _ bytes => some bytes
  | .symlink _ => none
  | .directory _ _ => none

/-- A directory without entries. -/
def Node.isEmptyDirectory : Node → Bool
  | .directory _ [] => true
  | _ => false

variable {name other : String} {children : List (String × Node)}

def child (name : String) (children : List (String × Node)) : Option Node :=
  (children.find? fun entry => entry.1 = name).map Prod.snd

def setChild (name : String) : Option Node → List (String × Node) → List (String × Node)
  | none, children => children.filter fun entry => entry.1 ≠ name
  | some node, children => (name, node) :: children.filter fun entry => entry.1 ≠ name

theorem child_filter_self : child name (children.filter fun entry => entry.1 ≠ name) = none := by
  simp [child, List.find?_filter]

theorem child_filter_of_ne (different : other ≠ name) :
    child other (children.filter fun entry => entry.1 ≠ name) = child other children := by
  simp only [child, List.find?_filter]
  congr 2
  funext entry
  by_cases same : entry.1 = other
  · simp [same, different]
  simp [same]

@[simp] theorem child_setChild_self (node : Option Node) :
    child name (setChild name node children) = node := by
  cases node with
  | none => exact child_filter_self
  | some node => simp [setChild, child]

theorem child_setChild_of_ne (different : other ≠ name) (node : Option Node) :
    child other (setChild name node children) = child other children := by
  cases node with
  | none => exact child_filter_of_ne different
  | some node =>
    have skipped : child other (setChild name (some node) children) =
        child other (children.filter fun entry => entry.1 ≠ name) := by
      simp [setChild, child, different.symm]
    rw [skipped, child_filter_of_ne different]

/-! ### Looking up and changing a path -/

/-- What is at a path. -/
def lookup : List String → Option Node → Option Node
  | [], tree => tree
  | name :: rest, some (.directory _ children) => lookup rest (child name children)
  | _ :: _, _ => none

/-- What is at a path is changed; a path that is not below directories has nothing to change. -/
def alter (change : Option Node → Option Node) : List String → Option Node → Option Node
  | [], tree => change tree
  | name :: rest, some (.directory header children) =>
    some (.directory header (setChild name (alter change rest (child name children)) children))
  | _ :: _, tree => tree

def stat (path : List String) (tree : Option Node) : Option Metadata :=
  (lookup path tree).map Node.metadata

def put (path : List String) (node : Node) (tree : Option Node) : Option Node :=
  alter (fun _ => some node) path tree

def erase (path : List String) (tree : Option Node) : Option Node :=
  alter (fun _ => none) path tree

variable {tree : Option Node} {path below : List String} {change : Option Node → Option Node}

@[simp] theorem lookup_nil : lookup [] tree = tree :=
  rfl

@[simp] theorem lookup_none : lookup path none = none := by
  cases path <;> rfl

theorem lookup_append : lookup (path ++ below) tree = lookup below (lookup path tree) := by
  induction path generalizing tree with
  | nil => rfl
  | cons name rest ih =>
    match tree with
    | none => simp
    | some (.file _ _) => simp [lookup]
    | some (.symlink _) => simp [lookup]
    | some (.directory _ _) => simp [lookup, ih]

theorem stat_append_of_none (absent : stat path tree = none) : stat (path ++ below) tree = none := by
  rw [stat, Option.map_eq_none_iff] at absent ⊢
  rw [lookup_append, absent, lookup_none]

theorem lookup_erase_self : lookup path (erase path tree) = none := by
  induction path generalizing tree with
  | nil => rfl
  | cons name rest ih =>
    match tree with
    | none => simp [erase, alter]
    | some (.file _ _) => simp [erase, alter, lookup]
    | some (.symlink _) => simp [erase, alter, lookup]
    | some (.directory _ _) =>
      simp only [erase, alter, lookup, child_setChild_self]
      exact ih

theorem stat_alter_of_not_prefix {other : List String} (outside : ¬ path <+: other) :
    stat other (alter change path tree) = stat other tree := by
  induction path generalizing tree other with
  | nil => exact absurd (List.nil_prefix) outside
  | cons name rest ih =>
    match tree with
    | none => rfl
    | some (.file _ _) => rfl
    | some (.symlink _) => rfl
    | some (.directory _ entries) =>
      cases other with
      | nil => rfl
      | cons first others =>
        simp only [stat, alter, lookup]
        by_cases same : first = name
        · subst same
          rw [child_setChild_self]
          apply ih
          intro inside
          exact outside (List.prefix_cons_inj first |>.2 inside)
        rw [child_setChild_of_ne same]

theorem stat_erase {other : List String} :
    stat other (erase path tree) = if path <+: other then none else stat other tree := by
  split
  · rename_i inside
    obtain ⟨below, rfl⟩ := inside
    apply stat_append_of_none
    rw [stat, lookup_erase_self]
    rfl
  rename_i outside
  exact stat_alter_of_not_prefix outside

/-- An entry that has nothing below it. -/
def Node.IsLeaf (node : Node) : Prop :=
  ∀ name rest, lookup (name :: rest) (some node) = none

variable {bytes : List UInt8} {header : Header}

theorem Node.isLeaf_file : (Node.file header bytes).IsLeaf :=
  fun _ _ => rfl

variable {node : Node}

theorem stat_erase_of_leaf {other : List String} (found : lookup path tree = some node)
    (leaf : node.IsLeaf) :
    stat other (erase path tree) = if other = path then none else stat other tree := by
  rw [stat_erase]
  by_cases same : other = path
  · simp [same]
  rw [if_neg same]
  split
  · rename_i inside
    obtain ⟨below, rfl⟩ := inside
    cases below with
    | nil => simp at same
    | cons name rest => rw [stat, lookup_append, found, leaf, Option.map_none]
  rfl

theorem Node.isLeaf_symlink : (Node.symlink header).IsLeaf :=
  fun _ _ => rfl

theorem Node.isLeaf_of_isEmptyDirectory (empty : node.isEmptyDirectory = true) : node.IsLeaf := by
  intro name rest
  match node with
  | .file _ _ => cases empty
  | .symlink _ => cases empty
  | .directory _ [] => simp [lookup, child]
  | .directory _ (_ :: _) => cases empty

theorem lookup_file_of_erase {other : List String}
    (found : lookup other (erase path tree) = some (.file header bytes)) :
    lookup other tree = some (.file header bytes) := by
  induction path generalizing tree other with
  | nil =>
    rw [show erase [] tree = none from rfl, lookup_none] at found
    cases found
  | cons name rest ih =>
    match tree with
    | none => exact found
    | some (.file _ _) => exact found
    | some (.symlink _) => exact found
    | some (.directory _ entries) =>
      cases other with
      | nil => simp [erase, alter] at found
      | cons first others =>
        simp only [erase, alter, lookup] at found ⊢
        by_cases same : first = name
        · subst same
          rw [child_setChild_self] at found
          exact ih found
        rwa [child_setChild_of_ne same] at found

/-- The tree after entries were removed one by one, each a leaf that may be removed. -/
inductive Removals (may : List String → Node → Prop) (tree : Option Node) : Option Node → Prop where
  | refl : Removals may tree tree
  | step {middle : Option Node} {path : List String} {node : Node}
      (before : Removals may tree middle) (found : lookup path middle = some node)
      (leaf : node.IsLeaf) (allowed : may path node) : Removals may tree (erase path middle)

variable {may : List String → Node → Prop} {after : Option Node}

theorem Removals.trans {last : Option Node} (first : Removals may tree after)
    (second : Removals may after last) : Removals may tree last := by
  induction second with
  | refl => exact first
  | step before found leaf allowed ih => exact .step ih found leaf allowed

theorem Removals.file (removals : Removals may tree after)
    (found : lookup path after = some (.file header bytes)) :
    lookup path tree = some (.file header bytes) := by
  induction removals with
  | refl => exact found
  | step before present leaf allowed ih => exact ih (lookup_file_of_erase found)

theorem Removals.stat (removals : Removals may tree after) (path : List String) :
    stat path after = stat path tree ∨
      stat path after = none ∧ ∃ node, may path node ∧ stat path tree = some node.metadata ∧
        ∀ header bytes, node = .file header bytes → lookup path tree = some node := by
  induction removals with
  | refl => exact .inl rfl
  | @step middle removed node before found leaf allowed ih =>
    rw [stat_erase_of_leaf found leaf]
    split
    · rename_i same
      subst same
      refine .inr ⟨rfl, node, allowed, ?_, ?_⟩
      · rcases ih with kept | ⟨gone, _⟩
        · rw [← kept, FileTree.stat, found]
          rfl
        · rw [FileTree.stat, found] at gone
          cases gone
      rintro header bytes rfl
      exact before.file found
    exact ih

theorem Removals.absent (removals : Removals may tree after) {path : List String}
    (absent : FileTree.stat path tree = none) : FileTree.stat path after = none := by
  rcases removals.stat path with kept | ⟨gone, _⟩
  · rw [kept, absent]
  exact gone

end Wts.FileTree
