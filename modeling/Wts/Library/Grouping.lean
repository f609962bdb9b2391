/-
Module: Wts.Library.Grouping
Purpose: Items collected into an ordered map by a key, as `entry(key).or_default()` followed by an
  insertion does.
-/
import Wts.Library.MapRows

namespace Wts.Grouping

open List MapRows

open Std (ExtTreeMap TransCmp LawfulEqCmp)

variable {α β κ : Type} [DecidableEq κ] {cmp : κ → κ → Ordering} [TransCmp cmp] [LawfulEqCmp cmp]

/-- Add one item to the value of its key, which is `empty` at first. -/
def addTo (key : α → κ) (empty : β) (push : β → α → β) (groups : ExtTreeMap κ β cmp) (item : α) :
    ExtTreeMap κ β cmp :=
  groups.insert (key item) (push ((groups[key item]?).getD empty) item)

/-- Collect all items in order. -/
def collect (cmp : κ → κ → Ordering) [TransCmp cmp] (key : α → κ) (empty : β) (push : β → α → β)
    (items : List α) : ExtTreeMap κ β cmp :=
  items.foldl (addTo key empty push) ∅

section Rows

variable {key : α → κ} {empty : β} {push : β → α → β} (rows : κ → β → List α)

theorem rows_addTo (emptyRows : ∀ k, rows k empty = [])
    (pushRows : ∀ value item, (rows (key item) (push value item)).Perm (item :: rows (key item) value))
    (groups : ExtTreeMap κ β cmp) (item : α) :
    ((addTo key empty push groups item).toList.flatMap fun entry => rows entry.1 entry.2).Perm
      (item :: groups.toList.flatMap fun entry => rows entry.1 entry.2) := by
  have written := (toList_insert_perm_erase groups (key item)
    (push ((groups[key item]?).getD empty) item)).flatMap_right fun entry => rows entry.1 entry.2
  rw [flatMap_cons] at written
  refine written.trans (((pushRows _ item).append_right _).trans ?_)
  rw [cons_append]
  refine List.Perm.cons item ?_
  cases found : groups[key item]? with
  | none =>
    have same : groups.erase (key item) = groups := by
      apply ExtTreeMap.ext_getElem?
      intro other
      rw [lookup_erase]
      split
      · rename_i equal
        rw [← equal, found]
      · rfl
    rw [Option.getD_none, emptyRows, nil_append, same]
  | some value =>
    have rest := (toList_perm_erase found).flatMap_right fun entry => rows entry.1 entry.2
    rw [flatMap_cons] at rest
    exact rest.symm

theorem rows_collect (emptyRows : ∀ k, rows k empty = [])
    (pushRows : ∀ value item, (rows (key item) (push value item)).Perm (item :: rows (key item) value))
    (items : List α) :
    ((collect cmp key empty push items).toList.flatMap fun entry => rows entry.1 entry.2).Perm
      items := by
  induction items using List.reverseRecOn with
  | nil => exact .refl _
  | append_singleton items item ih =>
    rw [collect, foldl_append, foldl_cons, foldl_nil]
    refine (rows_addTo rows emptyRows pushRows _ item).trans ?_
    exact (ih.cons item).trans (perm_append_singleton item items).symm

end Rows

section Contents

variable {key : α → κ} {empty : β} {push : β → α → β} (contents : β → List α)

theorem flatMap_addTo (emptyContents : contents empty = [])
    (pushContents : ∀ value item, (contents (push value item)).Perm (item :: contents value))
    (groups : ExtTreeMap κ β cmp) (item : α) :
    ((addTo key empty push groups item).toList.flatMap fun entry => contents entry.2).Perm
      (item :: groups.toList.flatMap fun entry => contents entry.2) :=
  rows_addTo (fun _ => contents) (fun _ => emptyContents) pushContents groups item

theorem flatMap_collect (emptyContents : contents empty = [])
    (pushContents : ∀ value item, (contents (push value item)).Perm (item :: contents value))
    (items : List α) :
    ((collect cmp key empty push items).toList.flatMap fun entry => contents entry.2).Perm items :=
  rows_collect (fun _ => contents) (fun _ => emptyContents) pushContents items

theorem key_of_mem_collect (emptyContents : contents empty = [])
    (pushContents : ∀ value item, (contents (push value item)).Perm (item :: contents value))
    (items : List α) {k : κ} {value : β}
    (found : (collect cmp key empty push items)[k]? = some value) :
    ∀ item ∈ contents value, key item = k := by
  induction items using List.reverseRecOn generalizing k value with
  | nil =>
    rw [collect, foldl_nil, ExtTreeMap.getElem?_empty] at found
    cases found
  | append_singleton items last ih =>
    rw [collect, foldl_append, foldl_cons, foldl_nil, addTo,
      lookup_insert] at found
    split at found
    · rename_i same
      cases found
      intro item member
      rw [(pushContents _ last).mem_iff] at member
      rcases mem_cons.1 member with rfl | inside
      · exact same
      change item ∈ contents (((collect cmp key empty push items)[key last]?).getD empty)
        at inside
      cases before : (collect cmp key empty push items)[key last]? with
      | none =>
        rw [before, Option.getD_none, emptyContents] at inside
        cases inside
      | some old =>
        rw [before, Option.getD_some] at inside
        exact (ih before item inside).trans same
    · exact ih found

end Contents

end Wts.Grouping
