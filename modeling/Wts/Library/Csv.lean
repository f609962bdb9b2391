/-
Module: Wts.Library.Csv
Purpose: Comma-separated values as RFC 4180 reads them. A reader goes through the text once and knows
  where it stands in a record; a line of quoted fields is read as these fields, whatever is in them.
-/
import Mathlib

namespace Wts.Csv

open List

/-- Where a reader stands: at the start of a record or of a field, in a plain or a quoted field, after
a quote in a quoted field, or after the return that ends a record. -/
inductive Place where
  | record
  | field
  | plain
  | quoted
  | closed
  | ended

/-- The records of the rest of a text. `field` is what was read of the field, `fields` are the fields
before it. -/
def readFrom : Place → List Char → List String → List Char → Option (List (List String))
  | .record, _, _, [] => some []
  | .quoted, _, _, [] => none
  | .ended, _, _, [] => none
  | .field, field, fields, [] => some [fields ++ [String.ofList field]]
  | .plain, field, fields, [] => some [fields ++ [String.ofList field]]
  | .closed, field, fields, [] => some [fields ++ [String.ofList field]]
  | .quoted, field, fields, c :: rest =>
    if c = '"' then readFrom .closed field fields rest
    else readFrom .quoted (field ++ [c]) fields rest
  | .ended, _, fields, c :: rest =>
    if c = '\n' then (readFrom .record [] [] rest).map (fields :: ·) else none
  | place, field, fields, c :: rest =>
    if c = ',' then readFrom .field [] (fields ++ [String.ofList field]) rest
    else if c = '\r' then readFrom .ended [] (fields ++ [String.ofList field]) rest
    else
      match place with
      | .closed => if c = '"' then readFrom .quoted (field ++ ['"']) fields rest else none
      | .plain =>
        if c = '"' ∨ c = '\n' then none else readFrom .plain (field ++ [c]) fields rest
      | _ =>
        if c = '"' then readFrom .quoted [] fields rest
        else if c = '\n' then none
        else readFrom .plain [c] fields rest

/-- The records of a text. -/
def decode (text : List Char) : Option (List (List String)) :=
  readFrom .record [] [] text

/-- A text as a quoted field. -/
def quoted (value : List Char) : List Char :=
  '"' :: value.flatMap (fun c => if c = '"' then ['"', '"'] else [c]) ++ ['"']

/-- Quoted fields as a record. -/
def line (values : List String) : List Char :=
  List.intercalate [','] (values.map fun value => quoted value.toList) ++ ['\r', '\n']

theorem readFrom_quoted (value field : List Char) (fields : List String) (rest : List Char) :
    readFrom .quoted field fields
        (value.flatMap (fun c => if c = '"' then ['"', '"'] else [c]) ++ '"' :: rest) =
      readFrom .closed (field ++ value) fields rest := by
  induction value generalizing field with
  | nil => simp [readFrom]
  | cons c value ih =>
    rw [flatMap_cons, append_assoc]
    by_cases quote : c = '"'
    · subst quote
      rw [if_pos rfl, cons_append, cons_append, nil_append, readFrom, if_pos rfl,
        readFrom]
      simp [ih]
    rw [if_neg quote, cons_append, nil_append, readFrom, if_neg quote, ih,
      append_assoc, cons_append, nil_append]

theorem readFrom_field {place : Place} (starts : place = .record ∨ place = .field)
    (value : String) (fields : List String) (rest : List Char) :
    readFrom place [] fields (quoted value.toList ++ rest) =
      readFrom .closed value.toList fields rest := by
  have opened : readFrom place [] fields (quoted value.toList ++ rest) = readFrom .quoted [] fields
      (value.toList.flatMap (fun c => if c = '"' then ['"', '"'] else [c]) ++ '"' :: rest) := by
    rcases starts with rfl | rfl <;> simp [quoted, readFrom]
  rw [opened, readFrom_quoted, nil_append]

/-- A line of quoted fields is read as one record. -/
theorem readFrom_line {place : Place} (starts : place = .record ∨ place = .field)
    (value : String) (values fields : List String) (rest : List Char) :
    readFrom place [] fields (line (value :: values) ++ rest) =
      (readFrom .record [] [] rest).map ((fields ++ value :: values) :: ·) := by
  induction values generalizing place value fields with
  | nil =>
    rw [line, map_singleton, intercalate_singleton, append_assoc,
      readFrom_field starts]
    simp [readFrom]
  | cons next values ih =>
    have split : line (value :: next :: values) =
        quoted value.toList ++ ',' :: line (next :: values) := by
      simp [line, List.intercalate]
    rw [split, append_assoc, readFrom_field starts, cons_append]
    have after : readFrom .closed value.toList fields (',' :: (line (next :: values) ++ rest)) =
        readFrom .field [] (fields ++ [value]) (line (next :: values) ++ rest) := by
      simp [readFrom]
    rw [after, ih (.inr rfl), append_assoc, cons_append, nil_append]

theorem decode_lines (records : List (List String)) (present : ∀ record ∈ records, record ≠ []) :
    decode (records.flatMap line) = some records := by
  induction records with
  | nil => rfl
  | cons record records ih =>
    cases record with
    | nil => exact absurd rfl (present [] mem_cons_self)
    | cons value values =>
      rw [decode, flatMap_cons, readFrom_line (.inl rfl), ← decode,
        ih fun other member => present other (mem_cons_of_mem _ member)]
      rfl

end Wts.Csv
