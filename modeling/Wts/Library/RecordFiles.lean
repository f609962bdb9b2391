/-
Module: Wts.Library.RecordFiles
Purpose: A directory of records, each a JSON file that is named by the identifier of its record.
-/
import Wts.Library.UuidText

namespace Wts.RecordFiles

def stripSuffix (ending text : String) : Option String :=
  if ending.toList.isSuffixOf text.toList then
    some (String.ofList (text.toList.take (text.toList.length - ending.toList.length)))
  else
    none

/-- The name of the file of a record. -/
def recordLeaf (id : Uuid) : String :=
  uuidText id ++ ".json"

/-- The identifier in the name of a file. -/
def recordId (leaf : String) : Option Uuid :=
  (stripSuffix ".json" leaf).bind parseUuid

theorem stripSuffix_append (text ending : String) : stripSuffix ending (text ++ ending) = some text := by
  have cut : (text ++ ending).toList = text.toList ++ ending.toList := String.toList_append
  have isSuffix : ending.toList.isSuffixOf (text ++ ending).toList = true := by
    rw [cut]
    exact List.isSuffixOf_iff_suffix.2 (List.suffix_append _ _)
  rw [stripSuffix, if_pos isSuffix, cut, List.length_append, Nat.add_sub_cancel,
    List.take_left, String.ofList_toList]

@[simp] theorem recordId_recordLeaf (id : Uuid) : recordId (recordLeaf id) = some id := by
  rw [recordId, recordLeaf, stripSuffix_append, Option.bind_some, parseUuid_uuidText]

end Wts.RecordFiles
