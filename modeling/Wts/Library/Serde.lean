/-
Module: Wts.Library.Serde
Purpose: The derived serialization of records as JSON objects: required and optional fields, unknown
  and repeated fields rejected, bounded integers, enumerations by name, lists.
-/
import Wts.Library.UuidText

namespace Wts.Serde

open List Option

variable {α : Type}

theorem bind_of_eq_some {β : Type} {first : Option α} {value : α} (found : first = some value)
    (next : α → Option β) : (first >>= next) = next value := by
  rw [found]
  rfl

/-- An unsigned integer below the bound of its type. -/
def unsigned (bound : ℕ) : Json → Option ℕ
  | .number (.ofNat n) => if n < bound then some n else none
  | _ => none

def uint16 (value : Json) : Option UInt16 :=
  (unsigned (2 ^ 16) value).map UInt16.ofNat

def uint32 (value : Json) : Option UInt32 :=
  (unsigned (2 ^ 32) value).map UInt32.ofNat

def uint64 (value : Json) : Option UInt64 :=
  (unsigned (2 ^ 64) value).map UInt64.ofNat

def ofNat (n : ℕ) : Json :=
  .number (.ofNat n)

def int64 : Json → Option Int64
  | .number value => if -2 ^ 63 ≤ value ∧ value < 2 ^ 63 then some (Int64.ofInt value) else none
  | _ => none

def ofInt64 (value : Int64) : Json :=
  .number value.toInt

def text : Json → Option String
  | .string value => some value
  | _ => none

def uuid : Json → Option Uuid
  | .string value => parseUuid value
  | _ => none

def ofUuid (id : Uuid) : Json :=
  .string (uuidText id)

/-- A value of an enumeration by its name. -/
def variant (names : List (String × α)) : Json → Option α
  | .string name => names.lookup name
  | _ => none

@[simp] theorem uint16_ofNat (n : UInt16) : uint16 (ofNat n.toNat) = some n := by
  simp [uint16, unsigned, ofNat, n.toNat_lt]

@[simp] theorem uint32_ofNat (n : UInt32) : uint32 (ofNat n.toNat) = some n := by
  simp [uint32, unsigned, ofNat, n.toNat_lt]

@[simp] theorem uint64_ofNat (n : UInt64) : uint64 (ofNat n.toNat) = some n := by
  simp [uint64, unsigned, ofNat, n.toNat_lt]

@[simp] theorem int64_ofInt64 (value : Int64) : int64 (ofInt64 value) = some value := by
  have low := value.le_toInt
  have high := value.toInt_lt
  simp only [int64, ofInt64]
  rw [if_pos ⟨low, high⟩, Int64.ofInt_toInt]

@[simp] theorem text_string (value : String) : text (.string value) = some value :=
  rfl

@[simp] theorem uuid_ofUuid (id : Uuid) : uuid (ofUuid id) = some id :=
  parseUuid_uuidText id

/-- A list with a reader of its items. -/
def list (read : Json → Option α) : Json → Option (List α)
  | .array items => items.mapM read
  | _ => none

def ofList (write : α → Json) (items : List α) : Json :=
  .array (items.map write)

variable {read : Json → Option α} {write : α → Json}

theorem list_ofList {items : List α} (inverse : ∀ item ∈ items, read (write item) = some item) :
    list read (ofList write items) = some items := by
  simp only [list, ofList]
  induction items with
  | nil => rfl
  | cons item rest ih =>
    have head := inverse item mem_cons_self
    have tail := ih fun other member => inverse other (mem_cons_of_mem _ member)
    simp [mapM_cons, head, tail]

/-- The fields of an object with known names, none of them twice. -/
def objectFields (known : List String) : Json → Option (List (String × Json))
  | .object fields =>
    if (fields.map Prod.fst).Nodup ∧ ∀ name ∈ fields.map Prod.fst, name ∈ known then some fields
    else none
  | _ => none

def readField (read : Json → Option α) (name : String) (fields : List (String × Json)) : Option α :=
  (fields.lookup name).bind read

/-- An absent field and `null` both stand for no value. -/
def readOptional (read : Json → Option α) (name : String) (fields : List (String × Json)) :
    Option (Option α) :=
  match fields.lookup name with
  | none => some none
  | some .null => some none
  | some value => (read value).map some

/-- An optional field is left out when there is no value. -/
def writeOptional (name : String) (write : α → Json) : Option α → List (String × Json)
  | none => []
  | some value => [(name, write value)]

theorem lookup_append (name : String) (first second : List (String × Json)) :
    (first ++ second).lookup name = (first.lookup name).or (second.lookup name) := by
  induction first with
  | nil => rfl
  | cons entry rest ih =>
    obtain ⟨other, value⟩ := entry
    simp only [cons_append, lookup_cons]
    split
    · rfl
    · exact ih

theorem lookup_writeOptional (name other : String) (write : α → Json) (value : Option α) :
    (writeOptional other write value).lookup name =
      if name = other then value.map write else none := by
  cases value with
  | none => simp [writeOptional]
  | some value =>
    by_cases same : name = other
    · simp [writeOptional, same]
    · simp [writeOptional, lookup_cons, same, beq_false_of_ne same]

theorem names_writeOptional (name : String) (write : α → Json) (value : Option α) :
    (writeOptional name write value).map Prod.fst = value.toList.map fun _ => name := by
  cases value <;> rfl

variable {fields : List (String × Json)}

theorem objectFields_object {known : List String}
    (distinct : (fields.map Prod.fst).Nodup) (allKnown : ∀ name ∈ fields.map Prod.fst, name ∈ known) :
    objectFields known (.object fields) = some fields :=
  if_pos ⟨distinct, allKnown⟩

theorem readField_eq_some {name : String}
    {written : Json} {value : α} (found : fields.lookup name = some written)
    (inverse : read written = some value) : readField read name fields = some value := by
  rw [readField, found, bind_some, inverse]

variable {value : Option α}

theorem readOptional_eq_some {name : String}
    (found : fields.lookup name = value.map write) (inverse : ∀ v, read (write v) = some v)
    (notNull : ∀ v, write v ≠ .null) : readOptional read name fields = some value := by
  rw [readOptional, found]
  cases value with
  | none => rfl
  | some value =>
    rw [map_some]
    split
    · rename_i missing
      cases missing
    · rename_i isNull
      exact absurd (Option.some.inj isNull) (notNull value)
    rename_i written _ same
    rw [← Option.some.inj same, inverse]
    rfl

/-! ### Records -/

/-- The fields that a record writes; a skipped field has no value. -/
def present (slots : List (String × Option Json)) : List (String × Json) :=
  slots.filterMap fun (name, value) => value.map fun written => (name, written)

/-- A record as an object. -/
def record (slots : List (String × Option Json)) : Json :=
  .object (present slots)

/-- An optional field that is written as `null` when there is no value. -/
def nullable (write : α → Json) : Option α → Json
  | none => .null
  | some value => write value

/-- A list that is left out when it is empty. -/
def nonempty (write : α → Json) (items : List α) : Option Json :=
  if items.isEmpty then none else some (ofList write items)

/-- An absent list is empty. -/
def readList (read : Json → Option α) (name : String) (fields : List (String × Json)) :
    Option (List α) :=
  match fields.lookup name with
  | none => some []
  | some value => list read value

theorem present_cons (name : String) (value : Option Json) (slots : List (String × Option Json)) :
    present ((name, value) :: slots) =
      (value.toList.map fun written => (name, written)) ++ present slots := by
  cases value <;> rfl

theorem names_present_sublist (slots : List (String × Option Json)) :
    ((present slots).map Prod.fst).Sublist (slots.map Prod.fst) := by
  induction slots with
  | nil => exact List.Sublist.refl _
  | cons slot rest ih =>
    obtain ⟨name, value⟩ := slot
    rw [present_cons]
    cases value with
    | none => exact ih.cons name
    | some value => exact ih.cons_cons name

variable {slots : List (String × Option Json)}

theorem lookup_present (distinct : (slots.map Prod.fst).Nodup)
    (name : String) : (present slots).lookup name = (slots.lookup name).join := by
  induction slots with
  | nil => rfl
  | cons slot rest ih =>
    obtain ⟨other, value⟩ := slot
    obtain ⟨fresh, tailDistinct⟩ := nodup_cons.1 distinct
    rw [present_cons, lookup_cons]
    by_cases same : name = other
    · subst same
      have absent : (present rest).lookup name = none := by
        apply lookup_eq_none_iff.2
        intro entry member
        apply bne_iff_ne.2
        intro equal
        apply fresh
        show name ∈ rest.map Prod.fst
        rw [equal]
        exact (names_present_sublist rest).subset (List.mem_map_of_mem member)
      cases value with
      | none => simpa using absent
      | some value => simp
    cases value with
    | none => simpa [beq_false_of_ne same] using ih tailDistinct
    | some value => simpa [beq_false_of_ne same, lookup_cons] using ih tailDistinct

theorem objectFields_record (known : List String)
    (distinct : (slots.map Prod.fst).Nodup) (allKnown : ∀ name ∈ slots.map Prod.fst, name ∈ known) :
    objectFields known (record slots) = some (present slots) := by
  apply objectFields_object
  · exact (names_present_sublist slots).nodup distinct
  intro name member
  exact allKnown name ((names_present_sublist slots).subset member)

theorem readField_present (name : String) {written : Json} {value : α}
    (distinct : (slots.map Prod.fst).Nodup) (found : slots.lookup name = some (some written))
    (inverse : read written = some value) : readField read name (present slots) = some value := by
  apply readField_eq_some _ inverse
  rw [lookup_present distinct, found, join_some]

theorem readOptional_present (name : String)
    (distinct : (slots.map Prod.fst).Nodup) (found : slots.lookup name = some (value.map write))
    (inverse : ∀ v ∈ value, read (write v) = some v) (notNull : ∀ v, write v ≠ .null) :
    readOptional read name (present slots) = some value := by
  rw [readOptional, lookup_present distinct, found, join_some]
  cases value with
  | none => rfl
  | some value =>
    rw [map_some]
    split
    · rename_i missing
      cases missing
    · rename_i isNull
      exact absurd (Option.some.inj isNull) (notNull value)
    rename_i written _ same
    rw [← Option.some.inj same, inverse value rfl]
    rfl

theorem readOptional_nullable (name : String) (distinct : (slots.map Prod.fst).Nodup)
    (found : slots.lookup name = some (some (nullable write value)))
    (inverse : ∀ v ∈ value, read (write v) = some v) (notNull : ∀ v, write v ≠ .null) :
    readOptional read name (present slots) = some value := by
  rw [readOptional, lookup_present distinct, found, join_some]
  cases value with
  | none => rfl
  | some value =>
    simp only [nullable]
    split
    · rename_i missing
      cases missing
    · rename_i isNull
      exact absurd (Option.some.inj isNull) (notNull value)
    rename_i written _ same
    rw [← Option.some.inj same, inverse value rfl]
    rfl

theorem readList_present (name : String) {items : List α}
    (distinct : (slots.map Prod.fst).Nodup) (found : slots.lookup name = some (nonempty write items))
    (inverse : ∀ item ∈ items, read (write item) = some item) :
    readList read name (present slots) = some items := by
  rw [readList, lookup_present distinct, found, join_some]
  cases items with
  | nil => rfl
  | cons item rest => exact list_ofList inverse

end Wts.Serde
