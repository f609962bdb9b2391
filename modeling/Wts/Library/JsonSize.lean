/-
Module: Wts.Library.JsonSize
Purpose: The number of bytes of JSON texts, compact and indented, as a sum over the parts of the
  value.
-/
import Wts.Library.Serde
import Wts.Library.JsonPretty
import Wts.Library.Utf8

namespace Wts

open List

/-- The number of bytes of characters. -/
def byteSize (chars : List Char) : ℕ :=
  (chars.map Char.utf8Size).sum

@[simp] theorem byteSize_nil : byteSize [] = 0 :=
  rfl

@[simp] theorem byteSize_cons (c : Char) (rest : List Char) :
    byteSize (c :: rest) = c.utf8Size + byteSize rest :=
  sum_cons

@[simp] theorem byteSize_append (first second : List Char) :
    byteSize (first ++ second) = byteSize first + byteSize second := by
  rw [byteSize, map_append, sum_append, byteSize, byteSize]

theorem utf8ByteSize_ofList (chars : List Char) :
    (String.ofList chars).utf8ByteSize = byteSize chars := by
  induction chars with
  | nil => rfl
  | cons c rest ih => rw [Utf8.utf8ByteSize_ofList_cons, ih, byteSize_cons]

theorem byteSize_toList (text : String) : byteSize text.toList = text.utf8ByteSize := by
  rw [← utf8ByteSize_ofList, String.ofList_toList]

theorem byteSize_ascii {chars : List Char} (ascii : ∀ c ∈ chars, c.utf8Size = 1) :
    byteSize chars = chars.length := by
  induction chars with
  | nil => rfl
  | cons c rest ih =>
    rw [byteSize_cons, ascii c mem_cons_self,
      ih fun other member => ascii other (mem_cons_of_mem _ member), length_cons,
      Nat.add_comm]

theorem utf8Size_ascii {c : Char} (small : c.toNat < 0x80) : c.utf8Size = 1 := by
  have within : c.val ≤ 0x7f := by
    rw [UInt32.le_iff_toNat_le]
    exact Nat.le_of_lt_succ small
  simp [Char.utf8Size, within]

theorem utf8Size_of_isDigit {c : Char} (digit : c.isDigit = true) : c.utf8Size = 1 := by
  apply utf8Size_ascii
  rw [Char.isDigit, Bool.and_eq_true, decide_eq_true_eq, decide_eq_true_eq] at digit
  have last := UInt32.le_iff_toNat_le.1 digit.2
  exact Nat.lt_of_le_of_lt last (by decide)

namespace Json

/-- The number of bytes of a character in a JSON text. -/
def escapedSize (c : Char) : ℕ :=
  if c = '\"' ∨ c = '\\' ∨ c = '\x08' ∨ c = '\x0c' ∨ c = '\n' ∨ c = '\x0d' ∨ c = '\t' then 2
  else if c.toNat < 0x20 then 6
  else c.utf8Size

theorem byteSize_escapeChar (c : Char) : byteSize (escapeChar c) = escapedSize c := by
  have digit : ∀ n : Fin 16, (Sha256.hexDigit n).utf8Size = 1 := by decide
  have low : (Sha256.hexDigit (c.toNat % 16)).utf8Size = 1 :=
    digit ⟨c.toNat % 16, Nat.mod_lt _ (by decide)⟩
  unfold escapeChar escapedSize
  by_cases short : c = '\"' ∨ c = '\\' ∨ c = '\x08' ∨ c = '\x0c' ∨ c = '\n' ∨ c = '\x0d' ∨ c = '\t'
  · rw [if_pos short]
    rcases short with rfl | rfl | rfl | rfl | rfl | rfl | rfl <;> rfl
  rw [if_neg short]
  push Not at short
  obtain ⟨quote, slash, backspace, feed, line, return_, tab⟩ := short
  rw [if_neg quote, if_neg slash, if_neg backspace, if_neg feed, if_neg line, if_neg return_,
    if_neg tab]
  by_cases control : c.toNat < 0x20
  · have high : (Sha256.hexDigit (c.toNat / 16)).utf8Size = 1 :=
      digit ⟨c.toNat / 16, by omega⟩
    rw [if_pos control, if_pos control]
    simp only [byteSize_cons, byteSize_nil, high, low]
    rfl
  · rw [if_neg control, if_neg control, byteSize_cons, byteSize_nil, Nat.add_zero]

/-- The number of bytes of the JSON text of a string, with its quotes. -/
def textSize (text : String) : ℕ :=
  2 + (text.toList.map escapedSize).sum

theorem byteSize_stringChars (text : String) : byteSize (stringChars text) = textSize text := by
  have escaped : ∀ chars : List Char,
      byteSize (chars.flatMap escapeChar) = (chars.map escapedSize).sum := by
    intro chars
    induction chars with
    | nil => rfl
    | cons c rest ih =>
      rw [flatMap_cons, byteSize_append, byteSize_escapeChar, ih, map_cons, sum_cons]
  rw [stringChars, byteSize_cons, byteSize_append, escaped, textSize]
  have quote : ('\"' : Char).utf8Size = 1 := rfl
  rw [byteSize_cons, byteSize_nil, quote]
  omega

theorem textSize_replicate (n : ℕ) (c : Char) :
    textSize (String.ofList (List.replicate n c)) = 2 + n * escapedSize c := by
  rw [textSize, String.toList_ofList, map_replicate, sum_replicate, smul_eq_mul]

theorem byteSize_integerChars (value : ℤ) :
    byteSize (integerChars value) = (integerChars value).length := by
  apply byteSize_ascii
  intro c member
  cases value with
  | ofNat n => exact utf8Size_of_isDigit (Nat.isDigit_of_mem_toDigits (by decide) (by decide) member)
  | negSucc n =>
    rcases mem_cons.1 member with minus | digit
    · rw [minus]
      rfl
    · exact utf8Size_of_isDigit (Nat.isDigit_of_mem_toDigits (by decide) (by decide) digit)

mutual

/-- The number of bytes of the compact text of a value. -/
def size : Json → ℕ
  | .null => 4
  | .bool true => 4
  | .bool false => 5
  | .number value => (integerChars value).length
  | .string value => textSize value
  | .array items => 1 + itemsSize true items
  | .object fields => 1 + fieldsSize true fields

def itemsSize (first : Bool) : List Json → ℕ
  | [] => 1
  | item :: rest => (if first then 0 else 1) + (size item + itemsSize false rest)

def fieldsSize (first : Bool) : List (String × Json) → ℕ
  | [] => 1
  | field :: rest => (if first then 0 else 1) + (entrySize field + fieldsSize false rest)

def entrySize : String × Json → ℕ
  | (name, value) => textSize name + (1 + size value)

end

mutual

theorem byteSize_chars : ∀ value : Json, byteSize (chars value) = size value
  | .null => rfl
  | .bool true => rfl
  | .bool false => rfl
  | .number value => by rw [chars, size, byteSize_integerChars]
  | .string value => by rw [chars, size, byteSize_stringChars]
  | .array items => by
    rw [chars, size, byteSize_cons, byteSize_itemChars true items]
    rfl
  | .object fields => by
    rw [chars, size, byteSize_cons, byteSize_fieldChars true fields]
    rfl

theorem byteSize_itemChars : ∀ (first : Bool) (items : List Json),
    byteSize (itemChars first items) = itemsSize first items
  | _, [] => rfl
  | first, item :: rest => by
    rw [itemChars, itemsSize, byteSize_append, byteSize_append, byteSize_chars item,
      byteSize_itemChars false rest]
    cases first <;> rfl

theorem byteSize_fieldChars : ∀ (first : Bool) (fields : List (String × Json)),
    byteSize (fieldChars first fields) = fieldsSize first fields
  | _, [] => rfl
  | first, field :: rest => by
    rw [fieldChars, fieldsSize, byteSize_append, byteSize_append, byteSize_entryChars field,
      byteSize_fieldChars false rest]
    cases first <;> rfl

theorem byteSize_entryChars : ∀ entry : String × Json, byteSize (entryChars entry) = entrySize entry
  | (name, value) => by
    rw [entryChars, entrySize, byteSize_append, byteSize_stringChars, byteSize_cons,
      byteSize_chars value]
    rfl

end

theorem utf8ByteSize_print (value : Json) : (print value).utf8ByteSize = size value := by
  rw [print, utf8ByteSize_ofList, byteSize_chars]

/-! ### Indented texts -/

mutual

/-- The number of bytes of the indented text of a value. -/
def prettySize (depth : ℕ) : Json → ℕ
  | .null => size .null
  | .bool value => size (.bool value)
  | .number value => size (.number value)
  | .string value => size (.string value)
  | .array items => 1 + prettyItemsSize depth true items
  | .object fields => 1 + prettyFieldsSize depth true fields

def prettyItemsSize (depth : ℕ) (first : Bool) : List Json → ℕ
  | [] => (if first then 0 else 1 + 2 * depth) + 1
  | item :: rest =>
    (if first then 0 else 1) +
      (1 + 2 * (depth + 1) + (prettySize (depth + 1) item + prettyItemsSize depth false rest))

def prettyFieldsSize (depth : ℕ) (first : Bool) : List (String × Json) → ℕ
  | [] => (if first then 0 else 1 + 2 * depth) + 1
  | field :: rest =>
    (if first then 0 else 1) +
      (1 + 2 * (depth + 1) + (prettyEntrySize (depth + 1) field + prettyFieldsSize depth false rest))

def prettyEntrySize (depth : ℕ) : String × Json → ℕ
  | (name, value) => textSize name + (2 + prettySize depth value)

end

theorem byteSize_newline (depth : ℕ) : byteSize (newline depth) = 1 + 2 * depth := by
  have blanks : byteSize (List.replicate (2 * depth) ' ') = 2 * depth := by
    rw [byteSize_ascii, length_replicate]
    intro c member
    rw [eq_of_mem_replicate member]
    rfl
  rw [newline, byteSize_cons, blanks]
  rfl

mutual

theorem byteSize_prettyChars : ∀ (depth : ℕ) (value : Json),
    byteSize (prettyChars depth value) = prettySize depth value
  | _, .null => rfl
  | _, .bool value => byteSize_chars (.bool value)
  | _, .number value => byteSize_chars (.number value)
  | _, .string value => byteSize_chars (.string value)
  | depth, .array items => by
    rw [prettyChars, prettySize, byteSize_cons, byteSize_prettyItems depth true items]
    rfl
  | depth, .object fields => by
    rw [prettyChars, prettySize, byteSize_cons, byteSize_prettyFields depth true fields]
    rfl

theorem byteSize_prettyItems : ∀ (depth : ℕ) (first : Bool) (items : List Json),
    byteSize (prettyItems depth first items) = prettyItemsSize depth first items
  | depth, first, [] => by
    rw [prettyItems, prettyItemsSize, byteSize_append]
    cases first
    · rw [if_neg Bool.false_ne_true, if_neg Bool.false_ne_true, byteSize_newline]
      rfl
    · rfl
  | depth, first, item :: rest => by
    rw [prettyItems, prettyItemsSize, byteSize_append, byteSize_append, byteSize_append,
      byteSize_newline, byteSize_prettyChars (depth + 1) item,
      byteSize_prettyItems depth false rest]
    cases first <;> rfl

theorem byteSize_prettyFields : ∀ (depth : ℕ) (first : Bool) (fields : List (String × Json)),
    byteSize (prettyFields depth first fields) = prettyFieldsSize depth first fields
  | depth, first, [] => by
    rw [prettyFields, prettyFieldsSize, byteSize_append]
    cases first
    · rw [if_neg Bool.false_ne_true, if_neg Bool.false_ne_true, byteSize_newline]
      rfl
    · rfl
  | depth, first, field :: rest => by
    rw [prettyFields, prettyFieldsSize, byteSize_append, byteSize_append, byteSize_append,
      byteSize_newline, byteSize_prettyEntry (depth + 1) field,
      byteSize_prettyFields depth false rest]
    cases first <;> rfl

theorem byteSize_prettyEntry : ∀ (depth : ℕ) (entry : String × Json),
    byteSize (prettyEntry depth entry) = prettyEntrySize depth entry
  | depth, (name, value) => by
    rw [prettyEntry, prettyEntrySize, byteSize_append, byteSize_stringChars, byteSize_cons,
      byteSize_cons, byteSize_prettyChars depth value, ← Nat.add_assoc (Char.utf8Size ':')]
    rfl

end

theorem utf8ByteSize_pretty (value : Json) : (pretty value).utf8ByteSize = prettySize 0 value := by
  rw [pretty, utf8ByteSize_ofList, byteSize_prettyChars]

/-! ### Parts of objects and arrays -/

/-- The fields behind others take the same room whatever they are. -/
theorem exists_fieldsSize_append (first : Bool) {fields : List (String × Json)} (some : fields ≠ []) :
    ∃ before, ∀ rest, fieldsSize first (fields ++ rest) = before + fieldsSize false rest := by
  induction fields generalizing first with
  | nil => exact absurd rfl some
  | cons field others ih =>
    cases others with
    | nil => exact ⟨(if first then 0 else 1) + entrySize field, fun rest => by simp [fieldsSize]; omega⟩
    | cons other others =>
      obtain ⟨before, same⟩ := ih false (by simp)
      refine ⟨(if first then 0 else 1) + (entrySize field + before), fun rest => ?_⟩
      rw [cons_append, fieldsSize, same]
      omega

theorem itemsSize_false (items : List Json) :
    itemsSize false items = 1 + (items.map fun item => 1 + size item).sum := by
  induction items with
  | nil => rfl
  | cons item rest ih =>
    rw [itemsSize, ih, map_cons, sum_cons, if_neg Bool.false_ne_true]
    omega

/-- The first item has no comma before it. -/
theorem itemsSize_true (items : List Json) :
    itemsSize true items ≤ itemsSize false items ∧ itemsSize false items ≤ itemsSize true items + 1 := by
  cases items with
  | nil => exact ⟨le_rfl, Nat.le_succ _⟩
  | cons item rest =>
    simp only [itemsSize, if_true, Bool.false_eq_true, if_false]
    omega

/-- An array from which an item was filtered out is smaller by the size of that item. -/
theorem itemsSize_filter_le {α : Type} {write : α → Json} {least : ℕ}
    (large : ∀ value, least ≤ size (write value)) {values : List α} {keeps : α → Bool}
    (fewer : (values.filter keeps).length ≠ values.length) :
    itemsSize true ((values.filter keeps).map write) + least ≤ itemsSize true (values.map write) := by
  have sums : ((values.filter keeps).map fun value => 1 + size (write value)).sum + (1 + least) ≤
      (values.map fun value => 1 + size (write value)).sum := by
    induction values with
    | nil => exact absurd rfl fewer
    | cons value rest ih =>
      rw [filter_cons] at fewer ⊢
      split at fewer
      · rename_i kept
        rw [if_pos kept, map_cons, map_cons, sum_cons, sum_cons]
        have := ih fun same => fewer (by rw [length_cons, length_cons, same])
        omega
      · rename_i dropped
        rw [if_neg dropped, map_cons, sum_cons]
        have kept : ((rest.filter keeps).map fun value => 1 + size (write value)).sum ≤
            (rest.map fun value => 1 + size (write value)).sum :=
          (filter_sublist.map _).sum_le_sum fun _ _ => Nat.zero_le _
        have := large value
        omega
  have few := itemsSize_true ((values.filter keeps).map write)
  have all := itemsSize_true (values.map write)
  simp only [itemsSize_false, map_map, Function.comp_def] at few all
  omega

theorem length_integerChars_int64 (value : Int64) : (integerChars value.toInt).length ≤ 20 := by
  have low := value.le_toInt
  have high := value.toInt_lt
  cases isValue : value.toInt with
  | ofNat n =>
    rw [isValue] at high
    exact ((Nat.length_toDigits_le_iff (by decide) (by decide)).2
      (show n < 10 ^ 19 by simp at high; omega)).trans (by decide)
  | negSucc n =>
    rw [isValue] at low
    refine Nat.succ_le_succ ((Nat.length_toDigits_le_iff (by decide) (by decide)).2
      (show n + 1 < 10 ^ 19 by omega))

end Json

end Wts
