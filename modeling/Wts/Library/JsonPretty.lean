/-
Module: Wts.Library.JsonPretty
Purpose: The indented JSON text that `serde_json::to_vec_pretty` writes, and that the reader inverts it
  as it inverts the compact text: white space between the parts is skipped.
-/
import Wts.Library.JsonRoundTrip

namespace Wts.Json

open List

/-- A new line with two blanks for each level. -/
def newline (depth : ℕ) : List Char :=
  '\n' :: List.replicate (2 * depth) ' '

mutual

def prettyChars (depth : ℕ) : Json → List Char
  | .null => chars .null
  | .bool value => chars (.bool value)
  | .number value => chars (.number value)
  | .string value => chars (.string value)
  | .array items => '[' :: prettyItems depth true items
  | .object fields => '{' :: prettyFields depth true fields

/-- Items, each on its own line, and the closing bracket, on a new line when there are items. -/
def prettyItems (depth : ℕ) (first : Bool) : List Json → List Char
  | [] => (if first then [] else newline depth) ++ [']']
  | item :: rest =>
    (if first then [] else [',']) ++
      (newline (depth + 1) ++ (prettyChars (depth + 1) item ++ prettyItems depth false rest))

def prettyFields (depth : ℕ) (first : Bool) : List (String × Json) → List Char
  | [] => (if first then [] else newline depth) ++ ['}']
  | field :: rest =>
    (if first then [] else [',']) ++
      (newline (depth + 1) ++ (prettyEntry (depth + 1) field ++ prettyFields depth false rest))

def prettyEntry (depth : ℕ) : String × Json → List Char
  | (name, value) => stringChars name ++ ':' :: ' ' :: prettyChars depth value

end

/-- `serde_json::to_string_pretty`. -/
def pretty (value : Json) : String :=
  String.ofList (prettyChars 0 value)

/-! ### Reading -/

theorem skipSpace_space {c : Char} (space : isSpace c = true) (text : List Char) :
    skipSpace (c :: text) = skipSpace text := by
  simp [skipSpace, space]

theorem skipSpace_newline (depth : ℕ) (text : List Char) :
    skipSpace (newline depth ++ text) = skipSpace text := by
  have blanks : ∀ n, skipSpace (List.replicate n ' ' ++ text) = skipSpace text := by
    intro n
    induction n with
    | zero => rfl
    | succ n ih =>
      rw [replicate_succ, cons_append, skipSpace_space rfl, ih]
  rw [newline, cons_append, skipSpace_space rfl, blanks]

theorem readValue_newline (fuel depth : ℕ) (text : List Char) :
    readValue fuel (newline depth ++ text) = readValue fuel text := by
  cases fuel with
  | zero => rfl
  | succ fuel => simp only [readValue, skipSpace_newline]

theorem readEntry_newline (fuel depth : ℕ) (text : List Char) :
    readEntry fuel (newline depth ++ text) = readEntry fuel text := by
  cases fuel with
  | zero => rfl
  | succ fuel => simp only [readEntry, skipSpace_newline]

theorem readValue_blank (fuel : ℕ) (text : List Char) :
    readValue fuel (' ' :: text) = readValue fuel text := by
  cases fuel with
  | zero => rfl
  | succ fuel => simp only [readValue, skipSpace_space (show isSpace ' ' = true by decide)]

theorem opens_prettyChars (depth : ℕ) (value : Json) : Opens (prettyChars depth value) := by
  cases value with
  | null => exact opens_chars .null
  | bool value => exact opens_chars (.bool value)
  | number value => exact opens_chars (.number value)
  | string value => exact opens_chars (.string value)
  | array items => exact opens_cons (by decide)
  | object fields => exact opens_cons (by decide)

theorem opens_prettyEntry (depth : ℕ) (entry : String × Json) : Opens (prettyEntry depth entry) := by
  cases entry
  exact opens_cons (by decide)

theorem length_prettyItems_pos (depth : ℕ) (first : Bool) (items : List Json) :
    1 ≤ (prettyItems depth first items).length := by
  cases items with
  | nil => simp [prettyItems]
  | cons item rest =>
    simp only [prettyItems, newline, length_append, length_cons]
    omega

theorem length_prettyFields_pos (depth : ℕ) (first : Bool) (fields : List (String × Json)) :
    1 ≤ (prettyFields depth first fields).length := by
  cases fields with
  | nil => simp [prettyFields]
  | cons field rest =>
    simp only [prettyFields, newline, length_append, length_cons]
    omega

theorem stops_prettyItems (depth : ℕ) (items : List Json) (rest : List Char) :
    Stops (prettyItems depth false items ++ rest) := by
  cases items <;> exact stops_cons (by decide)

theorem stops_prettyFields (depth : ℕ) (fields : List (String × Json)) (rest : List Char) :
    Stops (prettyFields depth false fields ++ rest) := by
  cases fields <;> exact stops_cons (by decide)

theorem skipSpace_newline_opens {text : List Char} (opens : Opens text) (depth : ℕ)
    (rest : List Char) : ∃ c tail, text = c :: tail ∧ c ≠ ']' ∧ c ≠ '}' ∧
      skipSpace (newline depth ++ (text ++ rest)) = c :: (tail ++ rest) := by
  obtain ⟨c, tail, starts⟩ := exists_cons_of_ne_nil opens.nonempty
  have plain := opens.head c tail starts
  refine ⟨c, tail, starts, plain.2.1, plain.2.2, ?_⟩
  rw [skipSpace_newline, starts, cons_append, skipSpace_cons plain.1]

mutual

theorem readValue_prettyChars : ∀ (value : Json) (depth fuel : ℕ) (rest : List Char),
    (prettyChars depth value).length < fuel → Stops rest →
      readValue fuel (prettyChars depth value ++ rest) = some (value, rest)
  | value, _, 0, _, enough, _ => absurd enough (Nat.not_lt_zero _)
  | .null, _, fuel + 1, rest, enough, stops => readValue_chars .null (fuel + 1) rest enough stops
  | .bool value, _, fuel + 1, rest, enough, stops =>
    readValue_chars (.bool value) (fuel + 1) rest enough stops
  | .number value, _, fuel + 1, rest, enough, stops =>
    readValue_chars (.number value) (fuel + 1) rest enough stops
  | .string value, _, fuel + 1, rest, enough, stops =>
    readValue_chars (.string value) (fuel + 1) rest enough stops
  | .array items, depth, fuel + 1, rest, enough, _ => by
    have read := readItems_prettyItems items depth true fuel rest
      (by simp [prettyChars] at enough; omega)
    simp [readValue, prettyChars, skipSpace, isSpace, read]
  | .object fields, depth, fuel + 1, rest, enough, _ => by
    have read := readFields_prettyFields fields depth true fuel rest
      (by simp [prettyChars] at enough; omega)
    simp [readValue, prettyChars, skipSpace, isSpace, read]

theorem readItems_prettyItems : ∀ (items : List Json) (depth : ℕ) (first : Bool) (fuel : ℕ)
    (rest : List Char), (prettyItems depth first items).length < fuel →
      readItems fuel first (prettyItems depth first items ++ rest) = some (items, rest)
  | items, _, _, 0, _, enough => absurd enough (Nat.not_lt_zero _)
  | [], depth, first, fuel + 1, rest, _ => by
    cases first with
    | true => simp [readItems, prettyItems, skipSpace, isSpace]
    | false =>
      simp [readItems, prettyItems, skipSpace_newline,
        skipSpace_cons (show isSpace ']' = false by decide)]
  | item :: items, depth, first, fuel + 1, rest, enough => by
    have more := length_prettyItems_pos depth false items
    simp only [prettyItems, newline, length_append, length_cons] at enough
    have head := readValue_prettyChars item (depth + 1) fuel (prettyItems depth false items ++ rest)
      (by omega) (stops_prettyItems depth items rest)
    have tail := readItems_prettyItems items depth false fuel rest (by omega)
    cases first with
    | false =>
      simp [prettyItems, readItems, skipSpace_cons (show isSpace ',' = false by decide),
        readValue_newline, head, tail]
    | true =>
      obtain ⟨c, text, starts, bracket, _, skipped⟩ :=
        skipSpace_newline_opens (opens_prettyChars (depth + 1) item) (depth + 1)
          (prettyItems depth false items ++ rest)
      rw [starts, cons_append] at head
      simp [prettyItems, readItems, skipped, bracket, head, tail]

theorem readFields_prettyFields : ∀ (fields : List (String × Json)) (depth : ℕ) (first : Bool)
    (fuel : ℕ) (rest : List Char), (prettyFields depth first fields).length < fuel →
      readFields fuel first (prettyFields depth first fields ++ rest) = some (fields, rest)
  | fields, _, _, 0, _, enough => absurd enough (Nat.not_lt_zero _)
  | [], depth, first, fuel + 1, rest, _ => by
    cases first with
    | true => simp [readFields, prettyFields, skipSpace, isSpace]
    | false =>
      simp [readFields, prettyFields, skipSpace_newline,
        skipSpace_cons (show isSpace '}' = false by decide)]
  | field :: fields, depth, first, fuel + 1, rest, enough => by
    have more := length_prettyFields_pos depth false fields
    simp only [prettyFields, newline, length_append, length_cons] at enough
    have head := readEntry_prettyEntry field (depth + 1) fuel
      (prettyFields depth false fields ++ rest) (by omega) (stops_prettyFields depth fields rest)
    have tail := readFields_prettyFields fields depth false fuel rest (by omega)
    cases first with
    | false =>
      simp [prettyFields, readFields, skipSpace_cons (show isSpace ',' = false by decide),
        readEntry_newline, head, tail]
    | true =>
      obtain ⟨c, text, starts, _, brace, skipped⟩ :=
        skipSpace_newline_opens (opens_prettyEntry (depth + 1) field) (depth + 1)
          (prettyFields depth false fields ++ rest)
      rw [starts, cons_append] at head
      simp [prettyFields, readFields, skipped, brace, head, tail]

theorem readEntry_prettyEntry : ∀ (entry : String × Json) (depth fuel : ℕ) (rest : List Char),
    (prettyEntry depth entry).length < fuel → Stops rest →
      readEntry fuel (prettyEntry depth entry ++ rest) = some (entry, rest)
  | entry, _, 0, _, enough, _ => absurd enough (Nat.not_lt_zero _)
  | (name, value), depth, fuel + 1, rest, enough, stops => by
    have read := readString_stringChars name (':' :: ' ' :: (prettyChars depth value ++ rest))
    simp only [prettyEntry, stringChars, length_append, length_cons] at enough
    have body := readValue_prettyChars value depth fuel rest (by omega) stops
    simp only [prettyEntry, stringChars, cons_append, append_assoc, nil_append]
    simp only [readEntry, skipSpace_cons (show isSpace '\"' = false by decide), if_true, read,
      skipSpace_cons (show isSpace ':' = false by decide), readValue_blank, body, Option.map_some,
      String.ofList_toList]

end

theorem parse_pretty (value : Json) : parse (pretty value) = some value := by
  have read := readValue_prettyChars value 0 ((prettyChars 0 value).length + 1) []
    (Nat.lt_succ_self _) stops_nil
  rw [append_nil] at read
  simp [parse, pretty, read, skipSpace]

end Wts.Json
