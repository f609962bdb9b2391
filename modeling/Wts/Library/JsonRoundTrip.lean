/-
Module: Wts.Library.JsonRoundTrip
Purpose: The reader of JSON text inverts the writer: strings with their escapes, integers, and
  values at any depth.
-/
import Wts.Library.Json

namespace Wts.Json

open List Sha256

variable {c : Char}

theorem readEscape_control (small : c.toNat < 0x20) (rest : List Char) :
    readEscape ('u' :: '0' :: '0' :: hexDigit (c.toNat / 16) ::
      hexDigit (c.toNat % 16) :: rest) = some (c, rest) := by
  have high := hexValue_hexDigit (show c.toNat / 16 < 16 by omega)
  have low := hexValue_hexDigit (show c.toNat % 16 < 16 by omega)
  have zero : hexValue '0' = some 0 := rfl
  have value : ((0 * 16 + 0) * 16 + c.toNat / 16) * 16 + c.toNat % 16 = c.toNat := by omega
  have unit : readHex ('0' :: '0' :: hexDigit (c.toNat / 16) ::
      hexDigit (c.toNat % 16) :: rest) = some (c.toNat, rest) := by
    simp only [readHex, zero, high, low, value]
  simp [readEscape, readUnicode, unit, Char.ofNat_toNat, show c.toNat < 55296 by omega]

theorem readString_escapeChar (c : Char) (fuel : ℕ) (rest : List Char) :
    readString (fuel + 1) (escapeChar c ++ rest) =
      (readString fuel rest).map fun (tail, rest) => (c :: tail, rest) := by
  unfold escapeChar
  iterate 7
    split
    · subst c
      simp [readString, readEscape]
  split
  · rename_i small
    have read := readEscape_control small rest
    simp [readString, read]
  rename_i quote backslash _ _ _ _ _ large
  simp [readString, quote, backslash, large]

theorem readString_chars (text : List Char) (fuel : ℕ) (rest : List Char)
    (enough : text.length < fuel) :
    readString fuel (text.flatMap escapeChar ++ '\"' :: rest) = some (text, rest) := by
  induction text generalizing fuel with
  | nil =>
    cases fuel with
    | zero => cases enough
    | succ fuel => simp [readString]
  | cons c tail ih =>
    cases fuel with
    | zero => cases enough
    | succ fuel =>
      have step := readString_escapeChar c fuel (tail.flatMap escapeChar ++ '\"' :: rest)
      have tailRead := ih fuel (by simpa using enough)
      rw [flatMap_cons, append_assoc, step, tailRead]
      rfl

theorem length_le_flatMap_escapeChar (text : List Char) :
    text.length ≤ (text.flatMap escapeChar).length := by
  induction text with
  | nil => simp
  | cons c tail ih =>
    have some_chars : 1 ≤ (escapeChar c).length := by
      unfold escapeChar
      repeat' split
      all_goals simp
    simp only [flatMap_cons, length_append, length_cons]
    omega

/-- The text does not go on with a digit. -/
def Stops (rest : List Char) : Prop :=
  ∀ c tail, rest = c :: tail → c.isDigit = false

variable {rest : List Char}

theorem stops_cons (other : c.isDigit = false) : Stops (c :: rest) := by
  intro d tail same
  cases same
  exact other

theorem stops_nil : Stops [] := by
  intro c tail same
  cases same

theorem readNatural_toDigits (n : ℕ) (stops : Stops rest) :
    readNatural (Nat.toDigits 10 n ++ rest) = some (n, rest) := by
  have digits : ∀ c ∈ Nat.toDigits 10 n, c.isDigit = true := fun c member =>
    Nat.isDigit_of_mem_toDigits (by decide) (by decide) member
  have head : rest.takeWhile Char.isDigit = [] ∧ rest.dropWhile Char.isDigit = rest := by
    cases rest with
    | nil => exact ⟨rfl, rfl⟩
    | cons c tail => simp [stops c tail rfl]
  have taken : (Nat.toDigits 10 n ++ rest).takeWhile Char.isDigit = Nat.toDigits 10 n := by
    rw [takeWhile_append_of_pos digits, head.1, append_nil]
  have dropped : (Nat.toDigits 10 n ++ rest).dropWhile Char.isDigit = rest := by
    rw [dropWhile_append_of_pos digits, head.2]
  have value : Nat.ofDigitChars 10 (Nat.toDigits 10 n) 0 = n := Nat.ofDigitChars_ten_toDigits
  simp only [readNatural, taken, dropped, value, if_true]

theorem toDigits_eq_cons (n : ℕ) : ∃ c tail, Nat.toDigits 10 n = c :: tail ∧ c.isDigit = true := by
  cases digits : Nat.toDigits 10 n with
  | nil => exact absurd digits Nat.toDigits_ne_nil
  | cons c tail =>
    refine ⟨c, tail, rfl, Nat.isDigit_of_mem_toDigits (b := 10) (n := n) (by decide) (by decide) ?_⟩
    rw [digits]
    exact mem_cons_self

theorem readInteger_chars (value : ℤ) (stops : Stops rest) :
    readInteger (integerChars value ++ rest) = some (value, rest) := by
  cases value with
  | ofNat n =>
    obtain ⟨c, tail, digits, isDigit⟩ := toDigits_eq_cons n
    have plain : c ≠ '-' := by
      intro same
      rw [same] at isDigit
      cases isDigit
    have read := readNatural_toDigits n stops
    rw [digits, cons_append] at read
    simp only [integerChars, digits, cons_append, readInteger, if_neg plain, read]
    rfl
  | negSucc n =>
    have read := readNatural_toDigits (n + 1) stops
    simp [integerChars, readInteger, read]

/-! ### Values -/

/-- The text of a value starts with a character that is neither white space nor a closing bracket. -/
structure Opens (text : List Char) : Prop where
  nonempty : text ≠ []
  head : ∀ c tail, text = c :: tail → isSpace c = false ∧ c ≠ ']' ∧ c ≠ '}'

theorem opens_cons {tail : List Char}
    (plain : isSpace c = false ∧ c ≠ ']' ∧ c ≠ '}') : Opens (c :: tail) := by
  constructor
  · simp
  intro d rest same
  cases same
  exact plain

theorem opens_of_isDigit {tail : List Char} (digit : c.isDigit = true) : Opens (c :: tail) := by
  apply opens_cons
  refine ⟨?_, ?_, ?_⟩
  · by_contra space
    simp only [isSpace, Bool.not_eq_false, Bool.or_eq_true, decide_eq_true_eq] at space
    rcases space with ((rfl | rfl) | rfl) | rfl <;> cases digit
  · intro same
    subst c
    cases digit
  intro same
  subst c
  cases digit

theorem opens_chars (value : Json) : Opens (chars value) := by
  cases value with
  | null => exact opens_cons (by decide)
  | bool value => cases value <;> exact opens_cons (by decide)
  | number value =>
    cases value with
    | ofNat n =>
      obtain ⟨c, tail, digits, isDigit⟩ := toDigits_eq_cons n
      rw [chars, integerChars, digits]
      exact opens_of_isDigit isDigit
    | negSucc n => exact opens_cons (by decide)
  | string value => exact opens_cons (by decide)
  | array items => exact opens_cons (by decide)
  | object fields => exact opens_cons (by decide)

theorem skipSpace_cons (plain : isSpace c = false) (tail : List Char) :
    skipSpace (c :: tail) = c :: tail := by
  simp [skipSpace, plain]

theorem opens_entryChars (entry : String × Json) : Opens (entryChars entry) := by
  cases entry
  exact opens_cons (by decide)

theorem length_itemChars_pos (first : Bool) (items : List Json) :
    1 ≤ (itemChars first items).length := by
  cases items with
  | nil => simp [itemChars]
  | cons item rest =>
    have nonempty := length_pos_of_ne_nil (opens_chars item).nonempty
    simp only [itemChars, length_append]
    omega

theorem length_fieldChars_pos (first : Bool) (fields : List (String × Json)) :
    1 ≤ (fieldChars first fields).length := by
  cases fields with
  | nil => simp [fieldChars]
  | cons field rest =>
    have nonempty := length_pos_of_ne_nil (opens_entryChars field).nonempty
    simp only [fieldChars, length_append]
    omega

theorem stops_itemChars (items : List Json) (rest : List Char) :
    Stops (itemChars false items ++ rest) := by
  cases items <;> exact stops_cons (by decide)

theorem stops_fieldChars (fields : List (String × Json)) (rest : List Char) :
    Stops (fieldChars false fields ++ rest) := by
  cases fields <;> exact stops_cons (by decide)

theorem readKeyword_append (keyword rest : List Char) (value : Json) :
    readKeyword keyword value (keyword ++ rest) = some (value, rest) := by
  simp [readKeyword]

theorem readString_stringChars (text : String) (rest : List Char) :
    readString ((text.toList.flatMap escapeChar ++ '\"' :: rest).length + 1)
      (text.toList.flatMap escapeChar ++ '\"' :: rest) = some (text.toList, rest) := by
  apply readString_chars
  have long := length_le_flatMap_escapeChar text.toList
  simp only [length_append]
  omega

theorem readValue_of_integer (tail : List Char) (fuel : ℕ)
    (integer : c.isDigit = true ∨ c = '-') : readValue (fuel + 1) (c :: tail) =
      (readInteger (c :: tail)).map fun (value, rest) => (.number value, rest) := by
  have plain : isSpace c = false := by
    rcases integer with digit | rfl
    · have opens : Opens (c :: tail) := opens_of_isDigit digit
      exact (opens.head c tail rfl).1
    · rfl
  have other : ∀ d : Char, d.isDigit = false → d ≠ '-' → c ≠ d := by
    intro d noDigit noSign same
    subst d
    rcases integer with digit | sign
    · rw [digit] at noDigit
      cases noDigit
    · exact noSign sign
  simp only [readValue, skipSpace_cons plain]
  rw [if_neg (other _ (by decide) (by decide)), if_neg (other _ (by decide) (by decide)),
    if_neg (other _ (by decide) (by decide)), if_neg (other _ (by decide) (by decide)),
    if_neg (other _ (by decide) (by decide)), if_neg (other _ (by decide) (by decide))]

theorem integerChars_eq_cons (value : ℤ) :
    ∃ c tail, integerChars value = c :: tail ∧ (c.isDigit = true ∨ c = '-') := by
  cases value with
  | ofNat n =>
    obtain ⟨c, tail, digits, isDigit⟩ := toDigits_eq_cons n
    exact ⟨c, tail, digits, .inl isDigit⟩
  | negSucc n => exact ⟨'-', _, rfl, .inr rfl⟩

mutual

theorem readValue_chars : ∀ (value : Json) (fuel : ℕ) (rest : List Char),
    (chars value).length < fuel → Stops rest →
      readValue fuel (chars value ++ rest) = some (value, rest)
  | value, 0, _, enough, _ => absurd enough (Nat.not_lt_zero _)
  | .null, fuel + 1, rest, _, _ => by
    have word := readKeyword_append ['n', 'u', 'l', 'l'] rest .null
    simpa [readValue, chars, skipSpace, isSpace] using word
  | .bool true, fuel + 1, rest, _, _ => by
    have word := readKeyword_append ['t', 'r', 'u', 'e'] rest (.bool true)
    simpa [readValue, chars, skipSpace, isSpace] using word
  | .bool false, fuel + 1, rest, _, _ => by
    have word := readKeyword_append ['f', 'a', 'l', 's', 'e'] rest (.bool false)
    simpa [readValue, chars, skipSpace, isSpace] using word
  | .number value, fuel + 1, rest, _, stops => by
    obtain ⟨c, tail, digits, integer⟩ := integerChars_eq_cons value
    have read := readInteger_chars value stops
    rw [digits, cons_append] at read
    rw [chars, digits, cons_append, readValue_of_integer _ _ integer, read]
    rfl
  | .string value, fuel + 1, rest, _, _ => by
    have read := readString_stringChars value rest
    simp only [chars, stringChars, cons_append, append_assoc, nil_append]
    simp only [readValue, skipSpace_cons (show isSpace '\"' = false by decide), if_true, read,
      Option.map_some, String.ofList_toList]
  | .array items, fuel + 1, rest, enough, _ => by
    have read := readItems_chars items true fuel rest (by simp [chars] at enough; omega)
    simp [readValue, chars, skipSpace, isSpace, read]
  | .object fields, fuel + 1, rest, enough, _ => by
    have read := readFields_chars fields true fuel rest (by simp [chars] at enough; omega)
    simp [readValue, chars, skipSpace, isSpace, read]

theorem readItems_chars : ∀ (items : List Json) (first : Bool) (fuel : ℕ) (rest : List Char),
    (itemChars first items).length < fuel →
      readItems fuel first (itemChars first items ++ rest) = some (items, rest)
  | items, _, 0, _, enough => absurd enough (Nat.not_lt_zero _)
  | [], first, fuel + 1, rest, _ => by
    simp [readItems, itemChars, skipSpace, isSpace]
  | item :: items, first, fuel + 1, rest, enough => by
    have nonempty := length_pos_of_ne_nil (opens_chars item).nonempty
    have more := length_itemChars_pos false items
    simp only [itemChars, length_append] at enough
    have head := readValue_chars item fuel (itemChars false items ++ rest) (by omega)
      (stops_itemChars items rest)
    have tail := readItems_chars items false fuel rest (by omega)
    cases first with
    | false =>
      simp [itemChars, readItems, skipSpace_cons (show isSpace ',' = false by decide), head, tail]
    | true =>
      obtain ⟨c, text, starts⟩ := exists_cons_of_ne_nil (opens_chars item).nonempty
      have plain := (opens_chars item).head c text starts
      rw [starts, cons_append] at head
      simp [itemChars, readItems, starts, skipSpace_cons plain.1, plain.2.1, head, tail]

theorem readFields_chars : ∀ (fields : List (String × Json)) (first : Bool) (fuel : ℕ)
    (rest : List Char), (fieldChars first fields).length < fuel →
      readFields fuel first (fieldChars first fields ++ rest) = some (fields, rest)
  | fields, _, 0, _, enough => absurd enough (Nat.not_lt_zero _)
  | [], first, fuel + 1, rest, _ => by
    simp [readFields, fieldChars, skipSpace, isSpace]
  | field :: fields, first, fuel + 1, rest, enough => by
    have nonempty := length_pos_of_ne_nil (opens_entryChars field).nonempty
    have more := length_fieldChars_pos false fields
    simp only [fieldChars, length_append] at enough
    have head := readEntry_chars field fuel (fieldChars false fields ++ rest) (by omega)
      (stops_fieldChars fields rest)
    have tail := readFields_chars fields false fuel rest (by omega)
    cases first with
    | false =>
      simp [fieldChars, readFields, skipSpace_cons (show isSpace ',' = false by decide), head,
        tail]
    | true =>
      obtain ⟨c, text, starts⟩ := exists_cons_of_ne_nil (opens_entryChars field).nonempty
      have plain := (opens_entryChars field).head c text starts
      rw [starts, cons_append] at head
      simp [fieldChars, readFields, starts, skipSpace_cons plain.1, plain.2.2, head, tail]

theorem readEntry_chars : ∀ (entry : String × Json) (fuel : ℕ) (rest : List Char),
    (entryChars entry).length < fuel → Stops rest →
      readEntry fuel (entryChars entry ++ rest) = some (entry, rest)
  | entry, 0, _, enough, _ => absurd enough (Nat.not_lt_zero _)
  | (name, value), fuel + 1, rest, enough, stops => by
    have read := readString_stringChars name (':' :: (chars value ++ rest))
    simp only [entryChars, stringChars, length_append, length_cons] at enough
    have body := readValue_chars value fuel rest (by omega) stops
    simp only [entryChars, stringChars, cons_append, append_assoc, nil_append]
    simp only [readEntry, skipSpace_cons (show isSpace '\"' = false by decide), if_true, read,
      skipSpace_cons (show isSpace ':' = false by decide), body, Option.map_some,
      String.ofList_toList]

end

theorem parse_print (value : Json) : parse (print value) = some value := by
  have read := readValue_chars value ((chars value).length + 1) [] (Nat.lt_succ_self _) stops_nil
  rw [append_nil] at read
  simp [parse, print, read, skipSpace]

theorem print_injective : Function.Injective print := by
  intro first second same
  have parsed := congrArg parse same
  rw [parse_print, parse_print] at parsed
  exact Option.some.inj parsed

end Wts.Json
