/-
Module: Wts.Library.UuidText
Purpose: The text of a universally unique identifier as the uuid crate writes it, in groups of 8, 4, 4,
  4 and 12 lower-case hexadecimal digits, and the texts it reads: with or without hyphens, in braces,
  or as a URN, in either case.
-/
import Wts.Library.Json
import Wts.Library.StdTypes

namespace Wts

open List

/-- The last digits of a number to base 16. -/
def hexDigits : ℕ → ℕ → List Char
  | 0, _ => []
  | width + 1, n => hexDigits width (n / 16) ++ [Sha256.hexDigit (n % 16)]

/-- A number read from hexadecimal digits of either case. -/
def readHexDigits : List Char → ℕ → Option ℕ
  | [], value => some value
  | c :: rest, value =>
    match Json.hexValue c with
    | none => none
    | some digit => readHexDigits rest (value * 16 + digit)

/-- `Uuid::to_string`. -/
def uuidText (id : Uuid) : String :=
  let digits := hexDigits 32 id.val
  String.ofList
    (digits.take 8 ++ '-' :: ((digits.drop 8).take 4 ++ '-' :: ((digits.drop 12).take 4 ++
      '-' :: ((digits.drop 16).take 4 ++ '-' :: digits.drop 20))))

/-- The value of 32 hexadecimal digits. -/
def parseSimple (digits : List Char) : Option Uuid :=
  if digits.length = 32 then (readHexDigits digits 0).map (Fin.ofNat (2 ^ 128)) else none

/-- The value of 36 characters with hyphens at positions 8, 13, 18 and 23. -/
def parseHyphenated (text : List Char) : Option Uuid :=
  if text[8]? = some '-' ∧ text[13]? = some '-' ∧ text[18]? = some '-' ∧ text[23]? = some '-' then
    parseSimple
      (text.take 8 ++ ((text.drop 9).take 4 ++ ((text.drop 14).take 4 ++
        ((text.drop 19).take 4 ++ text.drop 24))))
  else
    none

def urnPrefix : List Char :=
  "urn:uuid:".toList

def parseUuid (text : String) : Option Uuid :=
  let chars := text.toList
  if chars.length = 32 then parseSimple chars
  else if chars.length = 36 then parseHyphenated chars
  else if chars.length = 38 ∧ chars.head? = some '\x7b' ∧ chars.getLast? = some '\x7d' then
    parseHyphenated ((chars.drop 1).take 36)
  else if chars.length = 45 ∧ urnPrefix.isPrefixOf chars then
    parseHyphenated (chars.drop 9)
  else none

/-! ### What is written is read back -/

@[simp] theorem length_hexDigits (width n : ℕ) : (hexDigits width n).length = width := by
  induction width generalizing n with
  | zero => rfl
  | succ width ih => simp [hexDigits, ih]

theorem readHexDigits_append (first second : List Char) (value : ℕ) :
    readHexDigits (first ++ second) value =
      (readHexDigits first value).bind (readHexDigits second) := by
  induction first generalizing value with
  | nil => rfl
  | cons c rest ih =>
    simp only [cons_append, readHexDigits]
    cases Json.hexValue c with
    | none => rfl
    | some digit => exact ih _

theorem readHexDigits_hexDigits (width n value : ℕ) (small : n < 16 ^ width) :
    readHexDigits (hexDigits width n) value = some (value * 16 ^ width + n) := by
  induction width generalizing n with
  | zero =>
    have zero : n = 0 := by simpa using small
    simp [hexDigits, readHexDigits, zero]
  | succ width ih =>
    have quotient : n / 16 < 16 ^ width := by
      rw [Nat.pow_succ] at small
      exact Nat.div_lt_of_lt_mul (by omega)
    have last := Json.hexValue_hexDigit (Nat.mod_lt n (show 0 < 16 by decide))
    rw [hexDigits, readHexDigits_append, ih _ quotient]
    simp only [Option.bind_some, readHexDigits, last, Option.some.injEq]
    rw [Nat.pow_succ]
    have whole := Nat.div_add_mod n 16
    rw [Nat.add_mul, Nat.mul_assoc]
    omega

theorem parseSimple_hexDigits (id : Uuid) : parseSimple (hexDigits 32 id.val) = some id := by
  have small : id.val < 16 ^ 32 := id.isLt
  have read := readHexDigits_hexDigits 32 id.val 0 small
  simp only [Nat.zero_mul, Nat.zero_add] at read
  simp [parseSimple, read]

theorem groups_hexDigits (digits : List Char) :
    digits.take 8 ++ ((digits.drop 8).take 4 ++ ((digits.drop 12).take 4 ++
      ((digits.drop 16).take 4 ++ digits.drop 20))) = digits := by
  have join : ∀ (n m : ℕ), (digits.drop n).take m ++ digits.drop (n + m) = digits.drop n := by
    intro n m
    rw [← drop_drop]
    exact take_append_drop m (digits.drop n)
  rw [join 16 4, join 12 4, join 8 4, take_append_drop]

theorem length_uuidText (id : Uuid) : (uuidText id).toList.length = 36 := by
  simp [uuidText]

theorem parseHyphenated_groups {a b c d e : List Char} (ha : a.length = 8) (hb : b.length = 4)
    (hc : c.length = 4) (hd : d.length = 4) :
    parseHyphenated (a ++ '-' :: (b ++ '-' :: (c ++ '-' :: (d ++ '-' :: e)))) =
      parseSimple (a ++ (b ++ (c ++ (d ++ e)))) := by
  simp [parseHyphenated, getElem?_append, drop_append, drop_eq_nil_of_le,
    ha, hb, hc, hd]

theorem parseUuid_uuidText (id : Uuid) : parseUuid (uuidText id) = some id := by
  have long := length_uuidText id
  have simple := parseSimple_hexDigits id
  have digits := length_hexDigits 32 id.val
  rw [← groups_hexDigits (hexDigits 32 id.val),
    ← parseHyphenated_groups (by simp) (by simp) (by simp) (by simp)] at simple
  simp only [parseUuid, long]
  simpa [uuidText] using simple

end Wts
