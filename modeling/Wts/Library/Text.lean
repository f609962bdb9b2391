/-
Module: Wts.Library.Text
Purpose: The parts of Rust's `char` and `str` that the program calls: Unicode white space and
  control characters, trimming, ASCII case mapping, splitting at a character, the UTF-8 bytes of a
  string and the decimal text of a number.
-/
import Mathlib

namespace Wts.Text

open List

/-- Unicode property `White_Space`, as `char::is_whitespace`. -/
def isWhitespace (c : Char) : Bool :=
  let n := c.toNat
  (9 ≤ n && n ≤ 13) || n == 0x20 || n == 0x85 || n == 0xA0 || n == 0x1680 ||
    (0x2000 ≤ n && n ≤ 0x200A) || n == 0x2028 || n == 0x2029 || n == 0x202F || n == 0x205F ||
    n == 0x3000

/-- Unicode general category `Cc`, as `char::is_control`. -/
def isControl (c : Char) : Bool :=
  let n := c.toNat
  n ≤ 0x1F || (0x7F ≤ n && n ≤ 0x9F)

def isAsciiAlphanumeric (c : Char) : Bool :=
  c.isAlphanum

/-- The characters of `str::trim`: white space goes at both ends. -/
def trimChars (chars : List Char) : List Char :=
  (chars.dropWhile isWhitespace).rdropWhile isWhitespace

def trim (text : String) : String :=
  String.ofList (trimChars text.toList)

theorem dropWhile_rdropWhile_dropWhile (chars : List Char) :
    (trimChars chars).dropWhile isWhitespace = trimChars chars := by
  rw [dropWhile_eq_self_iff]
  intro nonempty
  -- the first character survives the right trim, so it is the first one kept by the left trim
  obtain ⟨dropped, split⟩ := rdropWhile_prefix isWhitespace (chars.dropWhile isWhitespace)
  have kept : 0 < (chars.dropWhile isWhitespace).length := by
    have := congrArg List.length split
    simp only [length_append] at this
    simp only [trimChars] at nonempty
    omega
  have first := dropWhile_eq_self_iff.1 (dropWhile_idempotent isWhitespace chars) kept
  have same : (trimChars chars)[0] = (chars.dropWhile isWhitespace)[0] := by
    have : (chars.dropWhile isWhitespace)[0]? = (trimChars chars)[0]? := by
      rw [← split, getElem?_append_left (by simpa [trimChars] using nonempty)]
      rfl
    rw [getElem?_eq_getElem kept, getElem?_eq_getElem nonempty] at this
    exact (Option.some.inj this).symm
  rw [same]
  exact first

theorem trimChars_trimChars (chars : List Char) : trimChars (trimChars chars) = trimChars chars := by
  rw [trimChars, dropWhile_rdropWhile_dropWhile, trimChars, rdropWhile_idempotent]

@[simp] theorem trim_trim (text : String) : trim (trim text) = trim text := by
  simp [trim, trimChars_trimChars]

def toAsciiUppercase (text : String) : String :=
  String.ofList (text.toList.map Char.toUpper)

/-- `str::split` at one character. -/
def split (separator : Char) (text : String) : List String :=
  (text.toList.splitOn separator).map String.ofList

/-- `str::split_once` at one character. -/
def splitOnce (separator : Char) (text : String) : Option (String × String) :=
  if separator ∈ text.toList then
    some (String.ofList (text.toList.takeWhile (· ≠ separator)),
      String.ofList ((text.toList.dropWhile (· ≠ separator)).drop 1))
  else
    none

def stripPrefix (start text : String) : Option String :=
  if start.toList.isPrefixOf text.toList then
    some (String.ofList (text.toList.drop start.toList.length))
  else
    none

def startsWith (start text : String) : Bool :=
  start.toList.isPrefixOf text.toList

def endsWith (ending text : String) : Bool :=
  ending.toList.isSuffixOf text.toList

/-- `str::contains`. -/
def containsText (pattern text : String) : Bool :=
  text.toList.tails.any fun suffix => pattern.toList.isPrefixOf suffix

/-- `sort` and then `dedup` on a list of strings: the distinct entries in increasing order. -/
def sortDedup (entries : List String) : List String :=
  (entries.insertionSort (· ≤ ·)).destutter (· ≠ ·)

/-- `str::as_bytes`. -/
def utf8Bytes (text : String) : List UInt8 :=
  text.toByteArray.data.toList

theorem utf8Bytes_injective : Function.Injective utf8Bytes := by
  intro first second same
  apply String.toByteArray_inj.1
  apply ByteArray.ext
  exact Array.toList_inj.1 same

theorem utf8ByteSize_ofList_le (chars : List Char) :
    (String.ofList chars).utf8ByteSize ≤ 4 * chars.length := by
  have encoded : ∀ chars : List Char, chars.utf8Encode.size ≤ 4 * chars.length := by
    intro chars
    induction chars with
    | nil => simp
    | cons c rest ih =>
      have head : [c].utf8Encode.size ≤ 4 := by
        rw [utf8Encode_singleton, size_toByteArray, String.length_utf8EncodeChar]
        exact Char.utf8Size_le_four c
      rw [utf8Encode_cons, ByteArray.size_append, length_cons]
      omega
  have size := encoded chars
  rwa [← String.toByteArray_ofList] at size

@[simp] theorem length_utf8Bytes (text : String) : (utf8Bytes text).length = text.utf8ByteSize := by
  rw [← String.size_toByteArray]
  rfl

/-- The decimal text of a natural number, as `to_string` on an unsigned integer. -/
def decimal (n : ℕ) : String :=
  toString n

theorem decimal_injective : Function.Injective decimal := by
  intro m n same
  exact Nat.repr_inj.1 same

theorem isDigit_of_mem_decimal {n : ℕ} {c : Char} (member : c ∈ (decimal n).toList) :
    c.isDigit = true := by
  have digits : (decimal n).toList = Nat.toDigits 10 n := by
    change (String.ofList (Nat.toDigits 10 n)).toList = _
    exact String.toList_ofList
  rw [digits] at member
  exact Nat.isDigit_of_mem_toDigits (by decide) (by decide) member

/-- The decimal text padded with leading zeros, as the format `{n:0width}`. -/
def padded (width n : ℕ) : String :=
  let digits := Nat.toDigits 10 n
  String.ofList (List.replicate (width - digits.length) '0' ++ digits)

theorem padded_injective (width : ℕ) : Function.Injective (padded width) := by
  intro m n same
  simp only [padded, String.ofList_inj] at same
  have value : ∀ k, Nat.ofDigitChars 10
      (List.replicate (width - (Nat.toDigits 10 k).length) '0' ++ Nat.toDigits 10 k) 0 = k := by
    intro k
    rw [Nat.ofDigitChars_append, Nat.ofDigitChars_replicate_zero, Nat.mul_zero,
      Nat.ofDigitChars_toDigits (by decide) (by decide)]
  rw [← value m, same, value n]

theorem append_cons_inj {c : Char} {left right left' right' : List Char}
    (noLeft : c ∉ left) (noLeft' : c ∉ left') (same : left ++ c :: right = left' ++ c :: right') :
    left = left' ∧ right = right' := by
  induction left generalizing left' with
  | nil =>
    cases left' with
    | nil => simpa using same
    | cons x xs =>
      simp only [nil_append, cons_append, List.cons.injEq] at same
      exact absurd (same.1 ▸ mem_cons_self) noLeft'
  | cons x xs ih =>
    cases left' with
    | nil =>
      simp only [nil_append, cons_append, List.cons.injEq] at same
      exact absurd (same.1 ▸ mem_cons_self) noLeft
    | cons y ys =>
      simp only [cons_append, List.cons.injEq] at same
      obtain ⟨rfl, rest⟩ := same
      have tails := ih (fun h => noLeft (mem_cons_of_mem _ h))
        (fun h => noLeft' (mem_cons_of_mem _ h)) rest
      exact ⟨by rw [tails.1], tails.2⟩

theorem append_bar_inj {left right left' right' : String} (noLeft : '|' ∉ left.toList)
    (noLeft' : '|' ∉ left'.toList) (same : left ++ ("|" ++ right) = left' ++ ("|" ++ right')) :
    left = left' ∧ right = right' := by
  have chars : left.toList ++ '|' :: right.toList = left'.toList ++ '|' :: right'.toList := by
    have := congrArg String.toList same
    simpa [String.toList_append] using this
  have sides := append_cons_inj noLeft noLeft' chars
  exact ⟨String.toList_inj.1 sides.1, String.toList_inj.1 sides.2⟩

theorem bar_notMem_decimal (n : ℕ) : '|' ∉ (decimal n).toList := by
  intro member
  have := isDigit_of_mem_decimal member
  exact absurd this (by decide)

end Wts.Text
