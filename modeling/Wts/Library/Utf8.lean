/-
Module: Wts.Library.Utf8
Purpose: Decoding of bytes as UTF-8, strict and with replacement characters, and cutting a text to a
  number of bytes at a character boundary.
-/
import Wts.Library.Text

namespace Wts.Utf8

open List Text

/-- How many bytes follow the first byte of a character, the bits it contributes, and the bounds of
the second byte. -/
def lead (b : UInt8) : Option (ℕ × ℕ × UInt8 × UInt8) :=
  if b ≤ 0x7F then some (0, b.toNat, 0x80, 0xBF)
  else if 0xC2 ≤ b ∧ b ≤ 0xDF then some (1, b.toNat - 0xC0, 0x80, 0xBF)
  else if b = 0xE0 then some (2, 0, 0xA0, 0xBF)
  else if b = 0xED then some (2, 0xD, 0x80, 0x9F)
  else if 0xE1 ≤ b ∧ b ≤ 0xEF then some (2, b.toNat - 0xE0, 0x80, 0xBF)
  else if b = 0xF0 then some (3, 0, 0x90, 0xBF)
  else if 0xF1 ≤ b ∧ b ≤ 0xF3 then some (3, b.toNat - 0xF0, 0x80, 0xBF)
  else if b = 0xF4 then some (3, 4, 0x80, 0x8F)
  else none

/-- The bits of further bytes, and how many bytes were read. It stops at the first byte that cannot
continue the character. -/
def readTails : ℕ → UInt8 → UInt8 → ℕ → List UInt8 → Option ℕ × ℕ
  | 0, _, _, bits, _ => (some bits, 0)
  | _ + 1, _, _, _, [] => (none, 0)
  | count + 1, low, high, bits, b :: rest =>
    if low ≤ b ∧ b ≤ high then
      let (value, used) := readTails count 0x80 0xBF (bits * 64 + (b.toNat - 0x80)) rest
      (value, used + 1)
    else
      (none, 0)

/-- The characters of a byte sequence. An entry without a character stands for a longest run of
bytes that starts a character and does not end it, or for a byte that starts none. -/
def decode : ℕ → List UInt8 → List (Option Char)
  | 0, _ => []
  | _, [] => []
  | fuel + 1, b :: rest =>
    match lead b with
    | none => none :: decode fuel rest
    | some (count, bits, low, high) =>
      let (value, used) := readTails count low high bits rest
      value.map Char.ofNat :: decode fuel (rest.drop used)

def fromUtf8 (bytes : List UInt8) : Option String :=
  ((decode bytes.length bytes).mapM id).map String.ofList

def fromUtf8Lossy (bytes : List UInt8) : String :=
  String.ofList ((decode bytes.length bytes).map fun c => c.getD (Char.ofNat 0xFFFD))

/-- The longest start of a text with at most this many bytes. -/
def takeBytes : ℕ → List Char → List Char
  | _, [] => []
  | maximum, c :: rest =>
    if c.utf8Size ≤ maximum then c :: takeBytes (maximum - c.utf8Size) rest else []

/-- The text without the shortest start that has at least this many bytes. -/
def dropBytes : ℕ → List Char → List Char
  | 0, chars => chars
  | _ + 1, [] => []
  | count + 1, c :: rest => dropBytes (count + 1 - c.utf8Size) rest

/-- A text cut to a number of bytes. -/
def truncate (text : String) (maximum : ℕ) : String :=
  if text.utf8ByteSize ≤ maximum then text else String.ofList (takeBytes maximum text.toList)

theorem truncate_of_fits {text : String} {maximum : ℕ} (fits : text.utf8ByteSize ≤ maximum) :
    truncate text maximum = text := by
  rw [truncate, if_pos fits]

theorem utf8ByteSize_ofList_cons (c : Char) (rest : List Char) :
    (String.ofList (c :: rest)).utf8ByteSize = c.utf8Size + (String.ofList rest).utf8ByteSize := by
  rw [← String.size_toByteArray, ← String.size_toByteArray, String.toByteArray_ofList,
    String.toByteArray_ofList, utf8Encode_cons, ByteArray.size_append,
    utf8Encode_singleton, size_toByteArray, String.length_utf8EncodeChar]

theorem length_le_utf8ByteSize (text : String) : text.toList.length ≤ text.utf8ByteSize := by
  have encoded : ∀ chars : List Char, chars.length ≤ (String.ofList chars).utf8ByteSize := by
    intro chars
    induction chars with
    | nil => exact Nat.zero_le _
    | cons c rest ih =>
      rw [utf8ByteSize_ofList_cons, length_cons, Nat.add_comm]
      exact Nat.add_le_add c.utf8Size_pos ih
  have size := encoded text.toList
  rwa [String.ofList_toList] at size

theorem utf8ByteSize_sublist_le {part chars : List Char} (sublist : part.Sublist chars) :
    (String.ofList part).utf8ByteSize ≤ (String.ofList chars).utf8ByteSize := by
  induction sublist with
  | slnil => exact le_refl _
  | cons c _ ih =>
    rw [utf8ByteSize_ofList_cons]
    exact ih.trans (Nat.le_add_left _ _)
  | cons_cons c _ ih =>
    rw [utf8ByteSize_ofList_cons, utf8ByteSize_ofList_cons]
    exact Nat.add_le_add_left ih _

/-! ### Decoding what was encoded -/

theorem toNat_ofNat {n : ℕ} (small : n < 256) : (UInt8.ofNat n).toNat = n := by
  rw [UInt8.toNat_ofNat']
  exact Nat.mod_eq_of_lt small

theorem lead_ofNat {n : ℕ} (small : n < 256) : lead (UInt8.ofNat n) =
      if n ≤ 0x7F then some (0, n, 0x80, 0xBF)
      else if 0xC2 ≤ n ∧ n ≤ 0xDF then some (1, n - 0xC0, 0x80, 0xBF)
      else if n = 0xE0 then some (2, 0, 0xA0, 0xBF) else if n = 0xED then some (2, 0xD, 0x80, 0x9F)
      else if 0xE1 ≤ n ∧ n ≤ 0xEF then some (2, n - 0xE0, 0x80, 0xBF)
      else if n = 0xF0 then some (3, 0, 0x90, 0xBF)
      else if 0xF1 ≤ n ∧ n ≤ 0xF3 then some (3, n - 0xF0, 0x80, 0xBF)
      else if n = 0xF4 then some (3, 4, 0x80, 0x8F) else none := by
  rw [lead]
  simp only [UInt8.le_iff_toNat_le, ← UInt8.toNat_inj, toNat_ofNat small]
  rfl

theorem readTails_cons {count bits n : ℕ} {low high : UInt8} {rest : List UInt8}
    (small : n < 256) (within : low.toNat ≤ n ∧ n ≤ high.toNat) :
    readTails (count + 1) low high bits (UInt8.ofNat n :: rest) =
      ((readTails count 0x80 0xBF (bits * 64 + (n - 0x80)) rest).1,
        (readTails count 0x80 0xBF (bits * 64 + (n - 0x80)) rest).2 + 1) := by
  rw [readTails, if_pos, toNat_ofNat small]
  rw [UInt8.le_iff_toNat_le, UInt8.le_iff_toNat_le, toNat_ofNat small]
  exact within

theorem decode_encode (c : Char) (rest : List UInt8) (fuel : ℕ) :
    decode (fuel + 1) (String.utf8EncodeChar c ++ rest) = some c :: decode fuel rest := by
  have valid : c.toNat < 0xD800 ∨ (0xDFFF < c.toNat ∧ c.toNat < 0x110000) := c.valid
  have isChar : Char.ofNat c.toNat = c := Char.ofNat_toNat c
  rw [String.utf8EncodeChar, show c.val.toNat = c.toNat from rfl]
  generalize c.toNat = v at valid isChar
  have ends : (0x80 : UInt8).toNat = 0x80 ∧ (0xBF : UInt8).toNat = 0xBF ∧
      (0xA0 : UInt8).toNat = 0xA0 ∧ (0x9F : UInt8).toNat = 0x9F ∧ (0x90 : UInt8).toNat = 0x90 ∧
      (0x8F : UInt8).toNat = 0x8F := ⟨rfl, rfl, rfl, rfl, rfl, rfl⟩
  -- the bits of the bytes are those of the character
  have bits : ∀ {found : ℕ}, found = v →
      Option.map Char.ofNat (some found) :: decode fuel rest = some c :: decode fuel rest := by
    rintro found rfl
    rw [Option.map_some, isChar]
  split_ifs with one two three
  · rw [cons_append, nil_append, decode, lead_ofNat (by omega), if_pos one]
    exact bits rfl
  · rw [cons_append, cons_append, nil_append, decode, lead_ofNat (by omega),
      if_neg (by omega), if_pos (by omega)]
    dsimp only
    rw [readTails_cons (by omega) (by omega)]
    exact bits (by omega)
  · rw [cons_append, cons_append, cons_append, nil_append, decode,
      lead_ofNat (by omega), if_neg (by omega), if_neg (by omega)]
    split_ifs with zero surrogates others
    any_goals omega
    all_goals
      dsimp only
      rw [readTails_cons (by omega) (by omega), readTails_cons (by omega) (by omega)]
      exact bits (by omega)
  rw [cons_append, cons_append, cons_append, cons_append, nil_append,
    decode, lead_ofNat (by omega), if_neg (by omega), if_neg (by omega), if_neg (by omega),
    if_neg (by omega), if_neg (by omega)]
  split_ifs with zero others last
  any_goals omega
  all_goals
    dsimp only
    rw [readTails_cons (by omega) (by omega), readTails_cons (by omega) (by omega),
      readTails_cons (by omega) (by omega)]
    exact bits (by omega)

theorem decode_flatMap (chars : List Char) {fuel : ℕ} (enough : chars.length ≤ fuel) :
    decode fuel (chars.flatMap String.utf8EncodeChar) = chars.map some := by
  induction chars generalizing fuel with
  | nil => cases fuel <;> rfl
  | cons c rest ih =>
    cases fuel with
    | zero => exact absurd enough (Nat.not_succ_le_zero _)
    | succ fuel =>
      rw [flatMap_cons, decode_encode, ih (Nat.le_of_succ_le_succ enough), map_cons]

theorem utf8Bytes_eq (text : String) :
    utf8Bytes text = text.toList.flatMap String.utf8EncodeChar := by
  rw [utf8Bytes, ← String.utf8Encode_toList, List.utf8Encode, toList_data_toByteArray]

theorem fromUtf8_utf8Bytes (text : String) : fromUtf8 (utf8Bytes text) = some text := by
  have enough : text.toList.length ≤ (utf8Bytes text).length := by
    rw [length_utf8Bytes]
    exact length_le_utf8ByteSize text
  have all : ∀ chars : List Char, (chars.map some).mapM id = some chars := by
    intro chars
    induction chars with
    | nil => rfl
    | cons c rest ih => rw [map_cons, mapM_cons, ih]; rfl
  rw [utf8Bytes_eq] at enough ⊢
  rw [fromUtf8, decode_flatMap _ enough, all, Option.map_some, String.ofList_toList]

end Wts.Utf8
