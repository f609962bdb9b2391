/-
Module: Wts.Library.Json
Purpose: JSON values, their compact text as `serde_json::to_string` writes it, and a reader of JSON
  text.
-/
import Wts.Library.Sha256

namespace Wts

/-- A JSON value. The fields of an object keep their order. -/
inductive Json where
  | null
  | bool (value : Bool)
  | number (value : ℤ)
  | string (value : String)
  | array (items : List Json)
  | object (fields : List (String × Json))

namespace Json

/-- A character inside a JSON string. -/
def escapeChar (c : Char) : List Char :=
  if c = '\"' then ['\\', '\"']
  else if c = '\\' then ['\\', '\\']
  else if c = '\x08' then ['\\', 'b']
  else if c = '\x0c' then ['\\', 'f']
  else if c = '\n' then ['\\', 'n']
  else if c = '\x0d' then ['\\', 'r']
  else if c = '\t' then ['\\', 't']
  else if c.toNat < 0x20 then
    ['\\', 'u', '0', '0', Sha256.hexDigit (c.toNat / 16), Sha256.hexDigit (c.toNat % 16)]
  else [c]

def stringChars (text : String) : List Char :=
  '\"' :: (text.toList.flatMap escapeChar ++ ['\"'])

def integerChars : ℤ → List Char
  | .ofNat n => Nat.toDigits 10 n
  | .negSucc n => '-' :: Nat.toDigits 10 (n + 1)

mutual

/-- The compact text of a value. -/
def chars : Json → List Char
  | .null => ['n', 'u', 'l', 'l']
  | .bool true => ['t', 'r', 'u', 'e']
  | .bool false => ['f', 'a', 'l', 's', 'e']
  | .number value => integerChars value
  | .string value => stringChars value
  | .array items => '[' :: itemChars true items
  | .object fields => '{' :: fieldChars true fields

/-- Items and the closing bracket; a comma stands before every item but the first. -/
def itemChars (first : Bool) : List Json → List Char
  | [] => [']']
  | item :: rest => (if first then [] else [',']) ++ (chars item ++ itemChars false rest)

/-- Fields and the closing brace. -/
def fieldChars (first : Bool) : List (String × Json) → List Char
  | [] => ['}']
  | field :: rest => (if first then [] else [',']) ++ (entryChars field ++ fieldChars false rest)

def entryChars : String × Json → List Char
  | (name, value) => stringChars name ++ ':' :: chars value

end

/-- `serde_json::to_string`. -/
def print (value : Json) : String :=
  String.ofList (chars value)

/-! ### Reading -/

def isSpace (c : Char) : Bool :=
  c = ' ' || c = '\t' || c = '\n' || c = '\x0d'

def skipSpace (text : List Char) : List Char :=
  text.dropWhile isSpace

/-- The value of a hexadecimal digit of either case. -/
def hexValue (c : Char) : Option ℕ :=
  if '0' ≤ c ∧ c ≤ '9' then some (c.toNat - 48)
  else if 'a' ≤ c ∧ c ≤ 'f' then some (c.toNat - 87)
  else if 'A' ≤ c ∧ c ≤ 'F' then some (c.toNat - 55)
  else none

theorem hexValue_hexDigit {n : ℕ} (small : n < 16) : hexValue (Sha256.hexDigit n) = some n := by
  have all : ∀ m : Fin 16, hexValue (Sha256.hexDigit m) = some m.val := by decide
  exact all ⟨n, small⟩

/-- Four hexadecimal digits. -/
def readHex : List Char → Option (ℕ × List Char)
  | a :: b :: c :: d :: rest =>
    match hexValue a, hexValue b, hexValue c, hexValue d with
    | some a, some b, some c, some d => some (((a * 16 + b) * 16 + c) * 16 + d, rest)
    | _, _, _, _ => none
  | _ => none

/-- The character of `\u` escapes; a leading surrogate needs a trailing one in a second escape. -/
def readUnicode (text : List Char) : Option (Char × List Char) :=
  match readHex text with
  | none => none
  | some (unit, rest) =>
    if unit < 0xD800 ∨ 0xE000 ≤ unit then
      some (Char.ofNat unit, rest)
    else if 0xDC00 ≤ unit then
      none
    else
      match rest with
      | '\\' :: 'u' :: rest =>
        match readHex rest with
        | none => none
        | some (low, rest) =>
          if 0xDC00 ≤ low ∧ low < 0xE000 then
            some (Char.ofNat (0x10000 + (unit - 0xD800) * 0x400 + (low - 0xDC00)), rest)
          else
            none
      | _ => none

/-- The character of an escape sequence, the text after its backslash. -/
def readEscape : List Char → Option (Char × List Char)
  | [] => none
  | c :: rest =>
    if c = '\"' then some ('\"', rest)
    else if c = '\\' then some ('\\', rest)
    else if c = '/' then some ('/', rest)
    else if c = 'b' then some ('\x08', rest)
    else if c = 'f' then some ('\x0c', rest)
    else if c = 'n' then some ('\n', rest)
    else if c = 'r' then some ('\x0d', rest)
    else if c = 't' then some ('\t', rest)
    else if c = 'u' then readUnicode rest
    else none

/-- The rest of a string up to its closing quote. -/
def readString : ℕ → List Char → Option (List Char × List Char)
  | 0, _ => none
  | _ + 1, [] => none
  | fuel + 1, c :: rest =>
    if c = '\"' then some ([], rest)
    else if c = '\\' then
      match readEscape rest with
      | none => none
      | some (d, rest) => (readString fuel rest).map fun (tail, rest) => (d :: tail, rest)
    else if c.toNat < 0x20 then none
    else (readString fuel rest).map fun (tail, rest) => (c :: tail, rest)

/-- A number without leading zeros. -/
def readNatural (text : List Char) : Option (ℕ × List Char) :=
  let digits := text.takeWhile Char.isDigit
  let value := Nat.ofDigitChars 10 digits 0
  if Nat.toDigits 10 value = digits then some (value, text.dropWhile Char.isDigit) else none

/-- An integer. The text `-0` stands for a floating-point number. -/
def readInteger : List Char → Option (ℤ × List Char)
  | [] => none
  | c :: rest =>
    if c = '-' then
      match readNatural rest with
      | some (value + 1, rest) => some (.negSucc value, rest)
      | _ => none
    else
      (readNatural (c :: rest)).map fun (value, rest) => (.ofNat value, rest)

def readKeyword (keyword : List Char) (value : Json) (text : List Char) :
    Option (Json × List Char) :=
  if keyword.isPrefixOf text then some (value, text.drop keyword.length) else none

mutual

/-- A value at the start of the text and the text after it. -/
def readValue : ℕ → List Char → Option (Json × List Char)
  | 0, _ => none
  | fuel + 1, text =>
    match skipSpace text with
    | [] => none
    | c :: rest =>
      if c = '\"' then
        (readString (rest.length + 1) rest).map fun (chars, rest) =>
          (.string (String.ofList chars), rest)
      else if c = '[' then
        (readItems fuel true rest).map fun (items, rest) => (.array items, rest)
      else if c = '{' then
        (readFields fuel true rest).map fun (fields, rest) => (.object fields, rest)
      else if c = 'n' then readKeyword ['n', 'u', 'l', 'l'] .null (c :: rest)
      else if c = 't' then readKeyword ['t', 'r', 'u', 'e'] (.bool true) (c :: rest)
      else if c = 'f' then readKeyword ['f', 'a', 'l', 's', 'e'] (.bool false) (c :: rest)
      else (readInteger (c :: rest)).map fun (value, rest) => (.number value, rest)

/-- The items of an array up to its closing bracket. -/
def readItems : ℕ → Bool → List Char → Option (List Json × List Char)
  | 0, _, _ => none
  | fuel + 1, first, text =>
    match skipSpace text with
    | [] => none
    | c :: rest =>
      if c = ']' then some ([], rest)
      else if c = ',' ∨ first then
        match readValue fuel (if first then c :: rest else rest) with
        | none => none
        | some (item, rest) =>
          (readItems fuel false rest).map fun (items, rest) => (item :: items, rest)
      else none

/-- The fields of an object up to its closing brace. -/
def readFields : ℕ → Bool → List Char → Option (List (String × Json) × List Char)
  | 0, _, _ => none
  | fuel + 1, first, text =>
    match skipSpace text with
    | [] => none
    | c :: rest =>
      if c = '}' then some ([], rest)
      else if c = ',' ∨ first then
        match readEntry fuel (if first then c :: rest else rest) with
        | none => none
        | some (entry, rest) =>
          (readFields fuel false rest).map fun (fields, rest) => (entry :: fields, rest)
      else none

/-- A name, a colon and a value. -/
def readEntry : ℕ → List Char → Option ((String × Json) × List Char)
  | 0, _ => none
  | fuel + 1, text =>
    match skipSpace text with
    | [] => none
    | c :: rest =>
      if c = '\"' then
        match readString (rest.length + 1) rest with
        | none => none
        | some (name, rest) =>
          match skipSpace rest with
          | ':' :: rest =>
            (readValue fuel rest).map fun (value, rest) =>
              ((String.ofList name, value), rest)
          | _ => none
      else none

end

/-- `serde_json::from_str` up to the value. -/
def parse (text : String) : Option Json :=
  match readValue (text.toList.length + 1) text.toList with
  | some (value, rest) => if skipSpace rest = [] then some value else none
  | none => none

end Json

end Wts
