/-
Module: Wts.Library.IpAddr
Purpose: IP addresses as Rust's `std::net` reads and writes them.
-/
import Mathlib

namespace Wts.Net

open List

/-- The value of a digit, as `char::to_digit` for a radix up to 16. -/
def digitValue (radix : ℕ) (c : Char) : Option ℕ :=
  (if c.isDigit then some (c.toNat - 48)
    else if 'a' ≤ c ∧ c ≤ 'f' then some (c.toNat - 87)
    else if 'A' ≤ c ∧ c ≤ 'F' then some (c.toNat - 55)
    else none).filter (· < radix)

def isDigitOf (radix : ℕ) (c : Char) : Bool :=
  (digitValue radix c).isSome

/-- The number that digits of a radix stand for. -/
def digitsValue (radix : ℕ) (digits : List Char) : ℕ :=
  digits.foldl (fun value c => radix * value + (digitValue radix c).getD 0) 0

/-- `Parser::read_number` for a type whose values are below the bound. -/
def readNumber (radix maxDigits : ℕ) (allowZeroPrefix : Bool) (bound : ℕ) (chars : List Char) :
    Option (ℕ × List Char) :=
  let digits := chars.takeWhile (isDigitOf radix)
  if digits = [] ∨ maxDigits < digits.length then none
  else if !allowZeroPrefix && digits.head? = some '0' && 1 < digits.length then none
  else if digitsValue radix digits < bound then
    some (digitsValue radix digits, chars.dropWhile (isDigitOf radix))
  else none

/-- `Parser::read_separator`: the separator stands before every item but the first. -/
def readSeparator {α : Type} (separator : Char) (index : ℕ)
    (read : List Char → Option (α × List Char)) (chars : List Char) : Option (α × List Char) :=
  if index = 0 then read chars
  else
    match chars with
    | [] => none
    | c :: rest => if c = separator then read rest else none

structure Ipv4Addr where
  first : UInt8
  second : UInt8
  third : UInt8
  fourth : UInt8
deriving DecidableEq

structure Ipv6Addr where
  segments : Fin 8 → UInt16
deriving DecidableEq

inductive IpAddr where
  | v4 (address : Ipv4Addr)
  | v6 (address : Ipv6Addr)
deriving DecidableEq

def readIpv4Addr (chars : List Char) : Option (Ipv4Addr × List Char) := do
  let octet := readNumber 10 3 false 256
  let (first, rest) ← readSeparator '.' 0 octet chars
  let (second, rest) ← readSeparator '.' 1 octet rest
  let (third, rest) ← readSeparator '.' 2 octet rest
  let (fourth, rest) ← readSeparator '.' 3 octet rest
  return ({ first := .ofNat first, second := .ofNat second, third := .ofNat third,
            fourth := .ofNat fourth }, rest)

/-- `read_groups` from an index on, with the number of groups that are still wanted: the groups, whether
an IPv4 address has ended them, and the rest. -/
def readGroups : ℕ → ℕ → List Char → List UInt16 × Bool × List Char
  | 0, _, chars => ([], false, chars)
  | wanted + 1, index, chars =>
    -- an embedded IPv4 address takes two groups
    match if 0 < wanted then readSeparator ':' index readIpv4Addr chars else none with
    | some (address, rest) =>
      ([.ofNat (256 * address.first.toNat + address.second.toNat),
        .ofNat (256 * address.third.toNat + address.fourth.toNat)], true, rest)
    | none =>
      match readSeparator ':' index (readNumber 16 4 true (2 ^ 16)) chars with
      | none => ([], false, chars)
      | some (group, rest) =>
        let (groups, ipv4, rest) := readGroups wanted (index + 1) rest
        (.ofNat group :: groups, ipv4, rest)

/-- The address with the given groups at its start and at its end. -/
def Ipv6Addr.ofGroups (head tail : List UInt16) : Ipv6Addr where
  segments := fun index =>
    (head ++ List.replicate (8 - head.length - tail.length) 0 ++ tail).getD index 0

def readIpv6Addr (chars : List Char) : Option (Ipv6Addr × List Char) :=
  let (head, ipv4, rest) := readGroups 8 0 chars
  if head.length = 8 then some (.ofGroups head [], rest)
  else if ipv4 then none
  else
    match rest with
    | ':' :: ':' :: rest =>
      let (tail, _, rest) := readGroups (8 - (head.length + 1)) 0 rest
      some (.ofGroups head tail, rest)
    | _ => none

def parseIpAddr (chars : List Char) : Option IpAddr :=
  match readIpv4Addr chars with
  | some (address, rest) => if rest = [] then some (.v4 address) else none
  | none =>
    match readIpv6Addr chars with
    | some (address, rest) => if rest = [] then some (.v6 address) else none
    | none => none

def Ipv4Addr.display (address : Ipv4Addr) : List Char :=
  Nat.toDigits 10 address.first.toNat ++ '.' :: (Nat.toDigits 10 address.second.toNat ++
    '.' :: (Nat.toDigits 10 address.third.toNat ++
      '.' :: Nat.toDigits 10 address.fourth.toNat))

def Ipv6Addr.localhost : Ipv6Addr :=
  .ofGroups [] [1]

def IpAddr.isLoopback : IpAddr → Bool
  | .v4 address => address.first = 127
  | .v6 address => address = .localhost

/-! ### Decimal digits -/

theorem isDigitOf_ten (c : Char) : isDigitOf 10 c = c.isDigit := by
  rw [isDigitOf, digitValue]
  by_cases digit : c.isDigit
  · have range : 48 ≤ c.toNat ∧ c.toNat ≤ 57 := by
      simpa [Char.isDigit, UInt32.le_iff_toNat_le] using digit
    have small : c.toNat - 48 < 10 := by omega
    simp [digit, small]
  rw [if_neg digit]
  split_ifs with lower upper
  · have low : 97 ≤ c.toNat := lower.1
    simp [digit, show ¬c.toNat - 87 < 10 by omega]
  · have low : 65 ≤ c.toNat := upper.1
    simp [digit, show ¬c.toNat - 55 < 10 by omega]
  · simp [digit]

variable {c : Char}

theorem digitValue_ten (digit : c.isDigit = true) : digitValue 10 c = some (c.toNat - 48) := by
  have range : 48 ≤ c.toNat ∧ c.toNat ≤ 57 := by
    simpa [Char.isDigit, UInt32.le_iff_toNat_le] using digit
  have small : c.toNat - 48 < 10 := by omega
  simp [digitValue, digit, small]

variable {digits rest : List Char}

theorem digitsValue_ten (decimal : ∀ c ∈ digits, c.isDigit = true) :
    digitsValue 10 digits = Nat.ofDigitChars 10 digits 0 := by
  rw [digitsValue, Nat.ofDigitChars_eq_foldl]
  refine foldl_ext _ _ 0 fun value c inside => ?_
  rw [digitValue_ten (decimal c inside)]
  rfl

variable {n : ℕ}

theorem digits_toDigits (inside : c ∈ Nat.toDigits 10 n) : c.isDigit = true :=
  Nat.isDigit_of_mem_toDigits (by decide) (by decide) inside

theorem toDigits_digit (digit : c.isDigit = true) : Nat.toDigits 10 (c.toNat - 48) = [c] := by
  have range : 48 ≤ c.toNat ∧ c.toNat ≤ 57 := by
    simpa [Char.isDigit, UInt32.le_iff_toNat_le] using digit
  have all : ∀ n : Fin 10, Nat.toDigits 10 n = [Char.ofNat (n + 48)] := by decide
  rw [all ⟨c.toNat - 48, by omega⟩, Nat.sub_add_cancel range.1, Char.ofNat_toNat]

theorem toDigits_ofDigitChars (decimal : ∀ c ∈ digits, c.isDigit = true)
    (nonempty : digits ≠ []) (canonical : digits.head? = some '0' → digits.length = 1) :
    Nat.toDigits 10 (Nat.ofDigitChars 10 digits 0) = digits := by
  induction digits using List.reverseRecOn with
  | nil => exact absurd rfl nonempty
  | append_singleton before last ih =>
    have digit : last.isDigit = true := decimal last (by simp)
    rw [Nat.ofDigitChars_append, Nat.ofDigitChars_cons, Nat.ofDigitChars_nil]
    by_cases first : before = []
    · subst first
      rw [nil_append, Nat.ofDigitChars_nil, Nat.mul_zero, Nat.zero_add]
      exact toDigits_digit digit
    have head : (before ++ [last]).head? = before.head? := head?_append_of_ne_nil _ first
    have noZero : before.head? ≠ some '0' := by
      intro zero
      have single := canonical (head.trans zero)
      rw [length_append, length_singleton] at single
      exact first (length_eq_zero_iff.1 (by omega))
    have value := ih (fun c inside => decimal c (mem_append_left _ inside)) first
      fun zero => absurd zero noZero
    have positive : 0 < Nat.ofDigitChars 10 before 0 := by
      rw [Nat.pos_iff_ne_zero]
      intro zero
      rw [zero] at value
      exact noZero (by rw [← value]; rfl)
    have range : last.toNat ≤ 57 := by
      have : 48 ≤ last.toNat ∧ last.toNat ≤ 57 := by
        simpa [Char.isDigit, UInt32.le_iff_toNat_le] using digit
      exact this.2
    have small : last.toNat - 48 < 10 := by omega
    change Nat.toDigits 10 (10 * Nat.ofDigitChars 10 before 0 + (last.toNat - 48)) = _
    rw [← Nat.toDigits_append_toDigits (by decide) positive small, value, toDigits_digit digit]

theorem eq_zero_of_head?_toDigits (zero : (Nat.toDigits 10 n).head? = some '0') : n = 0 := by
  induction n using Nat.strongRecOn with
  | ind n ih =>
    rw [Nat.toDigits_eq_if (by decide)] at zero
    split at zero
    · rename_i small
      have all : ∀ digit : Fin 10, Nat.digitChar digit = '0' → digit = 0 := by decide
      have only := all ⟨n, small⟩ (Option.some.inj zero)
      exact congrArg Fin.val only
    rename_i large
    rw [head?_append_of_ne_nil _ Nat.toDigits_ne_nil] at zero
    have before := ih (n / 10) (by omega) zero
    omega

/-- The text does not go on with a digit. -/
def Stops (rest : List Char) : Prop :=
  ∀ c, rest.head? = some c → c.isDigit = false

theorem stops_nil : Stops [] := fun _ first => nomatch first

theorem stops_dot (rest : List Char) : Stops ('.' :: rest) := by
  intro c first
  rw [← Option.some.inj first]
  rfl

theorem takeWhile_digits (decimal : ∀ c ∈ digits, c.isDigit = true)
    (stops : Stops rest) : (digits ++ rest).takeWhile (isDigitOf 10) = digits ∧
      (digits ++ rest).dropWhile (isDigitOf 10) = rest := by
  have all : ∀ c ∈ digits, isDigitOf 10 c = true := fun c inside =>
    (isDigitOf_ten c).trans (decimal c inside)
  rw [takeWhile_append_of_pos all, dropWhile_append_of_pos all]
  cases rest with
  | nil => simp
  | cons c tail => simp [isDigitOf_ten, stops c rfl]

theorem readNumber_toDigits {maxDigits bound : ℕ}
    (short : (Nat.toDigits 10 n).length ≤ maxDigits) (small : n < bound) (stops : Stops rest) :
    readNumber 10 maxDigits false bound (Nat.toDigits 10 n ++ rest) = some (n, rest) := by
  have decimal : ∀ c ∈ Nat.toDigits 10 n, c.isDigit = true := fun c inside => digits_toDigits inside
  have value : digitsValue 10 (Nat.toDigits 10 n) = n := by
    rw [digitsValue_ten decimal, Nat.ofDigitChars_ten_toDigits]
  have noZeros : ¬((!false && (Nat.toDigits 10 n).head? = some '0' &&
      1 < (Nat.toDigits 10 n).length) = true) := by
    rw [Bool.not_false, Bool.true_and, Bool.and_eq_true, decide_eq_true_eq, decide_eq_true_eq]
    intro ⟨zero, long⟩
    rw [eq_zero_of_head?_toDigits zero] at long
    exact absurd long (by decide)
  have ⟨taken, dropped⟩ := takeWhile_digits decimal stops
  simp only [readNumber, taken, dropped, value]
  rw [if_neg (not_or.2 ⟨Nat.toDigits_ne_nil, not_lt.2 short⟩), if_neg noZeros, if_pos small]

theorem readOctet (octet : UInt8) (stops : Stops rest) :
    readNumber 10 3 false 256 (Nat.toDigits 10 octet.toNat ++ rest) = some (octet.toNat, rest) := by
  have small : octet.toNat < 256 := octet.toNat_lt
  have short : (Nat.toDigits 10 octet.toNat).length ≤ 3 :=
    (Nat.length_toDigits_le_iff (by decide) (by decide)).2 (lt_trans small (by decide))
  exact readNumber_toDigits short small stops

theorem readIpv4Addr_display (address : Ipv4Addr) (stops : Stops rest) :
    readIpv4Addr (address.display ++ rest) = some (address, rest) := by
  simp only [Ipv4Addr.display, append_assoc, cons_append]
  unfold readIpv4Addr
  simp only [readSeparator, readOctet, stops_dot, stops, if_true, Option.bind_eq_bind,
    Option.bind_some, OfNat.ofNat_ne_zero, if_false, one_ne_zero, UInt8.ofNat_toNat]
  rfl

theorem parseIpAddr_display (address : Ipv4Addr) :
    parseIpAddr address.display = some (.v4 address) := by
  have read := readIpv4Addr_display address stops_nil
  rw [append_nil] at read
  rw [parseIpAddr, read]
  rfl

end Wts.Net
