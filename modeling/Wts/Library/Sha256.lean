/-
Module: Wts.Library.Sha256
Purpose: The hash function SHA-256 on byte lists, with the length-prefixed framing of byte strings
  and the hexadecimal text of a digest.
-/
import Mathlib

namespace Wts.Sha256

open List

/-! ### The hash function -/

/-- The first 32 bits of the fractional parts of the cube roots of the first 64 primes. -/
def roundConstants : List UInt32 := [
  0x428a2f98, 0x71374491, 0xb5c0fbcf, 0xe9b5dba5, 0x3956c25b, 0x59f111f1, 0x923f82a4, 0xab1c5ed5,
  0xd807aa98, 0x12835b01, 0x243185be, 0x550c7dc3, 0x72be5d74, 0x80deb1fe, 0x9bdc06a7, 0xc19bf174,
  0xe49b69c1, 0xefbe4786, 0x0fc19dc6, 0x240ca1cc, 0x2de92c6f, 0x4a7484aa, 0x5cb0a9dc, 0x76f988da,
  0x983e5152, 0xa831c66d, 0xb00327c8, 0xbf597fc7, 0xc6e00bf3, 0xd5a79147, 0x06ca6351, 0x14292967,
  0x27b70a85, 0x2e1b2138, 0x4d2c6dfc, 0x53380d13, 0x650a7354, 0x766a0abb, 0x81c2c92e, 0x92722c85,
  0xa2bfe8a1, 0xa81a664b, 0xc24b8b70, 0xc76c51a3, 0xd192e819, 0xd6990624, 0xf40e3585, 0x106aa070,
  0x19a4c116, 0x1e376c08, 0x2748774c, 0x34b0bcb5, 0x391c0cb3, 0x4ed8aa4a, 0x5b9cca4f, 0x682e6ff3,
  0x748f82ee, 0x78a5636f, 0x84c87814, 0x8cc70208, 0x90befffa, 0xa4506ceb, 0xbef9a3f7, 0xc67178f2]

/-- The eight working words. -/
structure Words where
  a : UInt32
  b : UInt32
  c : UInt32
  d : UInt32
  e : UInt32
  f : UInt32
  g : UInt32
  h : UInt32

def initialWords : Words where
  a := 0x6a09e667
  b := 0xbb67ae85
  c := 0x3c6ef372
  d := 0xa54ff53a
  e := 0x510e527f
  f := 0x9b05688c
  g := 0x1f83d9ab
  h := 0x5be0cd19

/-- Rotation to the right by `n` bits, `0 < n < 32`. -/
def rotr (x n : UInt32) : UInt32 :=
  (x >>> n) ||| (x <<< (32 - n))

/-- One round with round constant `k` and schedule word `w`. -/
def round (s : Words) (k w : UInt32) : Words :=
  let sum1 := rotr s.e 6 ^^^ rotr s.e 11 ^^^ rotr s.e 25
  let choice := (s.e &&& s.f) ^^^ (~~~s.e &&& s.g)
  let t1 := s.h + sum1 + choice + k + w
  let sum0 := rotr s.a 2 ^^^ rotr s.a 13 ^^^ rotr s.a 22
  let majority := (s.a &&& s.b) ^^^ (s.a &&& s.c) ^^^ (s.b &&& s.c)
  { a := t1 + (sum0 + majority), b := s.a, c := s.b, d := s.c,
    e := s.d + t1, f := s.e, g := s.f, h := s.g }

/-- The word that follows a window of sixteen schedule words. -/
def nextWord (window : List UInt32) : UInt32 :=
  let w1 := window.getD 1 0
  let w14 := window.getD 14 0
  (rotr w14 17 ^^^ rotr w14 19 ^^^ (w14 >>> 10)) + window.getD 9 0 +
    (rotr w1 7 ^^^ rotr w1 18 ^^^ (w1 >>> 3)) + window.getD 0 0

/-- All rounds of a block. The second argument is the current window of the message schedule. -/
def rounds : List UInt32 → List UInt32 → Words → Words
  | [], _, s => s
  | _ :: _, [], s => s
  | k :: ks, w :: window, s => rounds ks (window ++ [nextWord (w :: window)]) (round s k w)

def compress (s : Words) (block : List UInt32) : Words :=
  let t := rounds roundConstants block s
  { a := s.a + t.a, b := s.b + t.b, c := s.c + t.c, d := s.d + t.d,
    e := s.e + t.e, f := s.f + t.f, g := s.g + t.g, h := s.h + t.h }

/-- Compress the blocks of sixteen words one after the other. -/
def compressBlocks : ℕ → List UInt32 → Words → Words
  | 0, _, s => s
  | n + 1, words, s => compressBlocks n (words.drop 16) (compress s (words.take 16))

/-- The big-endian words of a byte list. -/
def wordsOf : List UInt8 → List UInt32
  | a :: b :: c :: d :: rest =>
    ((a.toUInt32 <<< 24) ||| (b.toUInt32 <<< 16) ||| (c.toUInt32 <<< 8) ||| d.toUInt32) ::
      wordsOf rest
  | _ => []

def bytesOf (w : UInt32) : List UInt8 :=
  [(w >>> 24).toUInt8, (w >>> 16).toUInt8, (w >>> 8).toUInt8, w.toUInt8]

/-- A natural number as eight big-endian bytes, modulo `2 ^ 64`. -/
def be64 (n : ℕ) : List UInt8 :=
  [n / 2 ^ 56, n / 2 ^ 48, n / 2 ^ 40, n / 2 ^ 32, n / 2 ^ 24, n / 2 ^ 16, n / 2 ^ 8, n].map
    UInt8.ofNat

/-- The padded message: a one bit, zeros, and the length in bits. -/
def pad (message : List UInt8) : List UInt8 :=
  message ++ 0x80 :: List.replicate ((119 - message.length % 64) % 64) 0 ++
    be64 (8 * message.length)

/-- The 32 bytes of the SHA-256 digest. -/
def sha256 (message : List UInt8) : List UInt8 :=
  let words := wordsOf (pad message)
  let s := compressBlocks (words.length / 16) words initialWords
  [s.a, s.b, s.c, s.d, s.e, s.f, s.g, s.h].flatMap bytesOf

theorem length_sha256 (message : List UInt8) : (sha256 message).length = 32 := by
  simp [sha256, bytesOf]

set_option maxRecDepth 8000 in
/-- The published test vector for the message `abc`. -/
example : sha256 [97, 98, 99] =
    [0xba, 0x78, 0x16, 0xbf, 0x8f, 0x01, 0xcf, 0xea, 0x41, 0x41, 0x40, 0xde, 0x5d, 0xae, 0x22, 0x23,
      0xb0, 0x03, 0x61, 0xa3, 0x96, 0x17, 0x7a, 0x9c, 0xb4, 0x10, 0xff, 0x61, 0xf2, 0x00, 0x15,
      0xad] := by
  decide +kernel

@[simp] theorem length_be64 (n : ℕ) : (be64 n).length = 8 := rfl

theorem be64_injective {m n : ℕ} (hm : m < 2 ^ 64) (hn : n < 2 ^ 64) (same : be64 m = be64 n) :
    m = n := by
  simp only [be64, map_cons, map_nil, List.cons.injEq, and_true] at same
  have digit : ∀ {x y : ℕ}, UInt8.ofNat x = UInt8.ofNat y → x % 256 = y % 256 := by
    intro x y h
    have := congrArg UInt8.toNat h
    simpa using this
  obtain ⟨h56, h48, h40, h32, h24, h16, h8, h0⟩ := same
  have := digit h56
  have := digit h48
  have := digit h40
  have := digit h32
  have := digit h24
  have := digit h16
  have := digit h8
  have := digit h0
  omega

/-- Each part preceded by its length, one after the other. -/
def frame (parts : List (List UInt8)) : List UInt8 :=
  parts.flatMap fun part => be64 part.length ++ part

theorem frame_injective {first second : List (List UInt8)}
    (short : ∀ part ∈ first, part.length < 2 ^ 64) (short' : ∀ part ∈ second, part.length < 2 ^ 64)
    (same : frame first = frame second) : first = second := by
  induction first generalizing second with
  | nil =>
    cases second with
    | nil => rfl
    | cons y ys =>
      have lengths := congrArg List.length same
      simp only [frame, flatMap_nil, flatMap_cons, length_append,
        length_nil, length_be64] at lengths
      omega
  | cons x xs ih =>
    cases second with
    | nil =>
      have lengths := congrArg List.length same
      simp only [frame, flatMap_nil, flatMap_cons, length_append,
        length_nil, length_be64] at lengths
      omega
    | cons y ys =>
      simp only [frame, flatMap_cons, append_assoc] at same
      -- the eight length bytes agree, so the lengths do, so the parts do
      obtain ⟨lengths, rest⟩ := append_inj same (by simp)
      have length := be64_injective (short x (by simp)) (short' y (by simp)) lengths
      obtain ⟨heads, tails⟩ := append_inj rest length
      have := ih (fun part h => short part (by simp [h]))
        (fun part h => short' part (by simp [h])) tails
      rw [heads, this]

/-- The lower-case digit of a number below sixteen. -/
def hexDigit (n : ℕ) : Char :=
  if n < 10 then Char.ofNat (48 + n) else Char.ofNat (87 + n)

def hexChars (bytes : List UInt8) : List Char :=
  bytes.flatMap fun byte => [hexDigit (byte.toNat / 16), hexDigit (byte.toNat % 16)]

def hexEncode (bytes : List UInt8) : String :=
  String.ofList (hexChars bytes)

theorem hexDigit_injOn {m n : ℕ} (hm : m < 16) (hn : n < 16) (same : hexDigit m = hexDigit n) :
    m = n := by
  have all : ∀ a b : Fin 16, hexDigit a = hexDigit b → a = b := by decide
  have := all ⟨m, hm⟩ ⟨n, hn⟩ same
  simpa using this

theorem hexChars_injective : Function.Injective hexChars := by
  intro first
  induction first with
  | nil =>
    intro second same
    cases second with
    | nil => rfl
    | cons y ys => simp [hexChars] at same
  | cons x xs ih =>
    intro second same
    cases second with
    | nil => simp [hexChars] at same
    | cons y ys =>
      simp only [hexChars, flatMap_cons, cons_append, nil_append,
        List.cons.injEq] at same
      obtain ⟨high, low, rest⟩ := same
      have hx := x.toNat_lt
      have hy := y.toNat_lt
      have highs := hexDigit_injOn (by omega) (by omega) high
      have lows := hexDigit_injOn (Nat.mod_lt _ (by decide)) (Nat.mod_lt _ (by decide)) low
      have : x = y := by
        apply UInt8.toNat_inj.1
        omega
      rw [this, ih rest]

theorem hexEncode_injective : Function.Injective hexEncode := by
  intro first second same
  exact hexChars_injective (String.ofList_inj.1 same)

@[simp] theorem length_hexChars (bytes : List UInt8) : (hexChars bytes).length = 2 * bytes.length := by
  induction bytes with
  | nil => rfl
  | cons x xs ih =>
    simp only [hexChars, flatMap_cons, length_append, length_cons,
      length_nil] at ih ⊢
    omega

end Wts.Sha256
