/-
Module: Wts.Library.UrlOrigin
Purpose: The WHATWG URL parser up to the host and the port, on which the origin of a URL depends,
  and the serialization of an origin.
Trusted boundary: percent-decoding and UTS #46 of hosts that are not plain
-/
import Wts.Library.IpAddr
import Wts.Library.Search

namespace Wts.Url

open List Net

inductive SpecialScheme where
  | ftp
  | http
  | https
  | ws
  | wss
deriving DecidableEq

def SpecialScheme.name : SpecialScheme → List Char
  | .ftp => "ftp".toList
  | .http => "http".toList
  | .https => "https".toList
  | .ws => "ws".toList
  | .wss => "wss".toList

def SpecialScheme.defaultPort : SpecialScheme → ℕ
  | .ftp => 21
  | .http => 80
  | .https => 443
  | .ws => 80
  | .wss => 443

def specialScheme (name : List Char) : Option SpecialScheme :=
  [.ftp, .http, .https, .ws, .wss].find? fun scheme : SpecialScheme => scheme.name = name

inductive Host where
  | domain (name : List Char)
  | ipv4 (address : ℕ)
  | ipv6 (pieces : List ℕ)
deriving DecidableEq

/-- A URL whose scheme is special and is not `file`. Its origin consists of these three. -/
structure SpecialUrl where
  scheme : SpecialScheme
  host : Host
  port : Option ℕ
deriving DecidableEq

inductive ParsedUrl where
  | special (url : SpecialUrl)
  | other
deriving DecidableEq

def isC0ControlOrSpace (c : Char) : Bool :=
  c.toNat ≤ 0x20

def isTabOrNewline (c : Char) : Bool :=
  c = '\t' || c = '\n' || c = '\r'

/-- A slash of a special URL. -/
def isSlash (c : Char) : Bool :=
  c = '/' || c = '\\'

def isHexDigit (c : Char) : Bool :=
  c.isDigit || ('a' ≤ c && c ≤ 'f') || ('A' ≤ c && c ≤ 'F')

def hexDigitValue (c : Char) : ℕ :=
  if c.isDigit then c.toNat - 48
  else if 'a' ≤ c then c.toNat - 87
  else c.toNat - 55

def isForbiddenDomain (c : Char) : Bool :=
  c.toNat ≤ 0x20 || c.toNat = 0x7F ||
    ['#', '/', ':', '<', '>', '?', '@', '[', '\\', ']', '^', '|', '%'].contains c

/-- White space and control characters at the ends go, tabs and newlines go everywhere. -/
def cleaned (input : List Char) : List Char :=
  ((input.dropWhile isC0ControlOrSpace).rdropWhile isC0ControlOrSpace).filter
    fun c => !isTabOrNewline c

/-! ### Hosts -/

def radixValue (radix : ℕ) (digits : List Char) : ℕ :=
  digits.foldl (fun value c => radix * value + hexDigitValue c) 0

def parseIpv4Number (input : List Char) : Option ℕ :=
  match input with
  | [] => none
  | '0' :: c :: rest =>
    if c = 'x' ∨ c = 'X' then
      if rest.all isHexDigit then some (radixValue 16 rest) else none
    else if (c :: rest).all fun digit => '0' ≤ digit && digit ≤ '7' then
      some (radixValue 8 (c :: rest))
    else none
  | digits => if digits.all Char.isDigit then some (radixValue 10 digits) else none

/-- The parts of a host between dots, without an empty last one. -/
def hostParts (host : List Char) : List (List Char) :=
  let parts := host.splitOn '.'
  if parts.getLast? = some [] ∧ 1 < parts.length then parts.dropLast else parts

def endsInNumber (host : List Char) : Bool :=
  match (hostParts host).getLast? with
  | none => false
  | some last =>
    (last ≠ [] && last.all Char.isDigit) || (parseIpv4Number last).isSome

/-- The number of an IPv4 address from its parts: the last one fills the bytes that are left. -/
def ipv4OfParts : ℕ → List ℕ → Option ℕ
  | _, [] => none
  | bytes, [last] => if last < 256 ^ bytes then some last else none
  | bytes, part :: rest =>
    if part ≤ 255 then
      (ipv4OfParts (bytes - 1) rest).map fun address => part * 256 ^ (bytes - 1) + address
    else none

def parseIpv4 (host : List Char) : Option ℕ :=
  let parts := hostParts host
  if 4 < parts.length then none
  else do
    let numbers ← parts.mapM parseIpv4Number
    ipv4OfParts 4 numbers

/-- The four decimal numbers of an IPv4 address at the end of an IPv6 address, as two pieces. -/
def ipv4Pieces (input : List Char) : Option (List ℕ) :=
  let octet (digits : List Char) : Option ℕ :=
    if digits ≠ [] ∧ digits.all Char.isDigit ∧ (digits.head? = some '0' → digits.length = 1) ∧
        radixValue 10 digits ≤ 255 then
      some (radixValue 10 digits)
    else none
  match (input.splitOn '.').map octet with
  | [some first, some second, some third, some fourth] =>
    some [256 * first + second, 256 * third + fourth]
  | _ => none

/-- The main loop of the IPv6 parser, with the pieces so far and the place of the compression. -/
def parseIpv6Pieces : ℕ → List Char → List ℕ → Option ℕ → Option (List ℕ × Option ℕ)
  | _, [], pieces, compress => some (pieces, compress)
  | 0, _, _, _ => none
  | fuel + 1, c :: rest, pieces, compress =>
    if pieces.length = 8 then none
    else if c = ':' then
      if compress.isSome then none
      else parseIpv6Pieces fuel rest (pieces ++ [0]) (some (pieces.length + 1))
    else
      let digits := ((c :: rest).take 4).takeWhile isHexDigit
      let after := (c :: rest).drop digits.length
      let piece := radixValue 16 digits
      match after with
      | [] => some (pieces ++ [piece], compress)
      | '.' :: _ =>
        if digits = [] ∨ 6 < pieces.length then none
        else (ipv4Pieces (c :: rest)).map fun last => (pieces ++ last, compress)
      | ':' :: next =>
        if next = [] then none
        else parseIpv6Pieces fuel next (pieces ++ [piece]) compress
      | _ => none

def parseIpv6 (input : List Char) : Option (List ℕ) :=
  let start : Option (List Char × List ℕ × Option ℕ) :=
    match input with
    | ':' :: ':' :: rest => some (rest, [0], some 1)
    | ':' :: _ => none
    | _ => some (input, [], none)
  match start with
  | none => none
  | some (rest, pieces, compress) =>
    match parseIpv6Pieces rest.length rest pieces compress with
    | none => none
    | some (pieces, some place) =>
      some (pieces.take place ++ List.replicate (8 - pieces.length) 0 ++ pieces.drop place)
    | some (pieces, none) => if pieces.length = 8 then some pieces else none

section Parser

variable (idna : List Char → Option (List Char))

/-- A host on which percent-decoding does nothing and UTS #46 only maps to lower case. -/
def isPlainHost (host : List Char) : Bool :=
  host.all (fun c => c.toNat < 0x80 && c ≠ '%') &&
    (host.splitOn '.').all fun label =>
      !(['x', 'n', '-', '-'].isPrefixOf (label.map Char.toLower))

def domainToAscii (host : List Char) : Option (List Char) :=
  match if isPlainHost host then some (host.map Char.toLower) else idna host with
  | none => none
  | some domain =>
    if domain = [] ∨ domain.any isForbiddenDomain then none else some domain

/-- The host parser for special URLs. -/
def parseHost (input : List Char) : Option Host :=
  match input with
  | '[' :: rest =>
    if rest.getLast? = some ']' then (parseIpv6 rest.dropLast).map .ipv6 else none
  | _ =>
    match domainToAscii idna input with
    | none => none
    | some domain =>
      if endsInNumber domain then (parseIpv4 domain).map .ipv4 else some (.domain domain)

/-- The host and the port text: the first colon outside of brackets separates them. -/
def splitPort : Bool → List Char → List Char × Option (List Char)
  | _, [] => ([], none)
  | inside, c :: rest =>
    if c = ':' ∧ inside = false then ([], some rest)
    else
      let now := if c = '[' then true else if c = ']' then false else inside
      let (host, port) := splitPort now rest
      (c :: host, port)

/-- The port state at the end of the authority. -/
def parsePort (scheme : SpecialScheme) (text : List Char) : Option (Option ℕ) :=
  if text.all Char.isDigit then
    if text = [] then some none
    else
      let port := radixValue 10 text
      if 65535 < port then none
      else if port = scheme.defaultPort then some none
      else some (some port)
  else none

/-- The authority state and those of the host and the port. -/
def parseAuthority (scheme : SpecialScheme) (chars : List Char) : Option ParsedUrl :=
  let authority := chars.takeWhile fun c => !(isSlash c || c = '?' || c = '#')
  -- the user information ends at the last `@`
  let hostAndPort := (Search.afterLast '@' authority).getD authority
  let (host, port) := splitPort false hostAndPort
  if host = [] then none
  else
    match parseHost idna host, parsePort scheme (port.getD []) with
    | some host, some port => some (.special { scheme := scheme, host := host, port := port })
    | _, _ => none

/-- The relative state and the relative slash state. -/
def parseRelative (base : SpecialUrl) (chars : List Char) : Option ParsedUrl :=
  match chars with
  | first :: second :: rest =>
    if isSlash first && isSlash second then
      parseAuthority idna base.scheme (rest.dropWhile isSlash)
    else
      some (.special base)
  | _ => some (.special base)

/-- The scheme and what follows its colon. -/
def splitScheme (chars : List Char) : Option (List Char × List Char) :=
  match chars with
  | [] => none
  | first :: _ =>
    if first.isAlpha then
      let scheme := chars.takeWhile fun c => c.isAlphanum || c = '+' || c = '-' || c = '.'
      match chars.drop scheme.length with
      | ':' :: rest => some (scheme.map Char.toLower, rest)
      | _ => none
    else none

/-- The basic URL parser. A base is a special URL. -/
def parseUrl (input : List Char) (base : Option SpecialUrl) : Option ParsedUrl :=
  let chars := cleaned input
  match splitScheme chars with
  | none => base.bind fun base => parseRelative idna base chars
  | some (name, rest) =>
    match specialScheme name with
    | none => some .other
    | some scheme =>
      match base with
      | some base =>
        if base.scheme = scheme then
          match rest with
          | '/' :: '/' :: rest => parseAuthority idna scheme (rest.dropWhile isSlash)
          | _ => parseRelative idna base rest
        else parseAuthority idna scheme (rest.dropWhile isSlash)
      | none => parseAuthority idna scheme (rest.dropWhile isSlash)

end Parser

def serializeIpv4 (address : ℕ) : List Char :=
  Nat.toDigits 10 (address / 256 ^ 3) ++ '.' :: (Nat.toDigits 10 (address / 256 ^ 2 % 256) ++
    '.' :: (Nat.toDigits 10 (address / 256 % 256) ++ '.' :: Nat.toDigits 10 (address % 256)))

/-- The number of zeros at the start. -/
def zerosAt (pieces : List ℕ) : ℕ :=
  (pieces.takeWhile (· = 0)).length

/-- The first of the longest sequences of zeros, if one has two pieces. -/
def longestZeros (pieces : List ℕ) : Option (ℕ × ℕ) :=
  let runs := (List.range pieces.length).map fun start => (start, zerosAt (pieces.drop start))
  let longest := (runs.map Prod.snd).foldl max 0
  if longest < 2 then none else runs.find? fun run => run.2 = longest

/-- The pieces in hexadecimal, between colons. -/
def joinPieces (pieces : List ℕ) : List Char :=
  [':'].intercalate (pieces.map (Nat.toDigits 16))

def serializeIpv6 (pieces : List ℕ) : List Char :=
  match longestZeros pieces with
  | none => joinPieces pieces
  | some (start, length) =>
    joinPieces (pieces.take start) ++ [':', ':'] ++ joinPieces (pieces.drop (start + length))

def serializeHost : Host → List Char
  | .domain name => name
  | .ipv4 address => serializeIpv4 address
  | .ipv6 pieces => '[' :: (serializeIpv6 pieces ++ [']'])

/-- The ASCII serialization of the origin of a special URL. -/
def serializeOrigin (origin : SpecialUrl) : List Char :=
  origin.scheme.name ++ "://".toList ++ serializeHost origin.host ++
    match origin.port with
    | none => []
    | some port => ':' :: Nat.toDigits 10 port

/-- The characters of the hosts below and of a port. -/
def authorityChars : List Char :=
  ['a', 'b', 'c', 'd', 'e', 'f', 'g', 'h', 'i', 'j', 'k', 'l', 'm', 'n', 'o', 'p', 'q', 'r', 's',
    't', 'u', 'v', 'w', 'x', 'y', 'z', '0', '1', '2', '3', '4', '5', '6', '7', '8', '9', '.',
    ':', '[', ']']

theorem plain_of_contains {c : Char} (inside : authorityChars.contains c = true) :
    (isSlash c || c = '?' || c = '#') = false ∧ c ≠ '@' ∧ isC0ControlOrSpace c = false ∧
      isTabOrNewline c = false := by
  have all : authorityChars.all (fun c => !(isSlash c || c = '?' || c = '#') && (c ≠ '@' &&
      (!isC0ControlOrSpace c && !isTabOrNewline c))) = true := by decide +kernel
  have plain := all_eq_true.1 all c (contains_iff_mem.1 inside)
  simpa only [Bool.and_eq_true, Bool.not_eq_true', decide_eq_true_eq] using plain

theorem digit_cases {c : Char} (digit : c.isDigit = true) : ∃ n : Fin 10, c = Char.ofNat (n + 48) := by
  have range : 48 ≤ c.toNat ∧ c.toNat ≤ 57 := by
    simpa [Char.isDigit, UInt32.le_iff_toNat_le] using digit
  refine ⟨⟨c.toNat - 48, by omega⟩, ?_⟩
  rw [Nat.sub_add_cancel range.1, Char.ofNat_toNat]

theorem contains_of_digit {c : Char} (digit : c.isDigit = true) : authorityChars.contains c = true := by
  obtain ⟨n, rfl⟩ := digit_cases digit
  have all : ∀ n : Fin 10, authorityChars.contains (Char.ofNat (n + 48)) = true := by decide
  exact all n

theorem cleaned_eq_self {input : List Char}
    (plain : ∀ c ∈ input, isC0ControlOrSpace c = false ∧ isTabOrNewline c = false) :
    cleaned input = input := by
  have left : input.dropWhile isC0ControlOrSpace = input := by
    rw [dropWhile_eq_self_iff]
    intro nonempty
    simp [(plain _ (getElem_mem nonempty)).1]
  have right : input.rdropWhile isC0ControlOrSpace = input := by
    rw [rdropWhile_eq_self_iff]
    intro nonempty
    simp [(plain _ (getLast_mem nonempty)).1]
  rw [cleaned, left, right, filter_eq_self]
  intro c inside
  rw [(plain c inside).2]
  rfl

theorem radixValue_digits {digits : List Char} (decimal : ∀ c ∈ digits, c.isDigit = true) :
    radixValue 10 digits = Nat.ofDigitChars 10 digits 0 := by
  rw [radixValue, Nat.ofDigitChars_eq_foldl]
  refine foldl_ext _ _ 0 fun value c inside => ?_
  rw [hexDigitValue, if_pos (decimal c inside)]
  rfl

theorem radixValue_toDigits (n : ℕ) : radixValue 10 (Nat.toDigits 10 n) = n := by
  rw [radixValue_digits fun c inside => digits_toDigits inside, Nat.ofDigitChars_ten_toDigits]

theorem all_digits_toDigits (n : ℕ) : (Nat.toDigits 10 n).all Char.isDigit = true :=
  all_eq_true.2 fun _ inside => digits_toDigits inside

theorem parsePort_toDigits {scheme : SpecialScheme} {port : ℕ} (bounded : port ≤ 65535)
    (other : port ≠ scheme.defaultPort) :
    parsePort scheme (Nat.toDigits 10 port) = some (some port) := by
  simp only [parsePort, all_digits_toDigits, radixValue_toDigits, if_true]
  rw [if_neg Nat.toDigits_ne_nil, if_neg (not_lt.2 bounded), if_neg other]

theorem splitPort_append {host : List Char} (plain : ∀ c ∈ host, c ≠ ':' ∧ c ≠ '[')
    (rest : List Char) : splitPort false (host ++ ':' :: rest) = (host, some rest) ∧
      splitPort false host = (host, none) := by
  induction host with
  | nil => simp [splitPort]
  | cons c tail ih =>
    have ⟨first, others⟩ := forall_mem_cons.1 plain
    have ⟨before, whole⟩ := ih others
    constructor
    · rw [cons_append, splitPort]
      simp [first.1, first.2, before]
    rw [splitPort]
    simp [first.1, first.2, whole]

variable (idna : List Char → Option (List Char))

/-- The text of a host is parsed as this host, alone and before a port. -/
structure ReadsBack (host : Host) : Prop where
  nonempty : serializeHost host ≠ []
  plain : (serializeHost host).all authorityChars.contains = true
  before : ∀ rest, splitPort false (serializeHost host ++ ':' :: rest) =
    (serializeHost host, some rest)
  alone : splitPort false (serializeHost host) = (serializeHost host, none)
  parse : parseHost idna (serializeHost host) = some host

theorem parseHost_of_domain {host domain : List Char} (first : ∀ rest, host ≠ '[' :: rest)
    (ascii : domainToAscii idna host = some domain) : parseHost idna host =
      if endsInNumber domain then (parseIpv4 domain).map Host.ipv4
      else some (Host.domain domain) := by
  unfold parseHost
  split
  · rename_i rest
    exact absurd rfl (first rest)
  rw [ascii]

theorem domainToAscii_eq_self {host : List Char} (plain : isPlainHost host = true)
    (lower : host.map Char.toLower = host) (nonempty : host ≠ [])
    (allowed : host.any isForbiddenDomain = false) : domainToAscii idna host = some host := by
  rw [domainToAscii, if_pos plain, lower]
  simp [nonempty, allowed]

theorem readsBack_localhost : ReadsBack idna (.domain "localhost".toList) where
  nonempty := by decide
  plain := by decide +kernel
  before := fun rest => (splitPort_append (by simp [serializeHost]) rest).1
  alone := by decide +kernel
  parse := by
    have ascii : domainToAscii idna "localhost".toList = some "localhost".toList :=
      domainToAscii_eq_self idna (by decide +kernel) (by decide +kernel) (by decide)
        (by decide +kernel)
    have named : endsInNumber "localhost".toList = false := by decide +kernel
    rw [serializeHost, parseHost_of_domain idna (fun rest => by simp) ascii, named]
    rfl

theorem readsBack_ipv6Loopback : ReadsBack idna (.ipv6 [0, 0, 0, 0, 0, 0, 0, 1]) := by
  have text : serializeHost (.ipv6 [0, 0, 0, 0, 0, 0, 0, 1]) = "[::1]".toList := by decide +kernel
  have address : parseIpv6 "::1".toList = some [0, 0, 0, 0, 0, 0, 0, 1] := by decide +kernel
  refine ⟨?_, ?_, ?_, ?_, ?_⟩ <;> rw [text]
  · decide
  · decide +kernel
  · intro rest
    rfl
  · decide
  change (if "::1]".toList.getLast? = some ']' then
    (parseIpv6 "::1]".toList.dropLast).map Host.ipv6 else none) = _
  have inner : "::1]".toList.dropLast = "::1".toList := by decide
  rw [if_pos (by decide), inner, address]
  rfl

/-- The four numbers of an address. -/
def octets (address : ℕ) : List ℕ :=
  [address / 256 ^ 3, address / 256 ^ 2 % 256, address / 256 % 256, address % 256]

theorem serializeIpv4_eq (address : ℕ) :
    serializeIpv4 address = ['.'].intercalate ((octets address).map (Nat.toDigits 10)) := by
  simp [serializeIpv4, octets, List.intercalate, List.intersperse]

theorem splitOn_serializeIpv4 (address : ℕ) :
    (serializeIpv4 address).splitOn '.' = (octets address).map (Nat.toDigits 10) := by
  rw [serializeIpv4_eq]
  apply splitOn_intercalate
  · intro part inside
    obtain ⟨n, _, rfl⟩ := mem_map.1 inside
    exact fun dot => absurd (digits_toDigits dot) (by decide)
  simp [octets]

theorem hostParts_serializeIpv4 (address : ℕ) :
    hostParts (serializeIpv4 address) = (octets address).map (Nat.toDigits 10) := by
  rw [hostParts, splitOn_serializeIpv4, if_neg]
  intro ⟨last, _⟩
  simp [octets] at last

theorem parseIpv4Number_toDigits (n : ℕ) : parseIpv4Number (Nat.toDigits 10 n) = some n := by
  unfold parseIpv4Number
  split
  · rename_i empty
    exact absurd empty Nat.toDigits_ne_nil
  · rename_i c rest same
    have zero := eq_zero_of_head?_toDigits (by rw [same]; rfl : (Nat.toDigits 10 n).head? = some '0')
    rw [zero] at same
    exact absurd same (by simp)
  rw [all_digits_toDigits, radixValue_toDigits]
  rfl

theorem ipv4OfParts_octets {address : ℕ} (bounded : address < 256 ^ 4) :
    ipv4OfParts 4 (octets address) = some address := by
  have first : address / 256 ^ 3 ≤ 255 := by omega
  have second : address / 256 ^ 2 % 256 ≤ 255 := by omega
  have third : address / 256 % 256 ≤ 255 := by omega
  have fourth : address % 256 < 256 ^ 1 := by omega
  simp only [octets, ipv4OfParts, first, second, third, if_true, Nat.add_one_sub_one,
    fourth, Option.map_some, Option.some.injEq]
  omega

theorem readsBack_ipv4 {address : ℕ} (bounded : address < 256 ^ 4) :
    ReadsBack idna (.ipv4 address) := by
  have chars : ∀ c ∈ serializeIpv4 address, c.isDigit = true ∨ c = '.' := by
    intro c inside
    simp only [serializeIpv4, mem_append, mem_cons] at inside
    obtain digit | rfl | digit | rfl | digit | rfl | digit := inside
    · exact .inl (digits_toDigits digit)
    · exact .inr rfl
    · exact .inl (digits_toDigits digit)
    · exact .inr rfl
    · exact .inl (digits_toDigits digit)
    · exact .inr rfl
    exact .inl (digits_toDigits digit)
  have colons : ∀ c ∈ serializeIpv4 address, c ≠ ':' ∧ c ≠ '[' := by
    intro c inside
    constructor
    · rintro rfl
      exact absurd (chars _ inside) (by decide)
    rintro rfl
    exact absurd (chars _ inside) (by decide)
  have each : ∀ p : Char → Bool, (∀ n : Fin 10, p (Char.ofNat (n + 48)) = true) → p '.' = true →
      ∀ c ∈ serializeIpv4 address, p c = true := by
    intro p digits dot c inside
    obtain digit | rfl := chars c inside
    · obtain ⟨n, rfl⟩ := digit_cases digit
      exact digits n
    exact dot
  have nonempty : serializeIpv4 address ≠ [] := by simp [serializeIpv4]
  have plain : isPlainHost (serializeIpv4 address) = true := by
    rw [isPlainHost, Bool.and_eq_true, splitOn_serializeIpv4, all_eq_true, all_eq_true]
    refine ⟨each _ (by decide) (by decide), fun label inside => ?_⟩
    obtain ⟨n, _, rfl⟩ := mem_map.1 inside
    rw [Bool.not_eq_true', ← Bool.not_eq_true, isPrefixOf_iff_prefix]
    intro ⟨rest, same⟩
    have first : 'x' ∈ (Nat.toDigits 10 n).map Char.toLower := by
      rw [← same]
      exact mem_cons_self
    obtain ⟨c, digit, lower⟩ := mem_map.1 first
    obtain ⟨value, rfl⟩ := digit_cases (digits_toDigits digit)
    exact absurd lower ((by decide : ∀ value : Fin 10,
      Char.toLower (Char.ofNat (value + 48)) ≠ 'x') value)
  have lower : (serializeIpv4 address).map Char.toLower = serializeIpv4 address := by
    refine (map_congr_left fun c inside => ?_).trans (map_id _)
    exact of_decide_eq_true (each (fun c => c.toLower = c) (by decide) (by decide) c inside)
  have allowed : (serializeIpv4 address).any isForbiddenDomain = false := by
    rw [any_eq_false]
    intro c inside
    have fine := each (fun c => !isForbiddenDomain c) (by decide) (by decide) c inside
    simpa using fine
  have ascii := domainToAscii_eq_self idna plain lower nonempty allowed
  have numbered : endsInNumber (serializeIpv4 address) = true := by
    rw [endsInNumber, hostParts_serializeIpv4]
    simp [octets, all_digits_toDigits]
  have numbers : ((octets address).map (Nat.toDigits 10)).mapM parseIpv4Number =
      some (octets address) := by
    simp [octets, parseIpv4Number_toDigits]
  have parsed : parseIpv4 (serializeIpv4 address) = some address := by
    rw [parseIpv4, hostParts_serializeIpv4, numbers]
    exact ipv4OfParts_octets bounded
  refine ⟨nonempty, ?_, fun rest => (splitPort_append colons rest).1, (splitPort_append colons []).2,
    ?_⟩
  · exact all_eq_true.2 (each _ (by decide) (by decide))
  rw [serializeHost, parseHost_of_domain idna _ ascii, numbered, if_pos rfl, parsed]
  · rfl
  intro rest same
  exact (colons '[' (same ▸ mem_cons_self)).2 rfl

/-- The characters after a host. -/
def serializePort : Option ℕ → List Char
  | none => []
  | some port => ':' :: Nat.toDigits 10 port

theorem all_serializeAuthority {host : Host} (reads : ReadsBack idna host) (port : Option ℕ) :
    ∀ c ∈ serializeHost host ++ serializePort port, authorityChars.contains c = true := by
  intro c inside
  obtain own | after := mem_append.1 inside
  · exact all_eq_true.1 reads.plain c own
  cases port with
  | none => cases after
  | some port =>
    obtain rfl | digit := mem_cons.1 after
    · decide
    exact contains_of_digit (digits_toDigits digit)

/-- The port of a serialized origin: it is not the default one. -/
def ValidPort (scheme : SpecialScheme) (port : Option ℕ) : Prop :=
  ∀ number, port = some number → number ≤ 65535 ∧ number ≠ scheme.defaultPort

theorem parseAuthority_serialize {origin : SpecialUrl} (host : ReadsBack idna origin.host)
    (valid : ValidPort origin.scheme origin.port) :
    parseAuthority idna origin.scheme (serializeHost origin.host ++ serializePort origin.port) =
      some (.special origin) := by
  have chars := all_serializeAuthority idna host origin.port
  have whole : (serializeHost origin.host ++ serializePort origin.port).takeWhile
      (fun c => !(isSlash c || c = '?' || c = '#')) =
        serializeHost origin.host ++ serializePort origin.port := by
    rw [takeWhile_eq_self_iff]
    intro c inside
    rw [(plain_of_contains (chars c inside)).1]
    rfl
  have noUser : Search.afterLast '@' (serializeHost origin.host ++ serializePort origin.port) =
      none := by
    rw [Search.afterLast_eq_none_iff]
    exact fun inside => (plain_of_contains (chars _ inside)).2.1 rfl
  have port : parsePort origin.scheme
      ((splitPort false (serializeHost origin.host ++ serializePort origin.port)).2.getD []) =
        some origin.port ∧
      (splitPort false (serializeHost origin.host ++ serializePort origin.port)).1 =
        serializeHost origin.host := by
    cases written : origin.port with
    | none =>
      rw [serializePort, append_nil, host.alone]
      exact ⟨rfl, rfl⟩
    | some number =>
      obtain ⟨bounded, other⟩ := valid number written
      rw [serializePort, host.before]
      exact ⟨parsePort_toDigits bounded other, rfl⟩
  simp only [parseAuthority, whole, noUser, Option.getD_none, port.1, port.2, host.parse]
  rw [if_neg host.nonempty]

theorem serializeOrigin_eq (origin : SpecialUrl) :
    serializeOrigin origin = origin.scheme.name ++ ':' :: '/' :: '/' ::
      (serializeHost origin.host ++ serializePort origin.port) := by
  rw [serializeOrigin, append_assoc, append_assoc]
  cases origin.port <;> rfl

theorem parseUrl_serializeOrigin {origin : SpecialUrl} (host : ReadsBack idna origin.host)
    (valid : ValidPort origin.scheme origin.port) :
    parseUrl idna (serializeOrigin origin) none = some (.special origin) := by
  have chars := all_serializeAuthority idna host origin.port
  have names : ∀ scheme : SpecialScheme, scheme.name.all authorityChars.contains = true := by
    intro scheme
    cases scheme <;> decide +kernel
  have clean : cleaned (serializeOrigin origin) = serializeOrigin origin := by
    apply cleaned_eq_self
    rw [serializeOrigin_eq]
    intro c inside
    have plain : authorityChars.contains c = true ∨ c = '/' := by
      obtain name | rfl | rfl | rfl | after : c ∈ origin.scheme.name ∨ c = ':' ∨ c = '/' ∨ c = '/' ∨
          c ∈ serializeHost origin.host ++ serializePort origin.port := by simpa using inside
      · exact .inl (all_eq_true.1 (names origin.scheme) c name)
      · exact .inl (by decide)
      · exact .inr rfl
      · exact .inr rfl
      exact .inl (chars c after)
    obtain plain | rfl := plain
    · exact (plain_of_contains plain).2.2
    decide
  have scheme : splitScheme (serializeOrigin origin) = some (origin.scheme.name,
      '/' :: '/' :: (serializeHost origin.host ++ serializePort origin.port)) := by
    rw [serializeOrigin_eq]
    cases origin.scheme <;> rfl
  have special : specialScheme origin.scheme.name = some origin.scheme := by
    cases origin.scheme <;> decide +kernel
  have slashes : ('/' :: '/' :: (serializeHost origin.host ++ serializePort origin.port)).dropWhile
      isSlash = serializeHost origin.host ++ serializePort origin.port := by
    rw [dropWhile_cons_of_pos (by decide), dropWhile_cons_of_pos (by decide), dropWhile_eq_self_iff]
    intro nonempty
    have first := (plain_of_contains (chars _ (getElem_mem nonempty))).1
    simp only [Bool.or_eq_false_iff] at first
    rw [first.1.1]
    exact Bool.false_ne_true
  simp only [parseUrl, clean, scheme, special, slashes]
  exact parseAuthority_serialize idna host valid

theorem parseUrl_path {rest : List Char} {base : SpecialUrl} (plain : '\\' ∉ '/' :: rest)
    (single : ¬['/', '/'] <+: ('/' :: rest).filter fun c => !isTabOrNewline c) :
    parseUrl idna ('/' :: rest) (some base) = some (.special base) := by
  obtain ⟨dropped, split⟩ := rdropWhile_prefix isC0ControlOrSpace ('/' :: rest)
  have start : ∃ tail, ('/' :: rest).rdropWhile isC0ControlOrSpace = '/' :: tail := by
    cases kept : ('/' :: rest).rdropWhile isC0ControlOrSpace with
    | nil =>
      have all := rdropWhile_eq_nil_iff.1 kept '/' mem_cons_self
      exact absurd all (by decide)
    | cons c tail =>
      rw [kept, cons_append] at split
      exact ⟨tail, by rw [(List.cons.inj split).1]⟩
  obtain ⟨tail, kept⟩ := start
  have clean : cleaned ('/' :: rest) = '/' :: tail.filter fun c => !isTabOrNewline c := by
    rw [cleaned, dropWhile_cons_of_neg (by decide), kept, filter_cons_of_pos (by decide)]
  rw [kept] at split
  have relative : parseRelative idna base ('/' :: tail.filter fun c => !isTabOrNewline c) =
      some (.special base) := by
    cases after : tail.filter fun c => !isTabOrNewline c with
    | nil => rfl
    | cons second others =>
      have inside : second ∈ tail := mem_of_mem_filter (after ▸ mem_cons_self)
      have noBackslash : second ≠ '\\' := by
        intro same
        apply plain
        rw [← split, ← same]
        exact mem_append_left _ (mem_cons_of_mem _ inside)
      have noSlash : second ≠ '/' := by
        intro same
        apply single
        rw [← split, filter_append, filter_cons_of_pos (by decide), after, same]
        exact ⟨_, rfl⟩
      rw [parseRelative, if_neg]
      simp [isSlash, noBackslash, noSlash]
  have noScheme : splitScheme ('/' :: tail.filter fun c => !isTabOrNewline c) = none := rfl
  simp only [parseUrl, clean, noScheme, Option.bind_some, relative]

end Wts.Url
