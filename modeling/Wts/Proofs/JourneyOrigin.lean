/-
Module: Wts.Proofs.JourneyOrigin
Purpose: Which base URLs and paths a browser journey accepts.
Trusted boundary: percent-decoding and UTS #46 of hosts that are not plain
Main exports: journey_stays_on_origin
-/
import Wts.App.JourneyPlan
import Wts.Library.Interrupt
import Wts.Library.UrlOrigin

namespace Wts.Testing

open Text Net Url List Interrupt Search

variable {text authority : List Char}

theorem parseU16_digits (nonempty : text ≠ [])
    (decimal : text.all Char.isDigit = true) : parseU16 text =
      if Nat.ofDigitChars 10 text 0 < 2 ^ 16 then some (Nat.ofDigitChars 10 text 0) else none := by
  simp only [parseU16]
  split
  · exact absurd decimal (by simp)
  simp only [ne_eq, nonempty, not_false_eq_true, decimal, true_and]

theorem validatePort_eq_ok_iff {port : List Char} : validatePort port = .ok () ↔
      ∃ number, 0 < number ∧ number ≤ 65535 ∧ port = Nat.toDigits 10 number := by
  rw [validatePort]
  constructor
  · intro accepted
    split at accepted
    · cases accepted
    rename_i shape
    rw [not_or, not_or, not_and, not_not] at shape
    obtain ⟨nonempty, canonical, decimal⟩ := shape
    split at accepted
    · cases accepted
    rename_i number found
    obtain ⟨parsed, positive⟩ := Option.filter_eq_some_iff.1 found
    rw [parseU16_digits nonempty decimal] at parsed
    split at parsed
    · rename_i bounded
      have value := Option.some.inj parsed
      refine ⟨number, of_decide_eq_true positive, by omega, ?_⟩
      rw [← value, toDigits_ofDigitChars (all_eq_true.1 decimal) nonempty]
      intro zero
      have short := mt canonical (not_not.2 zero)
      have long := length_pos_iff.2 nonempty
      omega
    cases parsed
  rintro ⟨number, positive, bounded, rfl⟩
  have canonical : ¬(1 < (Nat.toDigits 10 number).length ∧
      (Nat.toDigits 10 number).head? = some '0') := by
    intro ⟨_, zero⟩
    exact absurd (eq_zero_of_head?_toDigits zero) (by omega)
  have parsed : parseU16 (Nat.toDigits 10 number) = some number := by
    rw [parseU16_digits Nat.toDigits_ne_nil (all_digits_toDigits number),
      Nat.ofDigitChars_ten_toDigits, if_pos (by omega)]
  rw [if_neg, parsed, Option.filter_some, if_pos (decide_eq_true positive)]
  rw [not_or, not_or]
  exact ⟨Nat.toDigits_ne_nil, canonical, not_not.2 (all_digits_toDigits number)⟩

/-- A port that a base URL may name. -/
def PortNumber (port : Option ℕ) : Prop :=
  ∀ number, port = some number → 0 < number ∧ number ≤ 65535

theorem portNumber_none : PortNumber none := by
  intro number absent
  cases absent

theorem portNumber_some {number : ℕ} (positive : 0 < number) (bounded : number ≤ 65535) :
    PortNumber (some number) := by
  intro other same
  cases same
  exact ⟨positive, bounded⟩

variable {port : Option (List Char)}

theorem validateOptionalPort_eq_ok_iff {suffix : List Char} :
    validateOptionalPort suffix = .ok port ↔
      ∃ number, PortNumber number ∧ suffix = serializePort number ∧
        port = number.map (Nat.toDigits 10) := by
  rw [validateOptionalPort.eq_def]
  constructor
  · intro accepted
    split at accepted
    · cases accepted
      exact ⟨none, portNumber_none, rfl, rfl⟩
    rename_i c text
    split at accepted
    · rename_i colon
      obtain ⟨_, valid, accepted⟩ := bind_eq_ok.1 accepted
      cases accepted
      obtain ⟨number, positive, bounded, rfl⟩ := validatePort_eq_ok_iff.1 valid
      exact ⟨some number, portNumber_some positive bounded, by rw [colon, serializePort], rfl⟩
    cases accepted
  rintro ⟨number, valid, rfl, rfl⟩
  cases number with
  | none => rfl
  | some number =>
    have ok := validatePort_eq_ok_iff.2 ⟨number, (valid number rfl).1, (valid number rfl).2, rfl⟩
    simp only [serializePort, if_true, ok, Option.map_some]
    rfl

/-- A name that the code accepts: `localhost`, or a loopback IPv4 address in its own text. -/
def NamedHost (host : List Char) : Prop :=
  host = "localhost".toList ∨ ∃ address : Ipv4Addr, address.first = 127 ∧ host = address.display

variable {host chars : List Char}

theorem chars_of_named (named : NamedHost host) : host ≠ [] ∧ host.length ≤ 15 ∧
      ∀ c ∈ host, authorityChars.contains c = true ∧ c ≠ ':' ∧ c ≠ '[' ∧ c ≠ ']' := by
  obtain rfl | ⟨address, _, rfl⟩ := named
  · refine ⟨by decide, by decide, fun c inside => ?_⟩
    have all : "localhost".toList.all (fun c => authorityChars.contains c &&
        (c ≠ ':' && (c ≠ '[' && c ≠ ']'))) = true := by decide
    simpa only [Bool.and_eq_true, decide_eq_true_eq] using all_eq_true.1 all c inside
  refine ⟨by simp [Ipv4Addr.display], ?_, fun c inside => ?_⟩
  · have short : ∀ octet : UInt8, (Nat.toDigits 10 octet.toNat).length ≤ 3 := fun octet =>
      (Nat.length_toDigits_le_iff (by decide) (by decide)).2 (lt_trans octet.toNat_lt (by decide))
    have first := short address.first
    have second := short address.second
    have third := short address.third
    have fourth := short address.fourth
    simp only [Ipv4Addr.display, length_append, length_cons]
    omega
  have kind : c.isDigit = true ∨ c = '.' := by
    simp only [Ipv4Addr.display, mem_append, mem_cons] at inside
    obtain digit | rfl | digit | rfl | digit | rfl | digit := inside
    · exact .inl (digits_toDigits digit)
    · exact .inr rfl
    · exact .inl (digits_toDigits digit)
    · exact .inr rfl
    · exact .inl (digits_toDigits digit)
    · exact .inr rfl
    exact .inl (digits_toDigits digit)
  obtain digit | rfl := kind
  · obtain ⟨n, rfl⟩ := digit_cases digit
    have all : ∀ n : Fin 10, authorityChars.contains (Char.ofNat (n + 48)) = true ∧
        Char.ofNat (n + 48) ≠ ':' ∧ Char.ofNat (n + 48) ≠ '[' ∧ Char.ofNat (n + 48) ≠ ']' := by
      decide
    exact all n
  decide

theorem isLoopbackHost_iff : isLoopbackHost host = true ↔ NamedHost host ∨ host = "::1".toList := by
  rw [isLoopbackHost, Bool.or_eq_true, decide_eq_true_eq]
  constructor
  · rintro (name | loopback)
    · exact .inl (.inl name)
    · split at loopback
      · cases loopback
      · rename_i address parsed
        rw [Bool.and_eq_true] at loopback
        obtain ⟨loops, written⟩ := loopback
        cases address with
        | v4 address =>
          have first : address.first = 127 := of_decide_eq_true loops
          exact .inl (.inr ⟨address, first, (of_decide_eq_true written).symm⟩)
        | v6 address =>
          rw [Bool.and_eq_true] at written
          exact .inr (of_decide_eq_true written.2)
  rintro ((name | ⟨address, first, rfl⟩) | rfl)
  · exact .inl name
  · right
    rw [parseIpAddr_display]
    simp [IpAddr.isLoopback, first]
  right
  have parsed : parseIpAddr "::1".toList = some (.v6 .localhost) := by decide
  rw [parsed]
  simp [IpAddr.isLoopback]

variable {c : Char}

theorem rsplitOnce_eq_some {before after : List Char}
    (found : rsplitOnce c chars = some (before, after)) : chars = before ++ c :: after := by
  obtain ⟨⟨last, first⟩, split, same⟩ := Option.map_eq_some_iff.1 found
  cases same
  have mirrored := congrArg List.reverse (splitOnce_eq_some split)
  simpa using mirrored

theorem rsplitOnce_append {before after : List Char} (absent : c ∉ after) :
    rsplitOnce c (before ++ c :: after) = some (before, after) := by
  have split : Search.splitOnce [c] (after.reverse ++ [c] ++ before.reverse) =
      some (after.reverse, before.reverse) :=
    splitOnce_of_notMem fun inside => absent (mem_reverse.1 inside)
  have mirrored : (before ++ c :: after).reverse = after.reverse ++ [c] ++ before.reverse := by simp
  rw [rsplitOnce, mirrored, split]
  simp

theorem rsplitOnce_eq_none (absent : c ∉ chars) : rsplitOnce c chars = none := by
  rw [rsplitOnce, Option.map_eq_none_iff, splitOnce_eq_none_iff, singleton_infix_iff]
  exact fun inside => absent (mem_reverse.1 inside)

theorem notMem_of_rsplitOnce (missing : rsplitOnce c chars = none) : c ∉ chars := by
  rw [rsplitOnce, Option.map_eq_none_iff, splitOnce_eq_none_iff, singleton_infix_iff] at missing
  exact fun inside => missing (mem_reverse.2 inside)

/-- The forms of an authority. -/
inductive Authority (host : List Char) (port : Option ℕ) : List Char → Prop where
  | plain (clean : ':' ∉ host) : Authority host port (host ++ serializePort port)
  | bracketed : Authority host port ('[' :: (host ++ ']' :: serializePort port))

theorem authority_of_hostAndPort {host : List Char}
    (found : hostAndPort authority = .ok (host, port)) :
    ∃ number, PortNumber number ∧ port = number.map (Nat.toDigits 10) ∧
      Authority host number authority := by
  unfold hostAndPort at found
  split at found
  · rename_i bracketed
    split at found
    · cases found
    rename_i inner suffix split
    obtain ⟨text, valid, found⟩ := bind_eq_ok.1 found
    cases found
    obtain ⟨number, bounded, rfl, rfl⟩ := validateOptionalPort_eq_ok_iff.1 valid
    refine ⟨number, bounded, rfl, ?_⟩
    rw [splitOnce_eq_some split, append_assoc]
    exact .bracketed
  split at found
  · rename_i inner text split
    split at found
    · cases found
    rename_i clean
    obtain ⟨_, valid, found⟩ := bind_eq_ok.1 found
    cases found
    obtain ⟨number, positive, bounded, rfl⟩ := validatePort_eq_ok_iff.1 valid
    refine ⟨some number, portNumber_some positive bounded, rfl, ?_⟩
    rw [rsplitOnce_eq_some split]
    exact .plain clean
  rename_i split
  cases found
  refine ⟨none, portNumber_none, rfl, ?_⟩
  have whole : Authority authority none (authority ++ serializePort none) :=
    .plain (notMem_of_rsplitOnce split)
  rw [serializePort, append_nil] at whole
  exact whole

theorem hostAndPort_plain {host : List Char} {number : Option ℕ} (valid : PortNumber number)
    (nonempty : host ≠ []) (clean : ∀ c ∈ host, c ≠ ':' ∧ c ≠ '[') :
    hostAndPort (host ++ serializePort number) = .ok (host, number.map (Nat.toDigits 10)) := by
  have noColon : ':' ∉ host := fun inside => (clean ':' inside).1 rfl
  unfold hostAndPort
  split
  · rename_i bracketed same
    cases host with
    | nil => exact absurd rfl nonempty
    | cons first tail =>
      rw [cons_append] at same
      exact absurd (List.cons.inj same).1 (clean first mem_cons_self).2
  cases number with
  | none =>
    rw [serializePort, append_nil, rsplitOnce_eq_none noColon]
    rfl
  | some number =>
    have digits : ':' ∉ Nat.toDigits 10 number := fun inside =>
      absurd (digits_toDigits inside) (by decide)
    have ok := validatePort_eq_ok_iff.2 ⟨number, (valid number rfl).1, (valid number rfl).2, rfl⟩
    simp only [serializePort, rsplitOnce_append digits, noColon, if_false, ok]
    rfl

theorem hostAndPort_bracketed {host : List Char} {number : Option ℕ} (valid : PortNumber number)
    (clean : ']' ∉ host) : hostAndPort ('[' :: (host ++ ']' :: serializePort number)) =
      .ok (host, number.map (Nat.toDigits 10)) := by
  have split : Search.splitOnce [']'] (host ++ [']'] ++ serializePort number) =
      some (host, serializePort number) := splitOnce_of_notMem clean
  rw [append_assoc, singleton_append] at split
  have port := validateOptionalPort_eq_ok_iff.2 ⟨number, valid, rfl, rfl⟩
  simp only [hostAndPort, split, port]
  rfl

/-! ### Base URLs -/

def schemeName (scheme : SpecialScheme) : String :=
  String.ofList scheme.name

/-- The schemes of a base URL. -/
def WebScheme (scheme : SpecialScheme) : Prop :=
  scheme = .http ∨ scheme = .https

/-- The parts of an accepted base URL. -/
structure AcceptedUrl (value : List Char) (scheme : SpecialScheme) (host : List Char)
    (port : Option ℕ) : Prop where
  web : WebScheme scheme
  valid : PortNumber port
  other : port ≠ some scheme.defaultPort
  text : ∃ authority, value = scheme.name ++ "://".toList ++ authority ∧
    Authority host port authority

theorem splitScheme_eq_some {value : List Char} {name : String}
    (found : Testing.splitScheme value = some (name, authority)) :
    ∃ scheme, WebScheme scheme ∧ name = schemeName scheme ∧
      value = scheme.name ++ "://".toList ++ authority := by
  unfold Testing.splitScheme at found
  split at found
  · rename_i start
    cases found
    obtain ⟨rest, same⟩ := start
    refine ⟨.http, .inl rfl, by decide, ?_⟩
    rw [← same]
    rfl
  split at found
  · rename_i start
    cases found
    obtain ⟨rest, same⟩ := start
    refine ⟨.https, .inr rfl, by decide, ?_⟩
    rw [← same]
    rfl
  cases found

variable {scheme : SpecialScheme}

theorem splitScheme_append (web : WebScheme scheme) (authority : List Char) :
    Testing.splitScheme (scheme.name ++ "://".toList ++ authority) =
      some (schemeName scheme, authority) := by
  obtain rfl | rfl := web
  · rfl
  rfl

theorem defaultPort_iff (web : WebScheme scheme) (number : Option ℕ) :
    ((number.map (Nat.toDigits 10)).any fun port =>
        (schemeName scheme = "http" && port = "80".toList) ||
          (schemeName scheme = "https" && port = "443".toList)) = true ↔
      number = some scheme.defaultPort := by
  have injective : ∀ {m n : ℕ}, Nat.toDigits 10 m = Nat.toDigits 10 n → m = n := by
    intro m n same
    have value := congrArg (fun digits => Nat.ofDigitChars 10 digits 0) same
    simpa only [Nat.ofDigitChars_ten_toDigits] using value
  have eighty : "80".toList = Nat.toDigits 10 80 := by decide
  have secure : "443".toList = Nat.toDigits 10 443 := by decide
  have names : schemeName .http = "http" ∧ schemeName .https = "https" := by decide
  cases number with
  | none => simp
  | some number =>
    obtain rfl | rfl := web
    · rw [names.1, eighty]
      simp only [Option.map_some, Option.any_some, decide_true, Bool.true_and, String.reduceEq,
        decide_false, Bool.false_and, Bool.or_false, decide_eq_true_eq, Option.some.injEq]
      exact ⟨injective, fun same => same ▸ rfl⟩
    rw [names.2, secure]
    simp only [Option.map_some, Option.any_some, decide_true, Bool.true_and, String.reduceEq,
      decide_false, Bool.false_and, Bool.false_or, decide_eq_true_eq, Option.some.injEq]
    exact ⟨injective, fun same => same ▸ rfl⟩

variable {value baseUrl : String}

theorem acceptedUrl_of_validate (accepted : validateLoopbackOrigin value = .ok ()) :
    ∃ scheme host port, AcceptedUrl value.toList scheme host port ∧
      (NamedHost host ∨ host = "::1".toList) := by
  unfold validateLoopbackOrigin at accepted
  split at accepted
  · cases accepted
  cases found : Testing.splitScheme value.toList with
  | none =>
    rw [found] at accepted
    cases accepted
  | some pair =>
    obtain ⟨name, authority⟩ := pair
    rw [found] at accepted
    simp only at accepted
    split at accepted
    · cases accepted
    obtain ⟨⟨host, port⟩, split, accepted⟩ := bind_eq_ok.1 accepted
    obtain ⟨scheme, web, rfl, same⟩ := splitScheme_eq_some found
    obtain ⟨number, valid, rfl, form⟩ := authority_of_hostAndPort split
    split at accepted
    · cases accepted
    rename_i loopback
    split at accepted
    · cases accepted
    rename_i plain
    rw [defaultPort_iff web] at plain
    refine ⟨scheme, host, number, ⟨web, valid, plain, authority, same, form⟩, ?_⟩
    rw [Bool.not_eq_true', Bool.not_eq_false] at loopback
    exact isLoopbackHost_iff.1 loopback

theorem accepted_of_contains (inside : authorityChars.contains c = true) :
    c ≠ '/' ∧ c ≠ '?' ∧ c ≠ '#' ∧ c ≠ '@' ∧ isWhitespace c = false ∧ isControl c = false := by
  have all : authorityChars.all (fun c => c ≠ '/' && (c ≠ '?' && (c ≠ '#' && (c ≠ '@' &&
      (!isWhitespace c && !isControl c))))) = true := by decide
  have plain := all_eq_true.1 all c (contains_iff_mem.1 inside)
  simpa only [Bool.and_eq_true, Bool.not_eq_true', decide_eq_true_eq] using plain

theorem validate_of_parts
    {port : Option ℕ} (web : WebScheme scheme) (other : port ≠ some scheme.defaultPort)
    (same : value.toList = scheme.name ++ "://".toList ++ authority)
    (split : hostAndPort authority = .ok (host, port.map (Nat.toDigits 10)))
    (loopback : isLoopbackHost host = true) (nonempty : authority ≠ [])
    (short : authority.length ≤ 23) (plain : ∀ c ∈ authority, authorityChars.contains c = true) :
    validateLoopbackOrigin value = .ok () := by
  have names : scheme.name.all (fun c => !isControl c) = true ∧ scheme.name.length ≤ 5 := by
    obtain rfl | rfl := web <;> decide
  have text : validText value maxOriginBytes false = true := by
    have separator : "://".toList.length = 3 := by decide
    have length := congrArg List.length same
    rw [length_append, length_append, separator] at length
    have bytes : value.utf8ByteSize ≤ maxOriginBytes := by
      have bound := utf8ByteSize_ofList_le value.toList
      rw [String.ofList_toList, length] at bound
      have five := names.2
      rw [maxOriginBytes]
      omega
    have nonempty : value ≠ "" := by
      rintro rfl
      have empty : "".toList.length = 0 := rfl
      omega
    rw [validText, Bool.false_or, Bool.and_eq_true, Bool.and_eq_true, decide_eq_true_eq,
      decide_eq_true_eq, all_eq_true]
    refine ⟨⟨nonempty, bytes⟩, fun c inside => ?_⟩
    rw [same, mem_append, mem_append] at inside
    have fine : isControl c = false := by
      obtain (name | separator) | after := inside
      · simpa using all_eq_true.1 names.1 c name
      · have all : "://".toList.all (fun c => !isControl c) = true := by decide
        simpa using all_eq_true.1 all c separator
      exact (accepted_of_contains (plain c after)).2.2.2.2.2
    rw [fine]
    rfl
  have accepted : ¬(authority = [] ∨ '/' ∈ authority ∨ '?' ∈ authority ∨ '#' ∈ authority ∨
      '@' ∈ authority ∨ authority.any isWhitespace = true) := by
    simp only [not_or, any_eq_true, not_exists, not_and]
    refine ⟨nonempty, ?_, ?_, ?_, ?_, ?_⟩
    · exact fun inside => (accepted_of_contains (plain _ inside)).1 rfl
    · exact fun inside => (accepted_of_contains (plain _ inside)).2.1 rfl
    · exact fun inside => (accepted_of_contains (plain _ inside)).2.2.1 rfl
    · exact fun inside => (accepted_of_contains (plain _ inside)).2.2.2.1 rfl
    intro c inside white
    rw [(accepted_of_contains (plain c inside)).2.2.2.2.1] at white
    cases white
  have port := mt (defaultPort_iff web port).1 other
  simp only [validateLoopbackOrigin, text, Bool.not_true, Bool.false_eq_true, if_false, same,
    splitScheme_append web, if_neg accepted, split]
  change (if (!isLoopbackHost host) = true then _ else _ : Except JourneyPlanError Unit) = _
  rw [if_neg (by simp [loopback]), if_neg port]
  rfl

/-- The hosts that the plan may open. -/
def LoopbackHost : Host → Prop
  | .domain name => name = "localhost".toList
  | .ipv4 address => address / 256 ^ 3 = 127
  | .ipv6 pieces => pieces = [0, 0, 0, 0, 0, 0, 0, 1]

/-- An http or https origin on a loopback host. -/
structure LoopbackOrigin (origin : SpecialUrl) : Prop where
  scheme : WebScheme origin.scheme
  host : LoopbackHost origin.host
  port : ValidPort origin.scheme origin.port

theorem readsBack_of_loopback (idna : List Char → Option (List Char)) {host : Host}
    (loopback : LoopbackHost host) : ReadsBack idna host := by
  cases host with
  | domain name =>
    obtain rfl := loopback
    exact readsBack_localhost idna
  | ipv4 address =>
    have range : address / 256 ^ 3 = 127 := loopback
    exact readsBack_ipv4 idna (by omega)
  | ipv6 pieces =>
    obtain rfl := loopback
    exact readsBack_ipv6Loopback idna

def addressNumber (address : Ipv4Addr) : ℕ :=
  address.first.toNat * 256 ^ 3 + address.second.toNat * 256 ^ 2 + address.third.toNat * 256 +
    address.fourth.toNat

theorem serializeIpv4_addressNumber (address : Ipv4Addr) :
    serializeIpv4 (addressNumber address) = address.display := by
  have first := address.first.toNat_lt
  have second := address.second.toNat_lt
  have third := address.third.toNat_lt
  have fourth := address.fourth.toNat_lt
  have parts : addressNumber address / 256 ^ 3 = address.first.toNat ∧
      addressNumber address / 256 ^ 2 % 256 = address.second.toNat ∧
      addressNumber address / 256 % 256 = address.third.toNat ∧
      addressNumber address % 256 = address.fourth.toNat := by
    simp only [addressNumber]
    omega
  rw [serializeIpv4, parts.1, parts.2.1, parts.2.2.1, parts.2.2.2]
  rfl

theorem named_iff : NamedHost text ↔ ∃ host, LoopbackHost host ∧ (∀ pieces, host ≠ .ipv6 pieces) ∧
      text = serializeHost host := by
  constructor
  · rintro (rfl | ⟨address, first, rfl⟩)
    · exact ⟨.domain "localhost".toList, rfl, by simp, rfl⟩
    · refine ⟨.ipv4 (addressNumber address), ?_, by simp, (serializeIpv4_addressNumber address).symm⟩
      have second := address.second.toNat_lt
      have third := address.third.toNat_lt
      have fourth := address.fourth.toNat_lt
      have start : address.first.toNat = 127 := by rw [first]; rfl
      simp only [LoopbackHost, addressNumber]
      omega
  rintro ⟨host, loopback, other, rfl⟩
  cases host with
  | domain name => exact .inl loopback
  | ipv4 number =>
    have range : number / 256 ^ 3 = 127 := loopback
    have small : ∀ n < 256, (UInt8.ofNat n).toNat = n := fun n small =>
      UInt8.toNat_ofNat_of_lt' small
    refine .inr ⟨⟨127, .ofNat (number / 256 ^ 2 % 256), .ofNat (number / 256 % 256),
      .ofNat (number % 256)⟩, rfl, ?_⟩
    rw [serializeHost, ← serializeIpv4_addressNumber]
    congr 1
    have second := small (number / 256 ^ 2 % 256) (Nat.mod_lt _ (by decide))
    have third := small (number / 256 % 256) (Nat.mod_lt _ (by decide))
    have fourth := small (number % 256) (Nat.mod_lt _ (by decide))
    have start : (127 : UInt8).toNat = 127 := rfl
    rw [addressNumber, second, third, fourth, start]
    omega
  | ipv6 pieces => exact absurd rfl (other pieces)

/-- An origin with a host name in brackets, which is not an address. -/
def NamesBracketed (value : List Char) : Prop :=
  ∃ scheme host rest, WebScheme scheme ∧ NamedHost host ∧
    value = scheme.name ++ "://".toList ++ '[' :: (host ++ ']' :: rest)

theorem validateLoopbackOrigin_eq_ok_iff (clean : ¬NamesBracketed value.toList) :
    validateLoopbackOrigin value = .ok () ↔ ∃ origin, LoopbackOrigin origin ∧ origin.port ≠ some 0 ∧
        value.toList = serializeOrigin origin := by
  constructor
  · intro accepted
    obtain ⟨scheme, host, port, parts, loopback⟩ := acceptedUrl_of_validate accepted
    obtain ⟨authority, same, form⟩ := parts.text
    have valid : ValidPort scheme port := fun number written =>
      ⟨(parts.valid number written).2, fun default => parts.other (default ▸ written)⟩
    have positive : port ≠ some 0 := fun zero => absurd (parts.valid 0 zero).1 (lt_irrefl 0)
    cases form with
    | plain colons =>
      have named : NamedHost host := by
        obtain named | rfl := loopback
        · exact named
        exact absurd (by decide) colons
      obtain ⟨own, loops, _, rfl⟩ := named_iff.1 named
      refine ⟨⟨scheme, own, port⟩, ⟨parts.web, loops, valid⟩, positive, ?_⟩
      rw [same, serializeOrigin_eq, append_assoc]
      rfl
    | bracketed =>
      obtain named | rfl := loopback
      · exact absurd ⟨scheme, host, _, parts.web, named, same⟩ clean
      refine ⟨⟨scheme, .ipv6 [0, 0, 0, 0, 0, 0, 0, 1], port⟩, ⟨parts.web, rfl, valid⟩, positive, ?_⟩
      have text : serializeHost (.ipv6 [0, 0, 0, 0, 0, 0, 0, 1]) = "[::1]".toList := by
        decide
      rw [same, serializeOrigin_eq, text, append_assoc]
      rfl
  rintro ⟨⟨scheme, host, port⟩, loopback, positive, same⟩
  have valid : PortNumber port := by
    intro number written
    refine ⟨Nat.pos_of_ne_zero fun zero => positive (zero ▸ written), (loopback.port number written).1⟩
  have other : port ≠ some scheme.defaultPort := fun default =>
    (loopback.port _ default).2 rfl
  have reads := readsBack_of_loopback (fun _ => none) loopback.host
  have plain := all_serializeAuthority _ reads port
  have separated : value.toList = scheme.name ++ "://".toList ++
      (serializeHost host ++ serializePort port) := by
    rw [same, serializeOrigin_eq, append_assoc]
    rfl
  have nonempty : serializeHost host ++ serializePort port ≠ [] := by
    simp [reads.nonempty]
  have shortPort : (serializePort port).length ≤ 6 := by
    cases port with
    | none => simp [serializePort]
    | some number =>
      have digits : (Nat.toDigits 10 number).length ≤ 5 :=
        (Nat.length_toDigits_le_iff (by decide) (by decide)).2
          (lt_of_le_of_lt (valid number rfl).2 (by decide))
      rw [serializePort, length_cons]
      omega
  by_cases six : ∃ pieces, host = .ipv6 pieces
  · obtain ⟨pieces, rfl⟩ := six
    obtain rfl : pieces = [0, 0, 0, 0, 0, 0, 0, 1] := loopback.host
    have text : serializeHost (.ipv6 [0, 0, 0, 0, 0, 0, 0, 1]) = "[::1]".toList := by
      decide
    have inside : ']' ∉ "::1".toList := by decide
    have split := hostAndPort_bracketed valid inside
    rw [text] at separated nonempty plain
    refine validate_of_parts loopback.scheme other separated split
      (isLoopbackHost_iff.2 (.inr rfl)) nonempty ?_ plain
    rw [length_append]
    have five : "[::1]".toList.length = 5 := by decide
    omega
  have named : NamedHost (serializeHost host) :=
    named_iff.2 ⟨host, loopback.host, fun pieces same => six ⟨pieces, same⟩, rfl⟩
  obtain ⟨present, short, chars⟩ := chars_of_named named
  have split := hostAndPort_plain valid present fun c inside =>
    ⟨(chars c inside).2.1, (chars c inside).2.2.1⟩
  refine validate_of_parts loopback.scheme other separated split
    (isLoopbackHost_iff.2 (.inl named)) nonempty ?_ plain
  rw [length_append]
  omega

theorem validate_of_mem_validateSteps {steps : List JourneyStep}
    {identifiers : List String} {screenshots total : ℕ}
    (accepted : validateSteps baseUrl steps identifiers screenshots = .ok total) :
    ∀ step ∈ steps, step.validate baseUrl = .ok () := by
  induction steps generalizing identifiers screenshots with
  | nil => exact fun _ inside => nomatch inside
  | cons step rest ih =>
    rw [validateSteps] at accepted
    obtain ⟨_, valid, accepted⟩ := bind_eq_ok.1 accepted
    split at accepted
    · cases accepted
    exact forall_mem_cons.2 ⟨valid, ih accepted⟩

variable {path : String}

theorem validRelativePath_of_step {step : JourneyStep}
    (valid : step.validate baseUrl = .ok ()) (named : step.action.path = some path) :
    validRelativePath path baseUrl = true := by
  rw [JourneyStep.validate] at valid
  obtain ⟨_, _, valid⟩ := bind_eq_ok.1 valid
  obtain ⟨_, _, valid⟩ := bind_eq_ok.1 valid
  split at valid
  · cases valid
  have checked : validateRelativePath path baseUrl = .ok () := by
    cases action : step.action with
    | navigate own =>
      rw [action] at valid named
      cases named
      exact valid
    | assertUrl own =>
      rw [action] at valid named
      cases named
      exact valid
    | _ =>
      rw [action] at named
      cases named
  rw [validateRelativePath] at checked
  split at checked
  · rename_i fine
    exact fine
  cases checked

theorem plan_facts {plan : JourneyPlan} (accepted : plan.validate = .ok ()) :
    validateLoopbackOrigin plan.baseUrl = .ok () ∧ plan.allowedOrigins = [plan.baseUrl] ∧
      ∀ step ∈ plan.steps, step.validate plan.baseUrl = .ok () := by
  rw [JourneyPlan.validate] at accepted
  split at accepted
  · cases accepted
  obtain ⟨_, _, accepted⟩ := bind_eq_ok.1 accepted
  obtain ⟨_, _, accepted⟩ := bind_eq_ok.1 accepted
  obtain ⟨_, origin, accepted⟩ := bind_eq_ok.1 accepted
  split at accepted
  · cases accepted
  rename_i allowed
  split at accepted
  · cases accepted
  split at accepted
  · cases accepted
  split at accepted
  · cases accepted
  obtain ⟨total, steps, _⟩ := bind_eq_ok.1 accepted
  exact ⟨origin, not_not.1 allowed, validate_of_mem_validateSteps steps⟩

/-- A path whose second slash does not follow the first one, tabs and newlines apart. -/
def SingleSlash (path : List Char) : Prop :=
  ¬['/', '/'] <+: path.filter fun c => !isTabOrNewline c

theorem path_stays {idna : List Char → Option (List Char)}
    {origin : SpecialUrl} (valid : validRelativePath path baseUrl = true)
    (single : SingleSlash path.toList) :
    parseUrl idna path.toList (some origin) = some (.special origin) := by
  simp only [validRelativePath, Bool.and_eq_true] at valid
  obtain ⟨⟨⟨⟨⟨_, slash⟩, _⟩, plain⟩, _⟩, _⟩ := valid
  obtain ⟨rest, start⟩ := isPrefixOf_iff_prefix.1 slash
  have written : path.toList = '/' :: rest := start.symm
  rw [written] at plain single ⊢
  apply parseUrl_path idna _ single
  intro backslash
  rw [Bool.not_eq_true', any_eq_false] at plain
  exact absurd (plain '\\' backslash) (by simp)

/-- Apart from names in brackets, the base URLs that are accepted are the loopback origins with a port
that is not zero; and the paths of an accepted plan, those apart that have a second slash right after
the first one, are resolved against its base URL to URLs with exactly this origin. -/
theorem journey_stays_on_origin (idna : List Char → Option (List Char)) :
    (∀ value : String, ¬NamesBracketed value.toList → (validateLoopbackOrigin value = .ok () ↔
        ∃ origin, LoopbackOrigin origin ∧ origin.port ≠ some 0 ∧
          value.toList = serializeOrigin origin)) ∧
    ∀ plan : JourneyPlan, plan.validate = .ok () → ¬NamesBracketed plan.baseUrl.toList →
      ∃ origin, plan.baseUrl.toList = serializeOrigin origin ∧
        parseUrl idna plan.baseUrl.toList none = some (.special origin) ∧
        ∀ step ∈ plan.steps, ∀ path, step.action.path = some path → SingleSlash path.toList →
          parseUrl idna path.toList (some origin) = some (.special origin) := by
  refine ⟨fun value clean => validateLoopbackOrigin_eq_ok_iff clean, fun plan accepted clean => ?_⟩
  obtain ⟨base, _, steps⟩ := plan_facts accepted
  obtain ⟨origin, loopback, _, same⟩ := (validateLoopbackOrigin_eq_ok_iff clean).1 base
  refine ⟨origin, same, ?_, fun step inside path named single => ?_⟩
  · rw [same]
    exact parseUrl_serializeOrigin idna (readsBack_of_loopback idna loopback.host) loopback.port
  · exact path_stays (validRelativePath_of_step (steps step inside) named) single

/-- Port zero is refused, although an origin may have it. -/
theorem port_zero_refused : ¬∀ value : String, validateLoopbackOrigin value = .ok () ↔
      ∃ origin, LoopbackOrigin origin ∧ value.toList = serializeOrigin origin := by
  intro always
  have refused : validateLoopbackOrigin "http://localhost:0" = .error .baseUrl := by decide
  let origin : SpecialUrl := { scheme := .http, host := .domain "localhost".toList, port := some 0 }
  have port : ValidPort .http (some 0) := by
    intro number same
    cases same
    decide
  have text : "http://localhost:0".toList = serializeOrigin origin := by decide
  have accepted := (always "http://localhost:0").2 ⟨origin, ⟨.inl rfl, rfl, port⟩, text⟩
  rw [refused] at accepted
  cases accepted

/-- An address in brackets is accepted, although it is no URL. -/
example : validateLoopbackOrigin "http://[127.0.0.1]:41000" = .ok () ∧
    parseUrl (fun _ => none) "http://[127.0.0.1]:41000".toList none = none := by
  decide

/-- A tab between two slashes leads to another host. -/
example : validRelativePath "/\t/example.com" "http://localhost:41000" = true ∧
    parseUrl (fun _ => none) "/\t/example.com".toList
        (some { scheme := .http, host := .domain "localhost".toList, port := some 41000 }) =
      some (.special { scheme := .http, host := .domain "example.com".toList, port := none }) := by
  decide

end Wts.Testing
