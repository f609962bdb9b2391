/-
Module: Wts.Proofs.RuntimeAnalysis
Purpose: What the runtime analysis proposes can be selected.
Trusted boundary: none
Main exports: analysis_selectable
-/
import Wts.App.RuntimeAnalysis
import Wts.Library.Interrupt

namespace Wts.RuntimeAnalysis

open List Text Workspace Interrupt Sha256
open CodeWorkspace (Value truncateChars)

variable {α : Type}

theorem mem_of_sortedBy {κ : Type} [LinearOrder κ] {key : α → κ} {items : List α} {item : α}
    (member : item ∈ sortedBy key items) : item ∈ items := by
  have inSorted := (destutter_sublist _ _).subset member
  rwa [mem_insertionSort] at inSorted

variable {port : UInt16} {value text : String}

theorem parsePortLiteral_range
    (parsed : parsePortLiteral value = some port) : 1024 ≤ port.toNat := by
  rw [parsePortLiteral] at parsed
  simp only at parsed
  split at parsed
  · cases parsed
  split at parsed
  · rename_i inRange
    cases parsed
    rw [UInt16.toNat_ofNat', Nat.mod_eq_of_lt inRange.1]
    exact inRange.2
  cases parsed

theorem dockerfilePorts_range (member : port ∈ dockerfilePorts text) : 1024 ≤ port.toNat := by
  obtain ⟨line, _, inLine⟩ := mem_flatMap.1 (mem_of_sortedBy member)
  rw [dockerfileLinePorts] at inLine
  split at inLine
  · cases inLine
  split at inLine
  · obtain ⟨token, _, parsed⟩ := mem_filterMap.1 inLine
    exact parsePortLiteral_range parsed
  cases inLine

/-- A port with the variable that names it, as the detectors find them. -/
structure FoundPort (port : UInt16) (environment : Option String) : Prop where
  range : 1024 ≤ port.toNat
  environment : ∀ name, environment = some name → validEnvironmentName name = true

variable {entry : String × UInt16}

theorem environmentLinePort_found {line : String}
    (found : environmentLinePort line = some entry) : FoundPort entry.2 (some entry.1) := by
  rw [environmentLinePort] at found
  simp only at found
  split at found
  · cases found
  obtain ⟨⟨name, value⟩, _, found⟩ := Option.bind_eq_some_iff.1 found
  simp only at found
  split at found
  · cases found
  rename_i accepted
  obtain ⟨number, isPort, found⟩ := Option.bind_eq_some_iff.1 found
  cases found
  rw [not_or, Bool.not_eq_true', Bool.not_eq_false] at accepted
  refine ⟨parsePortLiteral_range isPort, fun name same => ?_⟩
  cases same
  exact accepted.1

theorem environmentExamplePorts_found
    (member : entry ∈ environmentExamplePorts text) : FoundPort entry.2 (some entry.1) := by
  obtain ⟨line, _, found⟩ := mem_filterMap.1 (mem_of_sortedBy member)
  exact environmentLinePort_found found

theorem tokenPort_found {token : String} {port : ScriptPort} (found : tokenPort token = some port) :
    FoundPort port.port port.environment := by
  rw [tokenPort] at found
  split at found
  · rename_i parsed
    cases found
    obtain ⟨value, _, isPort⟩ := Option.bind_eq_some_iff.1 parsed
    exact ⟨parsePortLiteral_range isPort, nofun⟩
  obtain ⟨⟨environment, value⟩, _, found⟩ := Option.bind_eq_some_iff.1 found
  simp only at found
  split at found
  · rename_i valid
    obtain ⟨number, isPort, found⟩ := Option.bind_eq_some_iff.1 found
    cases found
    refine ⟨parsePortLiteral_range isPort, fun name same => ?_⟩
    cases same
    exact valid.1
  cases found

theorem pairedPort_range {token next : String}
    (found : pairedPort token next = some port) : 1024 ≤ port.toNat := by
  rw [pairedPort] at found
  split at found
  · exact parsePortLiteral_range found
  cases found

theorem tokenPorts_found {tokens : List String} {port : ScriptPort} (member : port ∈ tokenPorts tokens) :
    FoundPort port.port port.environment := by
  have single : ∀ token : String, port ∈ (tokenPort token).toList →
      FoundPort port.port port.environment :=
    fun token inToken => tokenPort_found (Option.mem_toList.1 inToken)
  induction tokens using tokenPorts.induct with
  | case1 => cases member
  | case2 token =>
    rw [tokenPorts] at member
    exact single _ member
  | case3 token next rest number isPaired ih =>
    rw [tokenPorts, isPaired] at member
    rcases mem_cons.1 member with rfl | later
    · exact ⟨pairedPort_range isPaired, nofun⟩
    exact ih later
  | case4 token next rest unpaired ih =>
    rw [tokenPorts, unpaired] at member
    exact (mem_append.1 member).elim (single _) ih

/-- The ports that Dockerfiles and example environments name. -/
def FoundSupplements (supplements : List SupplementalPort) : Prop :=
  ∀ supplement ∈ supplements, FoundPort supplement.port supplement.environment

variable {blob : CommitCandidateBlob}

theorem blobSupplements_found {found : List SupplementalPort}
    (isFound : blobSupplements blob = some found) : FoundSupplements found := by
  intro supplement member
  rw [blobSupplements] at isFound
  split at isFound
  · obtain ⟨text, _, rfl⟩ := Option.map_eq_some_iff.1 isFound
    obtain ⟨port, inFile, rfl⟩ := mem_map.1 member
    exact ⟨dockerfilePorts_range (mem_of_mem_take inFile), nofun⟩
  · obtain ⟨text, _, rfl⟩ := Option.map_eq_some_iff.1 isFound
    obtain ⟨entry, inFile, rfl⟩ := mem_map.1 member
    exact environmentExamplePorts_found (mem_of_mem_take inFile)
  cases isFound
  cases member

theorem collectSupplementalPorts_found (source : RuntimeRepositorySource)
    (blobs : List CommitCandidateBlob) (warnings : List String) :
    FoundSupplements (collectSupplementalPorts source blobs warnings).1 := by
  intro supplement member
  obtain ⟨blob, _, inBlob⟩ := mem_flatMap.1 (mem_of_sortedBy member)
  cases found : blobSupplements blob with
  | none =>
    rw [found] at inBlob
    cases inBlob
  | some ports =>
    rw [found] at inBlob
    exact blobSupplements_found found supplement inBlob

theorem detectedPorts_found {scriptName script : String} {nearby : List SupplementalPort}
    (found : FoundSupplements nearby) :
    (detectedPorts scriptName script nearby).length ≤ maxRuntimePortsPerService ∧
      ∀ port ∈ detectedPorts scriptName script nearby, FoundPort port.port port.environment := by
  refine ⟨length_take_le _ _, fun port member => ?_⟩
  have inPorts := mem_of_sortedBy (mem_of_mem_take member)
  split at inPorts
  · exact tokenPorts_found (mem_of_sortedBy inPorts)
  split at inPorts
  · obtain ⟨supplement, isNearby, rfl⟩ := mem_map.1 inPorts
    exact found supplement isNearby
  cases inPorts

theorem uwsgiLine_range {state : Bool × Option UInt16} (line : String)
    (inRange : ∀ port, state.2 = some port → 1024 ≤ port.toNat) :
    ∀ port, (uwsgiLine state line).2 = some port → 1024 ≤ port.toNat := by
  intro port found
  rw [uwsgiLine] at found
  split at found
  · exact inRange port found
  split at found
  · exact inRange port found
  split at found
  · exact inRange port found
  simp only at found
  split at found
  · simp only at found
    exact parsePortLiteral_range found
  exact inRange port found

theorem uwsgiPort_range (found : uwsgiPort text = some port) : 1024 ≤ port.toNat := by
  have fromLines : ∀ (lines : List String) (state : Bool × Option UInt16),
      (∀ number, state.2 = some number → 1024 ≤ number.toNat) →
      ∀ number, (lines.foldl uwsgiLine state).2 = some number → 1024 ≤ number.toNat := by
    intro lines
    induction lines with
    | nil =>
      intro state inRange
      rw [foldl_nil]
      exact inRange
    | cons line rest ih =>
      intro state inRange
      rw [foldl_cons]
      exact ih _ (uwsgiLine_range line inRange)
  refine fromLines _ (false, none) ?_ port found
  intro number none
  cases none

/-! ### Identifiers -/

/-- An identifier of a number of characters at most. -/
def IsIdentifier (maximum : ℕ) (value : String) : Prop :=
  value.toList ≠ [] ∧ value.toList.length ≤ maximum ∧
    ∀ c ∈ value.toList, isIdentifierCharacter c = true

variable {maximum : ℕ}

theorem IsIdentifier.valid (identifier : IsIdentifier maximum value)
    (short : maximum ≤ maxRuntimeIdentifierChars) : validRuntimeIdentifier value = true := by
  obtain ⟨nonempty, length, valid⟩ := identifier
  rw [validRuntimeIdentifier, Bool.and_eq_true, Bool.and_eq_true, decide_eq_true_eq,
    decide_eq_true_eq, all_eq_true]
  refine ⟨⟨?_, length.trans short⟩, valid⟩
  rintro rfl
  exact nonempty rfl

theorem isIdentifier_of_valid (valid : validIdentifier value = true) :
    IsIdentifier maxIdentifierBytes value := by
  rw [validIdentifier, Bool.and_eq_true, Bool.and_eq_true, decide_eq_true_eq, decide_eq_true_eq,
    all_eq_true] at valid
  obtain ⟨⟨nonempty, short⟩, valid⟩ := valid
  refine ⟨?_, (Utf8.length_le_utf8ByteSize value).trans short, valid⟩
  rw [Ne, ← String.toList_inj] at nonempty
  exact nonempty

theorem isIdentifierCharacter_toLower {byte : UInt8} (ascii : byte < 0x80)
    (kept : isAsciiAlphanumeric (Char.ofNat byte.toNat) ∨ Char.ofNat byte.toNat = '.' ∨
      Char.ofNat byte.toNat = '_') :
    isIdentifierCharacter (Char.ofNat byte.toNat).toLower = true := by
  have all : ∀ n : Fin 128, (isAsciiAlphanumeric (Char.ofNat n) ∨ Char.ofNat n = '.' ∨
      Char.ofNat n = '_') → isIdentifierCharacter (Char.ofNat n).toLower = true := by
    decide
  exact all ⟨byte.toNat, UInt8.lt_iff_toNat_lt.1 ascii⟩ kept

theorem sanitizeBytes_spec (bytes : List UInt8) (sanitized : List Char) (separator : Bool)
    (valid : ∀ c ∈ sanitized, isIdentifierCharacter c = true) :
    (sanitizeBytes sanitized separator bytes).length ≤ sanitized.length + bytes.length ∧
      ∀ c ∈ sanitizeBytes sanitized separator bytes, isIdentifierCharacter c = true := by
  induction bytes generalizing sanitized separator with
  | nil => exact ⟨le_rfl, valid⟩
  | cons byte rest ih =>
    -- each byte adds one character or none
    have step : ∀ (next : List Char) (mark : Bool), next.length ≤ sanitized.length + 1 →
        (∀ c ∈ next, isIdentifierCharacter c = true) →
        (if maxIdentifierBytes ≤ next.length then next else sanitizeBytes next mark rest).length ≤
            sanitized.length + (byte :: rest).length ∧
          ∀ c ∈ if maxIdentifierBytes ≤ next.length then next else sanitizeBytes next mark rest,
            isIdentifierCharacter c = true := by
      intro next mark longer nextValid
      rw [length_cons]
      split
      · exact ⟨by omega, nextValid⟩
      obtain ⟨length, restValid⟩ := ih next mark nextValid
      exact ⟨by omega, restValid⟩
    have added : ∀ c, isIdentifierCharacter c = true →
        (sanitized ++ [c]).length ≤ sanitized.length + 1 ∧
          ∀ other ∈ sanitized ++ [c], isIdentifierCharacter other = true := by
      intro c isValid
      refine ⟨by rw [length_append, length_singleton], fun other member => ?_⟩
      rcases mem_append.1 member with before | new
      · exact valid other before
      rw [mem_singleton.1 new]
      exact isValid
    rw [sanitizeBytes]
    by_cases kept : byte < 0x80 ∧ (isAsciiAlphanumeric (Char.ofNat byte.toNat) = true ∨
        Char.ofNat byte.toNat = '.' ∨ Char.ofNat byte.toNat = '_')
    · simp only [if_pos kept]
      obtain ⟨longer, nextValid⟩ := added _ (isIdentifierCharacter_toLower kept.1 kept.2)
      exact step _ _ longer nextValid
    simp only [if_neg kept]
    by_cases separates : !separator ∧ sanitized ≠ []
    · simp only [if_pos separates]
      obtain ⟨longer, nextValid⟩ := added '-' rfl
      exact step _ _ longer nextValid
    simp only [if_neg separates]
    exact step _ _ (Nat.le_succ _) valid

theorem mem_of_trimMatches {strip : α → Bool} {items : List α} {item : α}
    (member : item ∈ Words.trimMatches strip items) : item ∈ items := by
  rw [Words.trimMatches] at member
  exact (dropWhile_sublist _).subset ((List.rdropWhile_prefix _ _).subset member)

theorem length_trimMatches_le (strip : α → Bool) (items : List α) :
    (Words.trimMatches strip items).length ≤ items.length := by
  rw [Words.trimMatches]
  exact (List.rdropWhile_prefix _ _).length_le.trans (dropWhile_sublist _).length_le

theorem sanitizeIdentifier_isIdentifier
    (short : value.utf8ByteSize ≤ maximum) (roomy : 7 ≤ maximum) :
    IsIdentifier maximum (sanitizeIdentifier value) := by
  obtain ⟨length, valid⟩ := sanitizeBytes_spec (utf8Bytes value) [] false fun _ none => by cases none
  rw [length_utf8Bytes, length_nil, Nat.zero_add] at length
  rw [sanitizeIdentifier]
  split
  · have letters : "service".toList = ['s', 'e', 'r', 'v', 'i', 'c', 'e'] := rfl
    rw [IsIdentifier, letters]
    exact ⟨cons_ne_nil _ _, roomy, all_eq_true.1 rfl⟩
  rename_i nonempty
  rw [IsIdentifier, String.toList_ofList]
  exact ⟨nonempty, ((length_trimMatches_le _ _).trans length).trans short,
    fun c member => valid c (mem_of_trimMatches member)⟩

theorem trimEndText_sublist (ending : List Char) (rounds : ℕ) (value : List Char) :
    (trimEndText ending rounds value).Sublist value := by
  induction rounds generalizing value with
  | zero => exact List.Sublist.refl _
  | succ rounds ih =>
    rw [trimEndText]
    split
    · exact (ih _).trans (take_sublist _ _)
    exact List.Sublist.refl _

theorem digits_identifier (n : ℕ) : ∀ c ∈ (decimal n).toList, isIdentifierCharacter c = true := by
  intro c member
  have digit := isDigit_of_mem_decimal member
  rw [isIdentifierCharacter, isAsciiAlphanumeric, Char.isAlphanum, digit, Bool.or_true]
  rfl

theorem IsIdentifier.numbered {base : String} {n : ℕ} (identifier : IsIdentifier maximum base)
    (small : n < 10) : IsIdentifier (maximum + 2) (base ++ "-" ++ decimal n) := by
  obtain ⟨nonempty, length, valid⟩ := identifier
  have oneDigit : (decimal n).toList.length = 1 := by
    have all : ∀ n : Fin 10, (decimal n).toList.length = 1 := by decide
    exact all ⟨n, small⟩
  rw [IsIdentifier, String.toList_append, String.toList_append]
  refine ⟨?_, ?_, ?_⟩
  · exact fun none => nonempty (append_eq_nil_iff.1 (append_eq_nil_iff.1 none).1).1
  · rw [length_append, length_append, oneDigit]
    exact Nat.add_le_add_right (Nat.add_le_add_right length 1) 1
  intro c member
  rcases mem_append.1 member with member | digit
  · rcases mem_append.1 member with inBase | dash
    · exact valid c inBase
    · rw [mem_singleton.1 dash]
      rfl
  exact digits_identifier n c digit

def suffixed (base : String) : ℕ → String
  | 0 => base
  | k + 1 => base ++ "-" ++ decimal (k + 2)

theorem suffixed_injective (base : String) : Function.Injective (suffixed base) := by
  have longer : ∀ k, base ≠ base ++ "-" ++ decimal (k + 2) := by
    intro k same
    have lengths := congrArg (fun text => text.toList.length) same
    simp only [String.toList_append, length_append] at lengths
    have dash : "-".toList.length = 1 := rfl
    omega
  intro first second same
  cases first with
  | zero =>
    cases second with
    | zero => rfl
    | succ k => exact absurd same (longer k)
  | succ j =>
    cases second with
    | zero => exact absurd same.symm (longer j)
    | succ k =>
      rw [suffixed, suffixed, ← String.toList_inj, String.toList_append, String.toList_append,
        String.toList_append, String.toList_append, append_cancel_left_eq,
        String.toList_inj] at same
      have number := decimal_injective same
      omega

theorem uniqueSuffix_spec (base : String) (used : Finset String) (rounds k : ℕ) :
    ∃ j, k ≤ j ∧ j ≤ k + rounds ∧
      uniqueSuffix base used rounds (k + 2) (suffixed base k) = suffixed base j ∧
      (∀ i, k ≤ i → i < j → suffixed base i ∈ used) ∧
      (j < k + rounds → suffixed base j ∉ used) := by
  induction rounds generalizing k with
  | zero =>
    exact ⟨k, le_rfl, le_rfl, rfl, fun i lower upper => by omega, fun less => by omega⟩
  | succ rounds ih =>
    rw [uniqueSuffix]
    split
    · rename_i taken
      obtain ⟨j, lower, upper, isName, before, free⟩ := ih (k + 1)
      refine ⟨j, by omega, by omega, isName, fun i atLeast below => ?_, fun less => free (by omega)⟩
      rcases Nat.eq_or_lt_of_le atLeast with rfl | later
      · exact taken
      exact before i later below
    rename_i free
    exact ⟨k, le_rfl, by omega, rfl, fun i lower upper => by omega, fun _ => free⟩

theorem uniquePortId_spec (environment : Option String) (index : ℕ) (used : Finset String) :
    ∃ j ≤ used.card, uniquePortId environment index used =
        suffixed (portIdBase environment index) j ∧ uniquePortId environment index used ∉ used := by
  obtain ⟨j, _, upper, isName, before, free⟩ :=
    uniqueSuffix_spec (portIdBase environment index) used (used.card + 1) 0
  rw [Nat.zero_add] at upper free
  have few : j ≤ used.card := by
    have distinct := (Finset.range j).card_image_of_injective
      (suffixed_injective (portIdBase environment index))
    have inside : (Finset.range j).image (suffixed (portIdBase environment index)) ⊆ used := by
      intro name member
      obtain ⟨i, less, rfl⟩ := Finset.mem_image.1 member
      exact before i (Nat.zero_le i) (Finset.mem_range.1 less)
    have count := Finset.card_le_card inside
    rwa [distinct, Finset.card_range] at count
  refine ⟨j, few, isName, ?_⟩
  have isChosen : uniquePortId environment index used =
      suffixed (portIdBase environment index) j := isName
  rw [isChosen]
  exact free (Nat.lt_succ_of_le few)

variable {environment : Option String}

theorem portIdBase_isIdentifier {index : ℕ}
    (valid : ∀ name, environment = some name → validEnvironmentName name = true) (few : index < 9) :
    IsIdentifier 128 (portIdBase environment index) := by
  cases environment with
  | none =>
    rw [portIdBase]
    have http : IsIdentifier 4 "http" := by
      have letters : "http".toList = ['h', 't', 't', 'p'] := rfl
      rw [IsIdentifier, letters]
      exact ⟨cons_ne_nil _ _, le_rfl, all_eq_true.1 rfl⟩
    split
    · exact ⟨http.1, http.2.1.trans (by decide), http.2.2⟩
    obtain ⟨nonempty, length, chars⟩ := http.numbered (n := index + 1) (by omega)
    exact ⟨nonempty, length.trans (by decide), chars⟩
  | some name =>
    have short := valid name rfl
    rw [validEnvironmentName, Bool.and_eq_true, decide_eq_true_eq] at short
    refine sanitizeIdentifier_isIdentifier (le_trans ?_ short.1) (by decide)
    have part := Utf8.utf8ByteSize_sublist_le (trimEndText_sublist "_PORT".toList name.length name.toList)
    rwa [String.ofList_toList] at part

variable {used : Finset String}

theorem uniquePortId_valid {index : ℕ}
    (valid : ∀ name, environment = some name → validEnvironmentName name = true)
    (isIndex : used.card = index) (few : index < 8) :
    validRuntimeIdentifier (uniquePortId environment index used) = true := by
  obtain ⟨j, atMost, isName, _⟩ := uniquePortId_spec environment index used
  have base := portIdBase_isIdentifier valid (show index < 9 by omega)
  rw [isName]
  cases j with
  | zero => exact base.valid (by decide)
  | succ k => exact (base.numbered (n := k + 2) (by omega)).valid (by decide)

/-- The ports of a candidate pass the checks of a runtime plan. -/
structure AcceptablePorts (ports : List RuntimePortCandidate) : Prop where
  few : ports.length ≤ maxRuntimePortsPerService
  valid : ∀ port ∈ ports, validRuntimeIdentifier port.portId = true
  distinct : (ports.map RuntimePortCandidate.portId).Nodup
  range : ∀ port ∈ ports, ∀ number, port.preferredPort = some number → 1024 ≤ number.toNat

structure Acceptable (candidate : RuntimeServiceCandidate) : Prop where
  identity : validRuntimeIdentifier candidate.candidateId = true
  ports : AcceptablePorts candidate.ports

theorem hexDigit_isLowerHexDigit {n : ℕ} (small : n < 16) :
    isLowerHexDigit (hexDigit n) = true := by
  have all : ∀ n : Fin 16, isLowerHexDigit (hexDigit n) = true := by decide
  exact all ⟨n, small⟩

variable {c : Char}

theorem hexChars_isLowerHexDigit {bytes : List UInt8} (member : c ∈ hexChars bytes) :
    isLowerHexDigit c = true := by
  obtain ⟨byte, _, isDigit⟩ := mem_flatMap.1 member
  have bound := byte.toNat_lt
  rcases mem_pair.1 isDigit with rfl | rfl
  · exact hexDigit_isLowerHexDigit (by omega)
  exact hexDigit_isLowerHexDigit (Nat.mod_lt _ (by decide))

theorem isIdentifierCharacter_of_hex (hex : isLowerHexDigit c = true) :
    isIdentifierCharacter c = true := by
  have alphanumeric : isAsciiAlphanumeric c = true := by
    rw [isLowerHexDigit, Bool.or_eq_true, Bool.and_eq_true, decide_eq_true_eq, decide_eq_true_eq] at hex
    rw [isAsciiAlphanumeric, Char.isAlphanum, Char.isAlpha, Bool.or_eq_true, Bool.or_eq_true]
    rcases hex with digit | ⟨low, high⟩
    · exact Or.inr digit
    refine Or.inl (Or.inr ?_)
    rw [Char.isLower, Bool.and_eq_true, decide_eq_true_eq, decide_eq_true_eq]
    exact ⟨low, high.trans (by decide)⟩
  rw [isIdentifierCharacter, alphanumeric]
  rfl

theorem candidateId_valid (source : RuntimeRepositorySource)
    (detector path serviceId workingDirectory : String) :
    validRuntimeIdentifier (candidateId source detector path serviceId workingDirectory) = true := by
  suffices identifier : IsIdentifier 42
      (candidateId source detector path serviceId workingDirectory) from identifier.valid (by decide)
  have letters : "candidate:".toList = ['c', 'a', 'n', 'd', 'i', 'd', 'a', 't', 'e', ':'] := rfl
  rw [candidateId, IsIdentifier, String.toList_append, letters, truncateChars, String.toList_ofList,
    hexEncode, String.toList_ofList]
  refine ⟨cons_ne_nil _ _, ?_, fun c member => ?_⟩
  · rw [length_append]
    exact Nat.add_le_add_left (length_take_le _ _) 10
  rcases mem_append.1 member with inStart | inDigest
  · exact all_eq_true.1 (show List.all _ isIdentifierCharacter = true by rfl) c inStart
  exact isIdentifierCharacter_of_hex (hexChars_isLowerHexDigit (mem_of_mem_take inDigest))

theorem singlePort_acceptable {port : RuntimePortCandidate}
    (valid : validRuntimeIdentifier port.portId = true)
    (range : ∀ number, port.preferredPort = some number → 1024 ≤ number.toNat) :
    AcceptablePorts [port] where
  few := Nat.le_of_ble_eq_true rfl
  valid other member := by
    rw [mem_singleton.1 member]
    exact valid
  distinct := nodup_singleton _
  range other member := by
    rw [mem_singleton.1 member]
    exact range

variable {detected : List ScriptPort}

theorem scriptPortCandidates_acceptable (source : RuntimeRepositorySource) (blob : CommitCandidateBlob)
    (scriptName : String) (nearby : List SupplementalPort) {index : ℕ} (isIndex : used.card = index)
    (few : index + detected.length ≤ maxRuntimePortsPerService)
    (found : ∀ port ∈ detected, FoundPort port.port port.environment) :
    AcceptablePorts (scriptPortCandidates source blob scriptName nearby used index detected) ∧
      ∀ port ∈ scriptPortCandidates source blob scriptName nearby used index detected,
        port.portId ∉ used := by
  induction detected generalizing used index with
  | nil =>
    refine ⟨⟨Nat.zero_le _, ?_, nodup_nil, ?_⟩, ?_⟩ <;> exact fun _ none => absurd none not_mem_nil
  | cons first rest ih =>
    rw [scriptPortCandidates]
    rw [length_cons] at few
    have isFound := found first mem_cons_self
    obtain ⟨_, _, _, isNew⟩ := uniquePortId_spec first.environment index used
    have small : index < 8 := lt_of_lt_of_le (by omega) few
    have valid := uniquePortId_valid isFound.environment isIndex small
    obtain ⟨⟨length, restValid, distinct, range⟩, fresh⟩ := @ih
      (insert (uniquePortId first.environment index used) used) (index + 1)
      (by rw [Finset.card_insert_of_notMem isNew, isIndex]) (by omega)
      fun port member => found port (mem_cons_of_mem _ member)
    refine ⟨⟨?_, ?_, ?_, ?_⟩, ?_⟩
    · rw [length_cons]
      have same : ∀ (detected : List ScriptPort) (used : Finset String) (index : ℕ),
          (scriptPortCandidates source blob scriptName nearby used index detected).length =
            detected.length := by
        intro detected
        induction detected with
        | nil => exact fun _ _ => rfl
        | cons first rest ih =>
          intro used index
          rw [scriptPortCandidates, length_cons, length_cons, ih]
      rw [same]
      omega
    · exact forall_mem_cons.2 ⟨valid, restValid⟩
    · rw [map_cons, nodup_cons]
      refine ⟨fun member => ?_, distinct⟩
      obtain ⟨port, isLater, same⟩ := mem_map.1 member
      exact fresh port isLater (same ▸ Finset.mem_insert_self _ _)
    · refine forall_mem_cons.2 ⟨fun number isNumber => ?_, range⟩
      cases isNumber
      exact isFound.range
    exact forall_mem_cons.2
      ⟨isNew, fun port member used => fresh port member (Finset.mem_insert_of_mem used)⟩

/-! ### Detectors -/

variable {ν : Type} (readers : Readers ν) (source : RuntimeRepositorySource)

theorem manifestBasePort_range (manifestId : String) : 1024 ≤ (manifestBasePort manifestId).toNat := by
  rw [manifestBasePort]
  split
  · decide
  split
  · decide
  split
  · decide
  simp only
  rw [UInt16.toNat_ofNat', Nat.mod_eq_of_lt (by omega)]
  omega

theorem checkedAdd_range {first second sum : UInt16} (isSum : checkedAdd first second = some sum)
    (range : 1024 ≤ first.toNat) : 1024 ≤ sum.toNat := by
  rw [checkedAdd] at isSum
  split at isSum
  · rename_i fits
    cases isSum
    rw [UInt16.toNat_add, Nat.mod_eq_of_lt fits]
    exact range.trans (Nat.le_add_right _ _)
  cases isSum

variable {candidate : RuntimeServiceCandidate}

theorem stackService_acceptable {manifest : StackManifest}
    (accepted : acceptedManifest manifest = true) {process : StackProcess}
    (isCandidate : stackService source blob manifest process = some candidate) :
    Acceptable candidate := by
  rw [stackService] at isCandidate
  obtain ⟨port, isPort, isCandidate⟩ := Option.bind_eq_some_iff.1 isCandidate
  obtain ⟨directory, _, isCandidate⟩ := Option.bind_eq_some_iff.1 isCandidate
  cases isCandidate
  rw [acceptedManifest, Bool.and_eq_true, Bool.and_eq_true, Bool.and_eq_true, Bool.and_eq_true,
    validStackPorts, Bool.and_eq_true, Bool.and_eq_true, Bool.and_eq_true,
    all_eq_true] at accepted
  have valid := accepted.1.1.1.2.1.1.1 port (mem_of_find?_eq_some isPort)
  rw [validStackPort, Bool.and_eq_true, Bool.and_eq_true] at valid
  refine ⟨candidateId_valid _ _ _ _ _, singlePort_acceptable ?_ fun number isNumber => ?_⟩
  · exact (isIdentifier_of_valid valid.1.1).valid le_rfl
  exact checkedAdd_range isNumber (manifestBasePort_range _)

theorem mem_of_mapM {β : Type} {f : α → Option β} {items : List α} {results : List β}
    (mapped : items.mapM f = some results) {result : β} (member : result ∈ results) :
    ∃ item ∈ items, f item = some result := by
  induction items generalizing results with
  | nil =>
    rw [mapM_nil] at mapped
    cases mapped
    cases member
  | cons first rest ih =>
    rw [mapM_cons] at mapped
    obtain ⟨head, isHead, mapped⟩ := Option.bind_eq_some_iff.1 mapped
    obtain ⟨tail, isTail, mapped⟩ := Option.bind_eq_some_iff.1 mapped
    cases mapped
    rcases mem_cons.1 member with rfl | later
    · exact ⟨first, mem_cons_self, isHead⟩
    obtain ⟨item, isItem, found⟩ := ih isTail later
    exact ⟨item, mem_cons_of_mem _ isItem, found⟩

variable {services : List RuntimeServiceCandidate}

theorem parseStackManifest_acceptable
    (parsed : parseStackManifest readers source blob = some services) :
    ∀ candidate ∈ services, Acceptable candidate := by
  intro candidate member
  rw [parseStackManifest] at parsed
  obtain ⟨manifest, _, parsed⟩ := Option.bind_eq_some_iff.1 parsed
  split at parsed
  · rename_i accepted
    obtain ⟨process, _, isCandidate⟩ := mem_of_mapM parsed member
    exact stackService_acceptable source accepted isCandidate
  cases parsed

theorem manifestServices_acceptable (blobs : List CommitCandidateBlob) (warnings : List String) :
    ∀ candidate ∈ (manifestServices readers source blobs warnings).1, Acceptable candidate := by
  induction blobs generalizing warnings with
  | nil => exact fun _ none => absurd none not_mem_nil
  | cons blob rest ih =>
    rw [manifestServices]
    split
    · rename_i found parsed
      intro candidate member
      rcases mem_append.1 member with here | later
      · exact parseStackManifest_acceptable readers source parsed candidate here
      exact ih warnings candidate later
    exact ih _

theorem packageService_acceptable (blob : CommitCandidateBlob) (packageName : Option String)
    (manager : PackageManager) (nearby : List SupplementalPort) (scriptName : String)
    (few : detected.length ≤ maxRuntimePortsPerService)
    (found : ∀ port ∈ detected, FoundPort port.port port.environment) :
    Acceptable (packageService source blob packageName manager nearby scriptName detected) := by
  refine ⟨candidateId_valid _ _ _ _ _, ?_⟩
  exact (scriptPortCandidates_acceptable source blob scriptName nearby Finset.card_empty
    ((Nat.zero_add _).le.trans few) found).1

theorem firstPackageService_acceptable (blob : CommitCandidateBlob) (packageName : Option String)
    (manager : PackageManager) {nearby : List SupplementalPort} (found : FoundSupplements nearby)
    (scripts : List (String × String)) :
    ∀ candidate ∈ firstPackageService source blob packageName manager nearby scripts,
      Acceptable candidate := by
  induction scripts with
  | nil => exact fun _ none => absurd none not_mem_nil
  | cons entry rest ih =>
    obtain ⟨scriptName, script⟩ := entry
    rw [firstPackageService]
    split
    · exact ih
    split
    · exact ih
    intro candidate member
    rw [mem_singleton.1 member]
    obtain ⟨few, ports⟩ := @detectedPorts_found scriptName script _ found
    exact packageService_acceptable source blob packageName manager nearby scriptName few ports

variable {supplements : List SupplementalPort}

theorem parsePackageServices_acceptable (found : FoundSupplements supplements)
    (parsed : parsePackageServices readers source supplements blob = some services) :
    ∀ candidate ∈ services, Acceptable candidate := by
  rw [parsePackageServices] at parsed
  obtain ⟨value, _, parsed⟩ := Option.bind_eq_some_iff.1 parsed
  obtain ⟨object, _, parsed⟩ := Option.bind_eq_some_iff.1 parsed
  obtain ⟨scripts, _, parsed⟩ := Option.bind_eq_some_iff.1 parsed
  cases parsed
  exact firstPackageService_acceptable source blob _ _
    (fun supplement member => found supplement (mem_filter.1 member).1) _

theorem packageServices_acceptable
    (found : FoundSupplements supplements) (blobs : List CommitCandidateBlob)
    (warnings : List String) (acceptable : ∀ candidate ∈ services, Acceptable candidate) :
    ∀ candidate ∈ (packageServices readers source supplements services blobs warnings).1,
      Acceptable candidate := by
  induction blobs generalizing services warnings with
  | nil => exact acceptable
  | cons blob rest ih =>
    rw [packageServices]
    cases parsed : parsePackageServices readers source supplements blob with
    | none =>
      simp only
      split
      · exact acceptable
      exact ih _ acceptable
    | some detected =>
      have both : ∀ candidate ∈ services ++ detected, Acceptable candidate := by
        intro candidate member
        rcases mem_append.1 member with before | new
        · exact acceptable candidate before
        exact parsePackageServices_acceptable readers source found parsed candidate new
      simp only
      split
      · exact both
      exact ih _ both

theorem serverCandidate_acceptable (detector path directory : String) (command : List String)
    (range : 1024 ≤ port.toNat) (confidence : RuntimeConfidence)
    (serviceEvidence portEvidence : List RuntimeEvidence) :
    Acceptable (serverCandidate source detector path directory command port confidence serviceEvidence
      portEvidence) := by
  have http : validRuntimeIdentifier "http" = true := by decide
  refine ⟨candidateId_valid _ _ _ _ _, singlePort_acceptable http fun number isNumber => ?_⟩
  cases isNumber
  exact range

theorem uwsgiService_acceptable {dockerfiles : List Dockerfile}
    (found : uwsgiService source dockerfiles blob = some candidate) : Acceptable candidate := by
  rw [uwsgiService] at found
  obtain ⟨text, _, found⟩ := Option.bind_eq_some_iff.1 found
  obtain ⟨port, isPort, found⟩ := Option.bind_eq_some_iff.1 found
  simp only at found
  split at found
  · cases found
  cases found
  exact serverCandidate_acceptable source _ _ _ _ (uwsgiPort_range isPort) _ _ _

theorem dockerfileService_acceptable {dockerfile : Dockerfile}
    (range : ∀ port ∈ dockerfile.ports, 1024 ≤ port.toNat)
    (found : dockerfileService source dockerfile = some candidate) : Acceptable candidate := by
  rw [dockerfileService] at found
  obtain ⟨command, _, found⟩ := Option.bind_eq_some_iff.1 found
  obtain ⟨port, isPort, found⟩ := Option.bind_eq_some_iff.1 found
  obtain ⟨executable, _, found⟩ := Option.bind_eq_some_iff.1 found
  simp only at found
  split at found
  · cases found
  cases found
  exact serverCandidate_acceptable source _ _ _ _ (range port (mem_of_head? isPort)) _ _ _

theorem servicesByDirectory_acceptable {directory : α → String}
    {service : α → Option RuntimeServiceCandidate} {items : List α}
    (acceptable : ∀ item ∈ items, ∀ candidate, service item = some candidate → Acceptable candidate)
    (used : Finset String) :
    ∀ candidate ∈ (servicesByDirectory directory service used items).1, Acceptable candidate := by
  induction items generalizing used with
  | nil => exact fun _ none => absurd none not_mem_nil
  | cons item rest ih =>
    have later := ih fun other member => acceptable other (mem_cons_of_mem _ member)
    rw [servicesByDirectory]
    split
    · exact later used
    split
    · exact later used
    rename_i candidate isCandidate
    exact forall_mem_cons.2 ⟨acceptable item mem_cons_self candidate isCandidate, later _⟩

theorem detectServerProcesses_acceptable (blobs : List CommitCandidateBlob)
    (skipDirectories : Finset String) :
    ∀ candidate ∈ detectServerProcesses readers source blobs skipDirectories,
      Acceptable candidate := by
  intro candidate member
  have inBoth := mem_of_mem_take member
  rw [mem_insertionSort] at inBoth
  rcases mem_append.1 inBoth with uwsgi | server
  · exact servicesByDirectory_acceptable
      (fun _ _ _ found => uwsgiService_acceptable source found) _ candidate uwsgi
  refine servicesByDirectory_acceptable (fun dockerfile isRead _ found => ?_) _ candidate server
  refine dockerfileService_acceptable source (fun port isPort => ?_) found
  obtain ⟨blob, _, isDockerfile⟩ := mem_filterMap.1 isRead
  rw [readDockerfile] at isDockerfile
  split at isDockerfile
  · obtain ⟨text, _, rfl⟩ := Option.map_eq_some_iff.1 isDockerfile
    exact dockerfilePorts_range isPort
  cases isDockerfile

theorem detectRepository_acceptable (blobs : List CommitCandidateBlob) (warnings : List String) :
    ∀ candidate ∈ (detectRepository readers source blobs warnings).1, Acceptable candidate := by
  rw [detectRepository]
  simp only
  split
  · exact manifestServices_acceptable readers source _ _
  intro candidate member
  rcases mem_append.1 member with package | server
  · exact packageServices_acceptable readers source
      (collectSupplementalPorts_found source blobs _) _ _ (fun _ none => by cases none) candidate package
  exact detectServerProcesses_acceptable readers source blobs _ candidate server

theorem detectSources_acceptable {warnings : List String}
    {sets : List (RuntimeRepositorySource × List CommitCandidateBlob)}
    {found : List RuntimeServiceCandidate} {foundWarnings : List String}
    (detected : detectSources readers services warnings sets = .ok (found, foundWarnings))
    (few : services.length ≤ maxRuntimeServices)
    (acceptable : ∀ candidate ∈ services, Acceptable candidate) :
    found.length ≤ maxRuntimeServices ∧ ∀ candidate ∈ found, Acceptable candidate := by
  induction sets generalizing services warnings with
  | nil =>
    cases detected
    exact ⟨few, acceptable⟩
  | cons set rest ih =>
    obtain ⟨source, blobs⟩ := set
    rw [detectSources] at detected
    simp only at detected
    split at detected
    · cases detected
    rename_i fits
    refine ih detected (Nat.not_lt.1 fits) fun candidate member => ?_
    rcases mem_append.1 member with before | new
    · exact acceptable candidate before
    exact detectRepository_acceptable readers source blobs warnings candidate new

theorem nodup_of_noDuplicateNeighbours
    (sorted : services.Pairwise fun left right => left.candidateId ≤ right.candidateId)
    (distinct : hasDuplicateNeighbours services = false) :
    (services.map RuntimeServiceCandidate.candidateId).Nodup := by
  have strict : services.Pairwise fun left right => left.candidateId < right.candidateId := by
    induction services with
    | nil => exact List.Pairwise.nil
    | cons first rest ih =>
      rw [pairwise_cons] at sorted ⊢
      cases rest with
      | nil => exact ⟨fun _ none => absurd none not_mem_nil, List.Pairwise.nil⟩
      | cons second others =>
        rw [hasDuplicateNeighbours, tail_cons, zip_cons_cons, any_cons,
          Bool.or_eq_false_iff, decide_eq_false_iff_not] at distinct
        have later := ih sorted.2 distinct.2
        have next := lt_of_le_of_ne (sorted.1 second mem_cons_self) distinct.1
        refine ⟨fun other member => ?_, later⟩
        rcases mem_cons.1 member with rfl | isOther
        · exact next
        exact next.trans ((pairwise_cons.1 later).1 other isOther)
  rw [List.Nodup, pairwise_map]
  exact strict.imp fun less => less.ne

/-- What is known about every result. -/
structure Selectable (result : RuntimeAnalysisResult) : Prop where
  digest : validAnalysisDigest result.analysisDigest = true
  few : result.services.length ≤ maxRuntimeServices
  acceptable : ∀ candidate ∈ result.services, Acceptable candidate
  distinct : (result.services.map RuntimeServiceCandidate.candidateId).Nodup

theorem analysisDigest_valid {repositories : List RuntimeAnalyzedRepository} {digest : String}
    (isDigest : analysisDigest readers repositories services = .ok digest) :
    validAnalysisDigest digest = true := by
  rw [analysisDigest] at isDigest
  split at isDigest
  · cases isDigest
  rename_i bytes _
  cases isDigest
  have start : ∀ text : String, stripPrefix "sha256:" ("sha256:" ++ text) = some text := by
    intro text
    have isPrefix : "sha256:".toList.isPrefixOf ("sha256:" ++ text).toList = true := by
      rw [String.toList_append, isPrefixOf_iff_prefix]
      exact prefix_append _ _
    rw [stripPrefix, if_pos isPrefix, String.toList_append, drop_left, String.ofList_toList]
  rw [validAnalysisDigest, hasDigest, start]
  simp only
  rw [hexEncode, String.toList_ofList, length_hexChars, length_sha256,
    Bool.and_eq_true, all_eq_true]
  exact ⟨rfl, fun c member => hexChars_isLowerHexDigit member⟩

variable {result : RuntimeAnalysisResult}

theorem analyzeRuntime_selectable {git : RuntimeRepositorySource → GitAnswers}
    {sources : List RuntimeRepositorySource}
    (analyzed : analyzeRuntime readers git sources = .ok result) : Selectable result := by
  rw [analyzeRuntime] at analyzed
  split at analyzed
  · cases analyzed
  split at analyzed
  · cases analyzed
  obtain ⟨_, _, analyzed⟩ := bind_eq_ok.1 analyzed
  obtain ⟨sets, _, analyzed⟩ := bind_eq_ok.1 analyzed
  obtain ⟨⟨services, warnings⟩, detected, analyzed⟩ := bind_eq_ok.1 analyzed
  simp only at analyzed
  split at analyzed
  · cases analyzed
  rename_i distinct
  obtain ⟨digest, isDigest, analyzed⟩ := bind_eq_ok.1 analyzed
  cases analyzed
  obtain ⟨few, acceptable⟩ := detectSources_acceptable readers detected (Nat.zero_le _)
    fun _ none => by cases none
  refine ⟨analysisDigest_valid readers isDigest, ?_, ?_, ?_⟩
  · rwa [length_insertionSort]
  · exact fun candidate member => acceptable candidate ((mem_insertionSort _).1 member)
  exact nodup_of_noDuplicateNeighbours (pairwise_insertionSort _ _) (Bool.eq_false_iff.2 distinct)

/-- A port that the analysis proposes is kept. -/
def RuntimeServiceCandidate.select (chosen : RuntimePortCandidate → UInt16)
    (candidate : RuntimeServiceCandidate) : RuntimeServiceSelection where
  candidateId := candidate.candidateId
  ports := candidate.ports.map fun port => {
    portId := port.portId
    preferredPort := port.preferredPort.getD (chosen port)
    policy := port.policy }

/-- The plan of the selected candidates, with the chosen ports. -/
def RuntimeAnalysisResult.plan (result : RuntimeAnalysisResult)
    (chosen : RuntimePortCandidate → UInt16) (selected : List RuntimeServiceCandidate) :
    RuntimePlanSelection where
  analysisDigest := result.analysisDigest
  services := selected.map (RuntimeServiceCandidate.select chosen)

theorem checkPorts_ok (candidateId : String) {ports : List RuntimePortSelection} (index : ℕ)
    {portIds : List String} (valid : ∀ port ∈ ports, validRuntimeIdentifier port.portId = true)
    (range : ∀ port ∈ ports, 1024 ≤ port.preferredPort.toNat)
    (distinct : (ports.map RuntimePortSelection.portId).Nodup)
    (fresh : ∀ port ∈ ports, port.portId ∉ portIds) :
    checkPorts candidateId ports index portIds = .ok () := by
  induction ports generalizing index portIds with
  | nil => rfl
  | cons port rest ih =>
    rw [map_cons, nodup_cons] at distinct
    have inRange : ¬ port.preferredPort < 1024 := by
      rw [UInt16.lt_iff_toNat_lt]
      exact Nat.not_lt.2 (range port mem_cons_self)
    rw [checkPorts, if_neg (not_not.2 (valid port mem_cons_self)),
      if_neg (fresh port mem_cons_self), if_neg inRange]
    refine ih (index + 1) (fun other member => valid other (mem_cons_of_mem _ member))
      (fun other member => range other (mem_cons_of_mem _ member)) distinct.2 ?_
    intro other member used
    rcases mem_cons.1 used with same | before
    · exact distinct.1 (same ▸ mem_map_of_mem member)
    exact fresh other (mem_cons_of_mem _ member) before

variable {chosen : RuntimePortCandidate → UInt16}

theorem select_checkPorts (acceptable : Acceptable candidate)
    (inRange : ∀ port, port.preferredPort = none → 1024 ≤ (chosen port).toNat) :
    checkPorts candidate.candidateId (candidate.select chosen).ports 0 [] = .ok () := by
  obtain ⟨_, _, valid, distinct, range⟩ := acceptable
  refine checkPorts_ok _ 0 ?_ ?_ ?_ fun _ _ => not_mem_nil
  · intro selection member
    obtain ⟨port, isPort, rfl⟩ := mem_map.1 member
    exact valid port isPort
  · intro selection member
    obtain ⟨port, isPort, rfl⟩ := mem_map.1 member
    cases proposed : port.preferredPort with
    | none => exact inRange port proposed
    | some number => exact range port isPort number proposed
  rw [RuntimeServiceCandidate.select, map_map]
  exact distinct

theorem normalizeServices_ok
    (inRange : ∀ port, port.preferredPort = none → 1024 ≤ (chosen port).toNat)
    {selected : List RuntimeServiceCandidate} (index : ℕ) {candidateIds : List String}
    (acceptable : ∀ candidate ∈ selected, Acceptable candidate)
    (distinct : (selected.map RuntimeServiceCandidate.candidateId).Nodup)
    (fresh : ∀ candidate ∈ selected, candidate.candidateId ∉ candidateIds) :
    ∃ services, normalizeServices (selected.map (RuntimeServiceCandidate.select chosen)) index
      candidateIds = .ok services := by
  induction selected generalizing index candidateIds with
  | nil => exact ⟨[], rfl⟩
  | cons candidate rest ih =>
    rw [map_cons, nodup_cons] at distinct
    have isAcceptable := acceptable candidate mem_cons_self
    obtain ⟨services, normalized⟩ := @ih (index + 1) (candidate.candidateId :: candidateIds)
      (fun other member => acceptable other (mem_cons_of_mem _ member)) distinct.2 (by
        intro other member used
        rcases mem_cons.1 used with same | before
        · exact distinct.1 (same ▸ mem_map_of_mem member)
        exact fresh other (mem_cons_of_mem _ member) before)
    have fewPorts : ¬ maxRuntimePortsPerService < (candidate.select chosen).ports.length := by
      rw [RuntimeServiceCandidate.select, length_map]
      exact Nat.not_lt.2 isAcceptable.ports.few
    have isNew : (candidate.select chosen).candidateId ∉ candidateIds :=
      fresh candidate mem_cons_self
    have valid : ¬ ¬ validRuntimeIdentifier (candidate.select chosen).candidateId = true :=
      not_not.2 isAcceptable.identity
    have ports : checkPorts (candidate.select chosen).candidateId (candidate.select chosen).ports 0 [] =
      .ok () := select_checkPorts isAcceptable inRange
    have others : normalizeServices (rest.map (RuntimeServiceCandidate.select chosen)) (index + 1)
      ((candidate.select chosen).candidateId :: candidateIds) = .ok services := normalized
    rw [map_cons, normalizeServices, if_neg valid, if_neg isNew, if_neg fewPorts, ports]
    simp only [others]
    exact ⟨_, rfl⟩

/-- A process waits for another one. -/
def DependsOn (processes : List StackProcess) (dependency process : String) : Prop :=
  ∃ entry ∈ processes, entry.id = process ∧ dependency ∈ entry.dependencies

theorem dependencyCycle_iff {ports : List StackPort} {processes : List StackProcess}
    (valid : validStackProcesses ports processes = true) :
    dependencyCycle processes = true ↔ Acyclic.Cyclic (DependsOn processes) := by
  rw [validStackProcesses, Bool.and_eq_true, Bool.and_eq_true, Bool.and_eq_true, decide_eq_true_eq,
    all_eq_true, all_eq_true] at valid
  obtain ⟨⟨⟨distinct, _⟩, eachValid⟩, _⟩ := valid
  have ids : (processDependencies processes).map Prod.fst = processes.map StackProcess.id := by
    rw [processDependencies, map_map]
    rfl
  have length : (processDependencies processes).length = processes.length := length_map _
  have known : ∀ item ∈ processDependencies processes, ∀ b ∈ item.2,
      ∃ other ∈ processDependencies processes, other.1 = b := by
    intro item isItem b member
    obtain ⟨process, isProcess, rfl⟩ := mem_map.1 isItem
    have dependencies := eachValid process isProcess
    rw [validStackProcess] at dependencies
    simp only [Bool.and_eq_true, all_eq_true, decide_eq_true_eq, contains_iff_mem] at dependencies
    have isKnown := (dependencies.1.2 b (mem_toFinset.1 member)).2
    obtain ⟨other, isOther, rfl⟩ := mem_map.1 isKnown
    exact ⟨_, mem_map_of_mem isOther, rfl⟩
  have found := Acyclic.stuckRounds_iff_cyclic (ids ▸ distinct) known
  rw [length] at found
  rw [dependencyCycle, found]
  have same : (fun b a => ∃ item ∈ processDependencies processes, item.1 = a ∧ b ∈ item.2) =
      DependsOn processes := by
    funext b a
    rw [eq_iff_iff]
    constructor
    · rintro ⟨item, isItem, rfl, member⟩
      obtain ⟨process, isProcess, rfl⟩ := mem_map.1 isItem
      exact ⟨process, isProcess, rfl, mem_toFinset.1 member⟩
    rintro ⟨process, isProcess, rfl, member⟩
    exact ⟨_, mem_map_of_mem isProcess, rfl, mem_toFinset.2 member⟩
  rw [same]

theorem Selectable.accepted (selectable : Selectable result)
    (inRange : ∀ port, port.preferredPort = none → 1024 ≤ (chosen port).toNat)
    {selected : List RuntimeServiceCandidate} (nonempty : selected ≠ []) (nodup : selected.Nodup)
    (subset : selected ⊆ result.services) :
    ∃ plan, normalizeRuntime (result.plan chosen selected) = .ok plan := by
  obtain ⟨digest, few, acceptable, distinct⟩ := selectable
  have distinctSelected : (selected.map RuntimeServiceCandidate.candidateId).Nodup :=
    nodup.map_on fun first isFirst second isSecond same =>
      inj_on_of_nodup_map distinct (subset isFirst) (subset isSecond) same
  obtain ⟨services, normalized⟩ := @normalizeServices_ok chosen inRange selected 0 []
    (fun candidate member => acceptable candidate (subset member)) distinctSelected
    fun _ _ => not_mem_nil
  have fewSelected : ¬ maxRuntimeServices < (result.plan chosen selected).services.length := by
    rw [RuntimeAnalysisResult.plan, length_map]
    exact Nat.not_lt.2 ((nodup.subperm subset).length_le.trans few)
  have some : (result.plan chosen selected).services ≠ [] := by
    rw [RuntimeAnalysisResult.plan, Ne, map_eq_nil_iff]
    exact nonempty
  have valid : ¬ ¬ validAnalysisDigest (result.plan chosen selected).analysisDigest = true :=
    not_not.2 digest
  have loop : normalizeServices (result.plan chosen selected).services 0 [] = .ok services := normalized
  rw [normalizeRuntime, if_neg valid, if_neg some, if_neg fewSelected, loop]
  exact ⟨_, rfl⟩

/-- Candidate identities are distinct, every nonempty selection is accepted as a runtime plan, and the
cycle check of a manifest finds exactly the cycles. -/
theorem analysis_selectable (git : RuntimeRepositorySource → GitAnswers)
    (sources : List RuntimeRepositorySource) (result : RuntimeAnalysisResult)
    (analyzed : analyzeRuntime readers git sources = .ok result) :
    (result.services.map RuntimeServiceCandidate.candidateId).Nodup ∧
      (∀ chosen : RuntimePortCandidate → UInt16,
        (∀ port, port.preferredPort = none → 1024 ≤ (chosen port).toNat) →
        ∀ selected : List RuntimeServiceCandidate, selected ≠ [] → selected.Nodup →
          selected ⊆ result.services →
          ∃ plan, normalizeRuntime (result.plan chosen selected) = .ok plan) ∧
      ∀ manifest : StackManifest, validStackProcesses manifest.ports manifest.processes = true →
        (dependencyCycle manifest.processes = true ↔
          Acyclic.Cyclic (DependsOn manifest.processes)) := by
  have selectable := analyzeRuntime_selectable readers analyzed
  refine ⟨selectable.distinct, ?_, fun manifest valid => dependencyCycle_iff valid⟩
  intro chosen inRange selected nonempty nodup subset
  exact selectable.accepted inRange nonempty nodup subset

def sampleSource : RuntimeRepositorySource where
  repositoryId := "repo_0000000000000000000000000000000000000000000000000000000000000000"
  repositoryLabel := "app"
  requestedBaseRef := "main"
  resolvedBaseRef := "refs/heads/main"
  commitOid := "0000000000000000000000000000000000000000"
  repositoryRoot := "/repos/app"

def sampleProcess : StackProcess where
  id := "api"
  workingDirectory := "."
  executable := "npm"
  arguments := ["start"]
  dependencies := []
  health := { port := "http", path := "/" }

def sampleManifest : StackManifest where
  schemaVersion := 1
  id := "api-worker"
  description := "An API."
  ports := [{ id := "http", environment := "API_PORT", offset := 0 }]
  processes := [sampleProcess]
  smoke := { workingDirectory := ".", executable := "npm", arguments := ["test"] }

def sampleBlob : CommitCandidateBlob where
  path := "wts-stack.json"
  kind := .stackManifest
  bytes := []

def sampleReaders : Readers ℕ where
  manifest := fun _ => some sampleManifest
  json := fun _ => none
  arguments := fun _ => none
  lowercase := id
  digestInput := fun _ _ => some []

def sampleGit (source : RuntimeRepositorySource) : GitAnswers where
  inspection := .ok source.repositoryId
  blobs := .ok [sampleBlob]

/-- Another repository of the same label, whose manifest has the same text. -/
def otherSource : RuntimeRepositorySource :=
  { sampleSource with
    repositoryId := "repo_1111111111111111111111111111111111111111111111111111111111111111"
    repositoryRoot := "/repos/web" }

/-- The two repositories give two services of one name. -/
theorem analyzeRuntime_sample : ∃ result,
    analyzeRuntime sampleReaders sampleGit [sampleSource, otherSource] = .ok result ∧
      result.services.map RuntimeServiceCandidate.serviceId = ["api", "api"] := by
  have names : (analyzeRuntime sampleReaders sampleGit [sampleSource, otherSource]).toOption.map
      (fun result => result.services.map RuntimeServiceCandidate.serviceId) =
        some ["api", "api"] := by decide +kernel
  cases analyzed : analyzeRuntime sampleReaders sampleGit [sampleSource, otherSource] with
  | error => rw [analyzed] at names; cases names
  | ok result =>
    rw [analyzed] at names
    exact ⟨result, rfl, Option.some.inj names⟩

theorem analysis_selectable_sample : ∃ result : RuntimeAnalysisResult,
    analyzeRuntime sampleReaders sampleGit [sampleSource, otherSource] = .ok result ∧
      result.services.map RuntimeServiceCandidate.serviceId = ["api", "api"] ∧
      (result.services.map RuntimeServiceCandidate.candidateId).Nodup ∧
      ∃ plan, normalizeRuntime (result.plan (fun _ => 42000) result.services) = .ok plan := by
  obtain ⟨result, analyzed, services⟩ := analyzeRuntime_sample
  obtain ⟨distinct, accepted, _⟩ :=
    analysis_selectable sampleReaders sampleGit [sampleSource, otherSource] result analyzed
  have inRange : ∀ port : RuntimePortCandidate, port.preferredPort = none →
      1024 ≤ (42000 : UInt16).toNat := fun _ _ => by decide
  have some : result.services ≠ [] := by
    intro none
    rw [none] at services
    cases services
  exact ⟨result, analyzed, services, distinct, accepted (fun _ => 42000) inRange result.services
    some (Nodup.of_map _ distinct) (List.Subset.refl _)⟩

/-- A plan of no candidates is refused. -/
theorem empty_selection_counterexample :
    ¬ ∀ (readers : Readers ℕ) (git : RuntimeRepositorySource → GitAnswers)
      (sources : List RuntimeRepositorySource) (result : RuntimeAnalysisResult),
      analyzeRuntime readers git sources = .ok result → ∀ chosen : RuntimePortCandidate → UInt16,
          (∀ port, port.preferredPort = none → 1024 ≤ (chosen port).toNat) →
          ∀ selected : List RuntimeServiceCandidate, selected.Nodup → selected ⊆ result.services →
            ∃ plan, normalizeRuntime (result.plan chosen selected) = .ok plan := by
  intro claim
  obtain ⟨result, analyzed, _⟩ := analyzeRuntime_sample
  obtain ⟨plan, normalized⟩ := claim sampleReaders sampleGit [sampleSource, otherSource] result
    analyzed (fun _ => 42000) (fun _ _ => by decide) [] nodup_nil (nil_subset _)
  have digest := (analyzeRuntime_selectable sampleReaders analyzed).digest
  have valid : ¬ ¬ validAnalysisDigest (result.plan (fun _ => 42000) []).analysisDigest = true :=
    not_not.2 digest
  rw [normalizeRuntime, if_neg valid, if_pos (show (result.plan _ []).services = [] from rfl)] at normalized
  cases normalized

end Wts.RuntimeAnalysis
