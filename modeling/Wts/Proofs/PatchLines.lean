/-
Module: Wts.Proofs.PatchLines
Purpose: The scanner of a patch on the patches that git prints.
Trusted boundary: none
Main exports: changed_line_iff
-/
import Wts.App.PatchLines
import Wts.Git.DiffOutput

namespace Wts.PatchLines

open DiffOutput List Function
open Text (startsWith withoutReturn)

/-! ### Quoted paths -/

variable {n : ℕ}

theorem octalDigit_byte (small : n < 8) :
    String.utf8EncodeChar (octalDigit n) = [UInt8.ofNat (0x30 + n)] := by
  interval_cases n <;> rfl

theorem isOctal_ofNat (small : n < 8) : isOctal (UInt8.ofNat (0x30 + n)) = true := by
  interval_cases n <;> rfl

theorem letterEscape_octal (small : n < 8) : letterEscape (UInt8.ofNat (0x30 + n)) = none := by
  interval_cases n <;> rfl

theorem unescape_cons (fuel : ℕ) (byte : UInt8) (rest : List UInt8) :
    unescape (fuel + 1) (byte :: rest) =
      if byte ≠ 0x5c then (unescape fuel rest).map (byte :: ·)
      else
        match rest with
        | [] => none
        | escaped :: rest =>
          match letterEscape escaped with
          | some value => (unescape fuel rest).map (value :: ·)
          | none =>
            if isOctal escaped then
              (unescape fuel (octalDigits 2 (escaped.toNat - 0x30) rest).2).map
                (UInt8.ofNat (octalDigits 2 (escaped.toNat - 0x30) rest).1 :: ·)
            else none := by
  exact (unescape.eq_def (fuel + 1) (byte :: rest)).trans rfl

/-- What is read of some bytes in front of others. -/
def Reads (bytes read : List UInt8) : Prop :=
  ∀ fuel rest, (bytes ++ rest).length ≤ fuel → ∃ less, rest.length ≤ less ∧
    unescape fuel (bytes ++ rest) = (unescape less rest).map (read ++ ·)

theorem reads_nil : Reads [] [] :=
  fun fuel rest enough => ⟨fuel, enough, by
    rw [nil_append]
    cases unescape fuel rest <;> rfl⟩

theorem Reads.append {first second firstRead secondRead : List UInt8}
    (firstReads : Reads first firstRead) (secondReads : Reads second secondRead) :
    Reads (first ++ second) (firstRead ++ secondRead) := by
  intro fuel rest enough
  rw [append_assoc] at enough ⊢
  obtain ⟨less, enoughLess, isFirst⟩ := firstReads fuel (second ++ rest) enough
  obtain ⟨least, enoughLeast, isSecond⟩ := secondReads less rest enoughLess
  refine ⟨least, enoughLeast, ?_⟩
  rw [isFirst, isSecond, Option.map_map]
  congr 1
  funext read
  exact (append_assoc _ _ _).symm

theorem reads_plain {byte : UInt8} (plain : byte ≠ 0x5c) : Reads [byte] [byte] := by
  intro fuel rest enough
  cases fuel with
  | zero => exact absurd enough (Nat.not_succ_le_zero _)
  | succ fuel =>
    refine ⟨fuel, Nat.le_of_succ_le_succ enough, ?_⟩
    rw [singleton_append, unescape_cons, if_pos plain]
    rfl

theorem reads_letter {escaped value : UInt8} (isLetter : letterEscape escaped = some value) :
    Reads [0x5c, escaped] [value] := by
  intro fuel rest enough
  cases fuel with
  | zero => exact absurd enough (Nat.not_succ_le_zero _)
  | succ fuel =>
    refine ⟨fuel, Nat.le_of_succ_le (Nat.le_of_succ_le_succ enough), ?_⟩
    rw [cons_append, singleton_append, unescape_cons, if_neg (not_not_intro rfl)]
    dsimp only
    rw [isLetter]
    rfl

theorem reads_octal (byte : UInt8) :
    Reads ((octalEscape byte).flatMap String.utf8EncodeChar) [byte] := by
  have bound : byte.toNat < 256 := byte.toNat_lt
  have bytes : (octalEscape byte).flatMap String.utf8EncodeChar = [0x5c,
      UInt8.ofNat (0x30 + byte.toNat / 64), UInt8.ofNat (0x30 + byte.toNat / 8 % 8),
      UInt8.ofNat (0x30 + byte.toNat % 8)] := by
    rw [octalEscape, flatMap_cons, flatMap_cons, flatMap_cons, flatMap_cons,
      flatMap_nil, octalDigit_byte (by omega), octalDigit_byte (by omega),
      octalDigit_byte (by omega)]
    rfl
  rw [bytes]
  intro fuel rest enough
  cases fuel with
  | zero => exact absurd enough (Nat.not_succ_le_zero _)
  | succ fuel =>
    refine ⟨fuel, ?_, ?_⟩
    · simp only [length_append, length_cons, length_nil] at enough
      omega
    rw [cons_append, unescape_cons, if_neg (not_not_intro rfl)]
    simp only [cons_append, nil_append]
    rw [letterEscape_octal (by omega)]
    simp only [octalDigits, isOctal_ofNat (show byte.toNat / 64 < 8 by omega),
      isOctal_ofNat (show byte.toNat / 8 % 8 < 8 by omega),
      isOctal_ofNat (show byte.toNat % 8 < 8 by omega), if_true,
      Utf8.toNat_ofNat (show 0x30 + byte.toNat / 64 < 256 by omega),
      Utf8.toNat_ofNat (show 0x30 + byte.toNat / 8 % 8 < 256 by omega),
      Utf8.toNat_ofNat (show 0x30 + byte.toNat % 8 < 256 by omega)]
    have value : min (min (min (min ((0x30 + byte.toNat / 64 - 0x30) * 8) 255 +
        (0x30 + byte.toNat / 8 % 8 - 0x30)) 255 * 8) 255 + (0x30 + byte.toNat % 8 - 0x30)) 255 =
        byte.toNat := by omega
    rw [value, UInt8.ofNat_toNat]

variable {first c : Char}

theorem plain_bytes (plain : c ≠ '\\') : ∀ byte ∈ String.utf8EncodeChar c, byte ≠ 0x5c := by
  have number : c.toNat ≠ 0x5c := fun same => plain (Char.toNat_inj.1 same)
  intro byte member same
  subst same
  rw [String.utf8EncodeChar, show c.val.toNat = c.toNat from rfl] at member
  have bound : c.toNat < 0x110000 := by
    rcases c.valid with low | high
    · exact low.trans (by decide)
    exact high.2
  generalize c.toNat = v at member number bound
  have isByte : ∀ {n : ℕ}, n < 256 → (0x5c : UInt8) = UInt8.ofNat n → n = 0x5c := by
    intro n small same
    rw [← Utf8.toNat_ofNat small, ← same]
    rfl
  split_ifs at member with one two three
  · rw [mem_singleton] at member
    exact number (isByte (by omega) member)
  · simp only [mem_cons, not_mem_nil, or_false] at member
    rcases member with same | same <;> exact absurd (isByte (by omega) same) (by omega)
  · simp only [mem_cons, not_mem_nil, or_false] at member
    rcases member with same | same | same <;> exact absurd (isByte (by omega) same) (by omega)
  simp only [mem_cons, not_mem_nil, or_false] at member
  rcases member with same | same | same | same <;>
    exact absurd (isByte (by omega) same) (by omega)

theorem reads_bytes {bytes : List UInt8} (plain : ∀ byte ∈ bytes, byte ≠ 0x5c) :
    Reads bytes bytes := by
  induction bytes with
  | nil => exact reads_nil
  | cons byte rest ih =>
    exact (reads_plain (plain byte mem_cons_self)).append
      (ih fun other member => plain other (mem_cons_of_mem _ member))

theorem reads_octals (bytes : List UInt8) :
    Reads ((bytes.flatMap octalEscape).flatMap String.utf8EncodeChar) bytes := by
  induction bytes with
  | nil => exact reads_nil
  | cons byte rest ih =>
    rw [flatMap_cons, flatMap_append]
    exact (reads_octal byte).append ih

theorem reads_char (quotePath : Bool) (c : Char) :
    Reads (((escapeChar quotePath c).getD [c]).flatMap String.utf8EncodeChar)
      (String.utf8EncodeChar c) := by
  rw [escapeChar]
  split_ifs with literal bell back tab feed vertical form carriage octal
  · rcases literal with rfl | rfl
    · exact reads_letter rfl
    · exact reads_letter rfl
  · subst bell
    exact reads_letter rfl
  · subst back
    exact reads_letter rfl
  · subst tab
    exact reads_letter rfl
  · subst feed
    exact reads_letter rfl
  · subst vertical
    exact reads_letter rfl
  · subst form
    exact reads_letter rfl
  · subst carriage
    exact reads_letter rfl
  · exact reads_octals _
  rw [Option.getD_none, flatMap_singleton]
  exact reads_bytes (plain_bytes fun same => literal (.inr same))

theorem reads_chars (quotePath : Bool) (path : List Char) :
    Reads ((quoteChars quotePath path).flatMap String.utf8EncodeChar)
      (path.flatMap String.utf8EncodeChar) := by
  induction path with
  | nil => exact reads_nil
  | cons c rest ih =>
    rw [quoteChars, flatMap_cons, flatMap_append, flatMap_cons]
    exact (reads_char quotePath c).append ih

theorem stripPrefix_append (start : String) (rest : List Char) :
    Text.stripPrefix start (String.ofList (start.toList ++ rest)) = some (String.ofList rest) := by
  rw [Text.stripPrefix, String.toList_ofList, if_pos, drop_left]
  rw [List.isPrefixOf_iff_prefix]
  exact prefix_append _ _

theorem stripSuffix_append (ending : String) (rest : List Char) :
    Gitlab.stripSuffix ending (String.ofList (rest ++ ending.toList)) = some (String.ofList rest) := by
  rw [Gitlab.stripSuffix, String.toList_ofList, if_pos, String.length_ofList, length_append,
    String.length_toList, Nat.add_sub_cancel, take_left]
  rw [isSuffixOf_iff_suffix]
  exact suffix_append _ _

theorem parseGitQuotedPath_quoted (quotePath : Bool) (path : String) :
    parseGitQuotedPath (String.ofList (quoted quotePath path.toList)) = some path := by
  have outer : Text.stripPrefix "\"" (String.ofList (quoted quotePath path.toList)) =
      some (String.ofList (quoteChars quotePath path.toList ++ "\"".toList)) :=
    stripPrefix_append "\"" _
  have inner := stripSuffix_append "\"" (quoteChars quotePath path.toList)
  have bytes : Text.utf8Bytes (String.ofList (quoteChars quotePath path.toList)) =
      (quoteChars quotePath path.toList).flatMap String.utf8EncodeChar := by
    rw [Utf8.utf8Bytes_eq, String.toList_ofList]
  obtain ⟨less, _, isRead⟩ := reads_chars quotePath path.toList _ [] le_rfl
  rw [append_nil] at isRead
  have final : unescape less [] = some [] := by cases less <;> rfl
  rw [final, Option.map_some, append_nil, ← Utf8.utf8Bytes_eq] at isRead
  rw [parseGitQuotedPath, outer, Option.bind_eq_bind, Option.bind_some, inner, Option.bind_eq_bind,
    Option.bind_some, bytes, isRead, Option.bind_some]
  exact Utf8.fromUtf8_utf8Bytes path

/-! ### File headers -/

/-- A character that neither ends a line nor a name. -/
def Clean (c : Char) : Prop :=
  c ≠ '\t' ∧ c ≠ '\n' ∧ c ≠ '\x0d'

theorem clean_octalEscape (byte : UInt8) : ∀ c ∈ octalEscape byte, Clean c := by
  have bound : byte.toNat < 256 := byte.toNat_lt
  have digit : ∀ n < 8, Clean (octalDigit n) := by
    intro n small
    interval_cases n <;> exact ⟨by decide, by decide, by decide⟩
  rw [octalEscape]
  intro c member
  simp only [mem_cons, not_mem_nil, or_false] at member
  rcases member with rfl | rfl | rfl | rfl
  · exact ⟨by decide, by decide, by decide⟩
  · exact digit _ (by omega)
  · exact digit _ (by omega)
  exact digit _ (by omega)

theorem clean_escape (quotePath : Bool) (first c : Char)
    (member : c ∈ (escapeChar quotePath first).getD [first]) : Clean c := by
  rw [escapeChar] at member
  split_ifs at member with literal bell back tab feed vertical form carriage octal
  · simp only [Option.getD_some, mem_cons, not_mem_nil, or_false] at member
    rcases literal with rfl | rfl <;> rcases member with rfl | rfl <;>
      exact ⟨by decide, by decide, by decide⟩
  all_goals try
    simp only [Option.getD_some, mem_cons, not_mem_nil, or_false] at member
    rcases member with rfl | rfl <;> exact ⟨by decide, by decide, by decide⟩
  · rw [Option.getD_some, mem_flatMap] at member
    obtain ⟨byte, _, isDigit⟩ := member
    exact clean_octalEscape byte c isDigit
  rw [Option.getD_none, mem_singleton] at member
  exact member ▸ ⟨tab, feed, carriage⟩

theorem clean_quoteTwo (quotePath : Bool) (start path : List Char) :
    ∀ c ∈ quoteTwo quotePath start path, Clean c := by
  intro c member
  rw [quoteTwo] at member
  split_ifs at member with must
  · rw [quoted, cons_append, mem_cons, mem_append, mem_singleton, quoteChars, mem_flatMap] at member
    rcases member with rfl | ⟨first, _, isEscape⟩ | rfl
    · exact ⟨by decide, by decide, by decide⟩
    · exact clean_escape quotePath first c isEscape
    exact ⟨by decide, by decide, by decide⟩
  refine clean_escape quotePath c c ?_
  rw [any_eq_true, not_exists] at must
  have notEscaped : escapeChar quotePath c = none :=
    Option.not_isSome_iff_eq_none.1 fun isSome => must c ⟨member, isSome⟩
  rw [notEscaped]
  exact mem_singleton_self c

theorem headerName_label (value label : List Char) (noTab : '\t' ∉ label)
    (isValue : value = label ∨ value = label ++ ['\t']) :
    ((Text.splitOnce '\t' (String.ofList value)).map Prod.fst).getD (String.ofList value) =
      String.ofList label := by
  rw [Text.splitOnce, String.toList_ofList]
  rcases isValue with rfl | rfl
  · rw [if_neg noTab]
    rfl
  rw [if_pos (mem_append_right _ mem_cons_self), Option.map_some, Option.getD_some]
  have before : (label ++ ['\t']).takeWhile (· ≠ '\t') = label := by
    rw [takeWhile_append_of_pos]
    · simp
    intro c member
    exact decide_eq_true fun same => noTab (same ▸ member)
  rw [before]

variable {rest more : List Char} {start : String}

theorem stripPrefix_of_ne (isStart : start.toList = first :: more) (different : first ≠ c) :
    Text.stripPrefix start (String.ofList (c :: rest)) = none := by
  rw [Text.stripPrefix, String.toList_ofList, isStart, if_neg]
  rw [List.isPrefixOf_iff_prefix, cons_prefix_cons]
  exact fun both => different both.1

theorem strip_header (start : String) (isStart : start = "a/" ∨ start = "b/") (path : List Char) :
    ((Text.stripPrefix "a/" (String.ofList (start.toList ++ path))).or
      (Text.stripPrefix "b/" (String.ofList (start.toList ++ path)))).getD
        (String.ofList (start.toList ++ path)) = String.ofList path := by
  rcases isStart with rfl | rfl
  · rw [stripPrefix_append]
    rfl
  have other : Text.stripPrefix "a/" (String.ofList ("b/".toList ++ path)) = none :=
    stripPrefix_of_ne rfl (by decide)
  rw [other, stripPrefix_append]
  rfl

theorem headerName_none (quotePath : Bool) (start : List Char) :
    headerName quotePath start none = "/dev/null".toList :=
  rfl

theorem headerName_some (quotePath : Bool) (start : List Char) (path : String) :
    headerName quotePath start (some path) =
      if ' ' ∈ quoteTwo quotePath start path.toList then quoteTwo quotePath start path.toList ++ ['\t']
      else quoteTwo quotePath start path.toList :=
  rfl

theorem gitPatchHeaderPath_headerName (quotePath : Bool) (marker start : String)
    (isStart : start = "a/" ∨ start = "b/") (name : Option String) :
    gitPatchHeaderPath (String.ofList (marker.toList ++ headerName quotePath start.toList name))
      marker = name := by
  rw [gitPatchHeaderPath, stripPrefix_append, Option.bind_eq_bind, Option.bind_some]
  cases name with
  | none =>
    have label := headerName_label "/dev/null".toList "/dev/null".toList (by decide) (.inl rfl)
    rw [String.ofList_toList] at label
    rw [headerName_none, String.ofList_toList]
    dsimp only
    rw [label, if_pos rfl]
  | some path =>
    have noTab : '\t' ∉ quoteTwo quotePath start.toList path.toList :=
      fun member => (clean_quoteTwo _ _ _ _ member).1 rfl
    have value : headerName quotePath start.toList (some path) =
        quoteTwo quotePath start.toList path.toList ∨
        headerName quotePath start.toList (some path) =
          quoteTwo quotePath start.toList path.toList ++ ['\t'] := by
      by_cases space : ' ' ∈ quoteTwo quotePath start.toList path.toList
      · exact .inr (headerName_some quotePath start.toList path ▸ if_pos space)
      exact .inl (headerName_some quotePath start.toList path ▸ if_neg space)
    dsimp only
    rw [headerName_label _ _ noTab value, quoteTwo]
    obtain ⟨letter, more, isLetter, notQuote, notSlash⟩ : ∃ letter more,
        start.toList = letter :: more ∧ letter ≠ '"' ∧ letter ≠ '/' := by
      rcases isStart with rfl | rfl
      · exact ⟨'a', ['/'], rfl, by decide, by decide⟩
      exact ⟨'b', ['/'], rfl, by decide, by decide⟩
    by_cases must : (start.toList ++ path.toList).any
        (fun c => (escapeChar quotePath c).isSome) = true
    · rw [if_pos must, if_neg, if_pos]
      · have back := parseGitQuotedPath_quoted quotePath (String.ofList (start.toList ++ path.toList))
        rw [String.toList_ofList] at back
        rw [back, Option.bind_some, strip_header start isStart, String.ofList_toList]
      · rw [Text.startsWith, String.toList_ofList, String.toList_ofList, quoted,
          isPrefixOf_iff_prefix, cons_append]
        exact cons_prefix_cons.2 ⟨rfl, nil_prefix⟩
      · intro same
        have chars := congrArg String.toList same
        rw [String.toList_ofList, quoted] at chars
        exact absurd (List.cons.inj chars).1 (by decide)
    rw [if_neg must, if_neg, if_neg]
    · rw [Option.bind_some, strip_header start isStart, String.ofList_toList]
    · rw [Text.startsWith, isLetter, String.toList_ofList, String.toList_ofList,
        isPrefixOf_iff_prefix]
      exact fun quote => notQuote (cons_prefix_cons.1 quote).1.symm
    intro same
    have chars := congrArg String.toList same
    rw [String.toList_ofList, isLetter] at chars
    exact notSlash (List.cons.inj chars).1
def seen (line : List Char) : String :=
  String.ofList (withoutReturn line)

theorem startsWith_seen (noReturn : start.toList.getLast? ≠ some '\x0d')
    (rest : List Char) : startsWith start (seen (start.toList ++ rest)) = true := by
  rw [startsWith, seen, String.toList_ofList, isPrefixOf_iff_prefix]
  cases rest with
  | nil =>
    rw [append_nil, withoutReturn, if_neg noReturn]
  | cons c more =>
    rw [Text.withoutReturn_append (cons_ne_nil c more)]
    exact prefix_append _ _

theorem not_startsWith_seen {line : List Char} (different : ¬ start.toList <+: line) :
    startsWith start (seen line) = false := by
  rw [startsWith, seen, String.toList_ofList, Bool.eq_false_iff, ne_eq, isPrefixOf_iff_prefix]
  exact fun isPrefix => different (isPrefix.trans (Text.withoutReturn_prefix line))

theorem startsWith_other {marker : String}
    (differ : ¬ start.toList <+: marker.toList ∧ ¬ marker.toList <+: start.toList) (rest : List Char) :
    startsWith start (seen (marker.toList ++ rest)) = false := by
  refine not_startsWith_seen fun isPrefix => ?_
  rcases prefix_or_prefix_of_prefix isPrefix (prefix_append marker.toList rest) with
    first | second
  · exact differ.1 first
  exact differ.2 second

theorem not_prefix_of_ne (different : first ≠ c) : ¬ first :: more <+: c :: rest :=
  fun isPrefix => different (cons_prefix_cons.1 isPrefix).1

theorem seen_cons (noReturn : c ≠ '\x0d') (rest : List Char) :
    ∃ more, (seen (c :: rest)).toList = c :: more := by
  rw [seen, String.toList_ofList]
  cases rest with
  | nil =>
    refine ⟨[], ?_⟩
    rw [withoutReturn, if_neg]
    exact fun same => noReturn (Option.some.inj same)
  | cons next others =>
    refine ⟨withoutReturn (next :: others), ?_⟩
    exact @Text.withoutReturn_append [c] _ (cons_ne_nil next others)

theorem decimal_digits (n : ℕ) : (Text.decimal n).toList = Nat.toDigits 10 n := by
  change (String.ofList (Nat.toDigits 10 n)).toList = _
  exact String.toList_ofList

theorem parseU32_unsigned {text : List Char} (noSign : ∀ rest, text ≠ '+' :: rest) : parseU32 text =
      if text ≠ [] ∧ text.all Char.isDigit ∧ Nat.ofDigitChars 10 text 0 ≤ u32Max then
        some (Nat.ofDigitChars 10 text 0) else none := by
  rw [parseU32]
  · exact noSign

theorem parseU32_decimal (bounded : n ≤ u32Max) : parseU32 (Text.decimal n).toList = some n := by
  have value : Nat.ofDigitChars 10 (Text.decimal n).toList 0 = n := by
    rw [decimal_digits, Nat.ofDigitChars_ten_toDigits]
  have nonempty : (Text.decimal n).toList ≠ [] := by
    rw [decimal_digits]
    exact Nat.toDigits_ne_nil
  have digits : ∀ c ∈ (Text.decimal n).toList, c.isDigit = true :=
    fun c member => Text.isDigit_of_mem_decimal member
  have noSign : ∀ rest, (Text.decimal n).toList ≠ '+' :: rest := by
    intro rest isPlus
    have plus := digits '+' (isPlus ▸ mem_cons_self)
    exact absurd plus (by decide)
  rw [parseU32_unsigned noSign, value, if_pos ⟨nonempty, all_eq_true.2 digits, bounded⟩]

theorem range_digits (start count : ℕ) : ∀ c ∈ range start count, c.isDigit = true ∨ c = ',' := by
  intro c member
  rw [DiffOutput.range] at member
  rcases mem_append.1 member with isStart | isCount
  · exact .inl (Text.isDigit_of_mem_decimal isStart)
  split_ifs at isCount
  · cases isCount
  rcases mem_cons.1 isCount with rfl | isDigit
  · exact .inr rfl
  exact .inl (Text.isDigit_of_mem_decimal isDigit)

theorem parseU32_range {start : ℕ} (bounded : start ≤ u32Max) (count : ℕ) :
    parseU32 ((range start count).takeWhile (· ≠ ',')) = some start := by
  have digits : (range start count).takeWhile (· ≠ ',') = (Text.decimal start).toList := by
    rw [DiffOutput.range, takeWhile_append_of_pos]
    · split_ifs <;> simp
    intro c member
    refine decide_eq_true fun same => ?_
    have digit := Text.isDigit_of_mem_decimal member
    rw [same] at digit
    exact absurd digit (by decide)
  rw [digits, parseU32_decimal bounded]

theorem header_eq (hunk : Hunk) : hunk.header = "@@ -".toList ++
    (range hunk.oldStart (hunk.lines.countP HunkLine.inOld) ++ " +".toList ++
      (range hunk.newStart (hunk.lines.countP HunkLine.inNew) ++ " @@".toList ++ hunk.headingText)) :=
  rfl

theorem header_seen (hunk : Hunk) : ∃ tail, withoutReturn hunk.header = "@@ -".toList ++
    (range hunk.oldStart (hunk.lines.countP HunkLine.inOld) ++ " +".toList ++
      (range hunk.newStart (hunk.lines.countP HunkLine.inNew) ++ " @@".toList ++ tail)) := by
  have atEnd : ∃ more, withoutReturn (" @@".toList ++ hunk.headingText) = " @@".toList ++ more := by
    cases hunk.headingText with
    | nil => exact ⟨[], by decide⟩
    | cons c rest => exact ⟨_, Text.withoutReturn_append (cons_ne_nil c rest)⟩
  obtain ⟨more, isMore⟩ := atEnd
  have nonempty : " @@".toList ++ hunk.headingText ≠ [] :=
    append_ne_nil_of_left_ne_nil (by decide) hunk.headingText
  refine ⟨more, ?_⟩
  rw [header_eq, append_assoc (range hunk.newStart _), append_assoc _ " @@".toList more,
    ← isMore, Text.withoutReturn_append, Text.withoutReturn_append, Text.withoutReturn_append]
  · exact nonempty
  · exact append_ne_nil_of_right_ne_nil _ nonempty
  exact append_ne_nil_of_right_ne_nil _ (append_ne_nil_of_right_ne_nil _ nonempty)

theorem parsePatchHunkStart_ranges {old new : List Char} (noOldSpace : ' ' ∉ old)
    (noNewSpace : ' ' ∉ new) (tail : List Char) :
    parsePatchHunkStart (String.ofList ("@@ -".toList ++
        (old ++ " +".toList ++ (new ++ " @@".toList ++ tail)))) =
      (parseU32 (old.takeWhile (· ≠ ','))).bind fun old =>
        (parseU32 (new.takeWhile (· ≠ ','))).map fun new => (old, new) := by
  have first : Search.splitOnce " +".toList (old ++ " +".toList ++ (new ++ " @@".toList ++ tail)) =
      some (old, new ++ " @@".toList ++ tail) :=
    Search.splitOnce_of_notMem noOldSpace
  have second : Search.splitOnce " @@".toList (new ++ " @@".toList ++ tail) = some (new, tail) :=
    Search.splitOnce_of_notMem noNewSpace
  rw [parsePatchHunkStart, stripPrefix_append, Option.bind_eq_bind, Option.bind_some,
    @String.toList_ofList (old ++ " +".toList ++ (new ++ " @@".toList ++ tail)), first,
    Option.bind_eq_bind, Option.bind_some]
  dsimp only
  rw [second, Option.bind_eq_bind, Option.bind_some]
  dsimp only
  cases parseU32 (old.takeWhile (· ≠ ',')) with
  | none => rfl
  | some oldStart => cases parseU32 (new.takeWhile (· ≠ ',')) <;> rfl

theorem parsePatchHunkStart_header (hunk : Hunk) :
    parsePatchHunkStart (seen hunk.header) = some (hunk.oldStart, hunk.newStart) := by
  obtain ⟨tail, isSeen⟩ := header_seen hunk
  have noSpace : ∀ start count, ' ' ∉ range start count := by
    intro start count member
    rcases range_digits start count ' ' member with digit | comma
    · exact absurd digit (by decide)
    exact absurd comma (by decide)
  have oldBound : hunk.oldStart ≤ u32Max := by
    have bounded := hunk.oldBounded
    rw [u32Max]
    omega
  have newBound : hunk.newStart ≤ u32Max := by
    have bounded := hunk.newBounded
    rw [u32Max]
    omega
  rw [seen, isSeen, parsePatchHunkStart_ranges (noSpace _ _) (noSpace _ _), parseU32_range oldBound,
    parseU32_range newBound]
  rfl

def ReviewCodeSide.diffSide : ReviewCodeSide → Side
  | .additions => .new
  | .deletions => .old

/-- Whether the last old and new file headers that the scanner saw name the path. -/
def headerFlags (path : String) (flags : Bool × Bool) (line : HunkLine) : Bool × Bool :=
  if startsWith "--- " (seen line.render) then
    (gitPatchHeaderPath (seen line.render) "--- " = some path, flags.2)
  else if startsWith "+++ " (seen line.render) then
    (flags.1, gitPatchHeaderPath (seen line.render) "+++ " = some path)
  else flags

/-- The hunks of a section that the scanner takes for the path. -/
def takenHunks (path : String) : Bool × Bool → List Hunk → List Hunk
  | _, [] => []
  | flags, hunk :: rest =>
    if flags.1 || flags.2 then hunk :: rest
    else takenHunks path (hunk.lines.foldl (headerFlags path) flags) rest

/-- A hunk of another file changes the line, and a changed line in an earlier hunk of that file looks
like the file header of the path. -/
def TakenOver (files : List FileSection) (path : String) (side : ReviewCodeSide) (number : ℕ) : Prop :=
  ∃ file ∈ files, ¬ file.Names path ∧ ∃ hunk ∈ takenHunks path (false, false) file.hunks,
    hunk.Changes side.diffSide number

theorem takenHunks_of_match {path : String} {flags : Bool × Bool} (isMatch : (flags.1 || flags.2) = true)
    (hunks : List Hunk) : takenHunks path flags hunks = hunks := by
  cases hunks with
  | nil => rfl
  | cons hunk rest => rw [takenHunks, if_pos isMatch]

section Scanning

variable {path : String} {side : ReviewCodeSide} {target : ℕ} {scan : PatchScan}

variable (path side target) in
def scanAll (scan : PatchScan) (lines : List (List Char)) : Option PatchScan :=
  (lines.map seen).foldlM (scanLine path side target) scan

theorem scanAll_cons (line : List Char) (rest : List (List Char)) :
    scanAll path side target scan (line :: rest) =
      (scanLine path side target scan (seen line)).bind fun scan =>
        scanAll path side target scan rest := by
  rw [scanAll, map_cons, foldlM_cons]
  rfl

theorem scanAll_append (first second : List (List Char)) :
    scanAll path side target scan (first ++ second) =
      (scanAll path side target scan first).bind fun scan =>
        scanAll path side target scan second := by
  rw [scanAll, map_append, foldlM_append]
  rfl

theorem scan_title (title : List Char) :
    scanLine path side target scan (seen ("diff --git ".toList ++ title)) =
      some { scan with oldPathMatches := false, newPathMatches := false, inHunk := false } := by
  rw [scanLine, if_pos (startsWith_seen (by decide) title)]

variable {line : List Char}

theorem scan_plain (plain : ∀ marker ∈ markers, ¬ marker <+: line)
    (outside : scan.inHunk = false) : scanLine path side target scan (seen line) = some scan := by
  have none : ∀ marker : String, marker.toList ∈ markers → ¬ startsWith marker (seen line) = true :=
    fun marker member => by
      rw [not_startsWith_seen (plain _ member)]
      exact Bool.false_ne_true
  rw [scanLine, if_neg (none "diff --git " (by decide)), if_neg (none "@@ " (by decide)), outside,
    if_neg Bool.false_ne_true, if_neg (none "--- " (by decide)), if_neg (none "+++ " (by decide))]

theorem scan_extended (lines : List ExtendedLine) (outside : scan.inHunk = false) :
    scanAll path side target scan (lines.map fun line => line.chars) = some scan := by
  induction lines with
  | nil => rfl
  | cons line rest ih =>
    rw [map_cons, scanAll_cons, scan_plain line.plain outside, Option.bind_some, ih]

theorem seen_of_noReturn (noReturn : '\x0d' ∉ line) : seen line = String.ofList line := by
  rw [seen, withoutReturn, if_neg]
  exact fun isLast => noReturn (mem_of_getLast? isLast)

theorem headerName_clean (quotePath : Bool) (start : List Char) (name : Option String) :
    ∀ c ∈ headerName quotePath start name, c ≠ '\n' ∧ c ≠ '\x0d' := by
  cases name with
  | none =>
    rw [headerName_none]
    exact fun c member => ⟨fun same => absurd (same ▸ member) (by decide),
      fun same => absurd (same ▸ member) (by decide)⟩
  | some path =>
    rw [headerName_some]
    intro c member
    have label : ∀ c ∈ quoteTwo quotePath start path.toList, c ≠ '\n' ∧ c ≠ '\x0d' :=
      fun c member => (clean_quoteTwo _ _ _ _ member).2
    split_ifs at member
    · rcases mem_append.1 member with isLabel | isTab
      · exact label c isLabel
      · rw [mem_singleton.1 isTab]
        decide
    exact label c member

theorem seen_headerName {marker : String} (noReturn : '\x0d' ∉ marker.toList) (quotePath : Bool)
    (start : List Char) (name : Option String) :
    seen (marker.toList ++ headerName quotePath start name) =
      String.ofList (marker.toList ++ headerName quotePath start name) := by
  refine seen_of_noReturn fun member => ?_
  rcases mem_append.1 member with isMarker | isName
  · exact noReturn isMarker
  exact (headerName_clean quotePath start name _ isName).2 rfl

section

variable (outside : scan.inHunk = false) (quotePath : Bool)
include outside quotePath

theorem scan_oldPath (name : Option String) :
    scanLine path side target scan (seen ("--- ".toList ++ headerName quotePath "a/".toList name)) =
      some { scan with oldPathMatches := name = some path } := by
  have isPath : gitPatchHeaderPath (seen ("--- ".toList ++ headerName quotePath "a/".toList name))
      "--- " = name := by
    rw [seen_headerName (by decide)]
    exact gitPatchHeaderPath_headerName quotePath "--- " "a/" (.inl rfl) name
  rw [scanLine, startsWith_other (by decide), if_neg Bool.false_ne_true, startsWith_other (by decide),
    if_neg Bool.false_ne_true, outside, if_neg Bool.false_ne_true,
    if_pos (startsWith_seen (by decide) _), isPath]

theorem scan_newPath (name : Option String) :
    scanLine path side target scan (seen ("+++ ".toList ++ headerName quotePath "b/".toList name)) =
      some { scan with newPathMatches := name = some path } := by
  have isPath : gitPatchHeaderPath (seen ("+++ ".toList ++ headerName quotePath "b/".toList name))
      "+++ " = name := by
    rw [seen_headerName (by decide)]
    exact gitPatchHeaderPath_headerName quotePath "+++ " "b/" (.inr rfl) name
  rw [scanLine, startsWith_other (by decide), if_neg Bool.false_ne_true, startsWith_other (by decide),
    if_neg Bool.false_ne_true, outside, if_neg Bool.false_ne_true, startsWith_other (by decide),
    if_neg Bool.false_ne_true, if_pos (startsWith_seen (by decide) _), isPath]

theorem scan_fileHeader (old new : Option String) : scanAll path side target scan [
      "--- ".toList ++ headerName quotePath "a/".toList old,
      "+++ ".toList ++ headerName quotePath "b/".toList new] = some { scan with
        oldPathMatches := old = some path
        newPathMatches := new = some path } := by
  obtain ⟨next, isNext, stillOutside⟩ : ∃ next : PatchScan,
      next = { scan with oldPathMatches := old = some path } ∧ next.inHunk = false :=
    ⟨_, rfl, outside⟩
  rw [scanAll_cons, scan_oldPath outside, Option.bind_some, ← isNext, scanAll_cons,
    scan_newPath stillOutside, isNext]
  rfl

end

theorem scan_hunkHeader (hunk : Hunk) :
    scanLine path side target scan (seen hunk.header) = some { scan with
      oldLine := hunk.oldStart
      newLine := hunk.newStart
      inHunk := scan.oldPathMatches || scan.newPathMatches } := by
  obtain ⟨rest, isHeader⟩ : ∃ rest, hunk.header = "@@ ".toList ++ rest :=
    ⟨'-' :: _, header_eq hunk⟩
  have title : startsWith "diff --git " (seen hunk.header) = false := by
    rw [isHeader]
    exact startsWith_other (by decide) rest
  have start : startsWith "@@ " (seen hunk.header) = true := by
    rw [isHeader]
    exact startsWith_seen (by decide) rest
  rw [scanLine, title, if_neg Bool.false_ne_true, if_pos start, parsePatchHunkStart_header]

theorem render_context (text : LineText) : (HunkLine.context text).render = ' ' :: text.chars :=
  rfl

theorem render_removed (text : LineText) : (HunkLine.removed text).render = '-' :: text.chars :=
  rfl

theorem render_added (text : LineText) : (HunkLine.added text).render = '+' :: text.chars :=
  rfl

theorem render_noNewline :
    HunkLine.noNewline.render = '\\' :: " No newline at end of file".toList :=
  rfl

theorem render_start (line : HunkLine) : ∃ c rest, line.render = c :: rest ∧
    (c = ' ' ∨ c = '-' ∨ c = '+' ∨ c = '\\') := by
  cases line with
  | context text => exact ⟨' ', text.chars, rfl, .inl rfl⟩
  | removed text => exact ⟨'-', text.chars, rfl, .inr (.inl rfl)⟩
  | added text => exact ⟨'+', text.chars, rfl, .inr (.inr (.inl rfl))⟩
  | noNewline => exact ⟨'\\', " No newline at end of file".toList, rfl, .inr (.inr (.inr rfl))⟩

theorem hunkLine_noHeader (line : HunkLine) : startsWith "diff --git " (seen line.render) = false ∧
    startsWith "@@ " (seen line.render) = false := by
  obtain ⟨c, rest, isRender, isStart⟩ := render_start line
  have notTitle : 'd' ≠ c := by rcases isStart with rfl | rfl | rfl | rfl <;> decide
  have notHunk : '@' ≠ c := by rcases isStart with rfl | rfl | rfl | rfl <;> decide
  rw [isRender]
  exact ⟨not_startsWith_seen (not_prefix_of_ne notTitle),
    not_startsWith_seen (not_prefix_of_ne notHunk)⟩

def PatchScan.lineOn (scan : PatchScan) : ReviewCodeSide → ℕ
  | .additions => scan.newLine
  | .deletions => scan.oldLine

def PatchScan.advance (scan : PatchScan) (line : HunkLine) : PatchScan :=
  { scan with
    oldLine := if line.inOld then nextLine scan.oldLine else scan.oldLine
    newLine := if line.inNew then nextLine scan.newLine else scan.newLine }

theorem scan_inside (line : HunkLine) (inside : scan.inHunk = true) :
    scanLine path side target scan (seen line.render) =
      if line.changes side.diffSide = true ∧ scan.lineOn side = target then none
      else some (scan.advance line) := by
  obtain ⟨notTitle, notHunk⟩ := hunkLine_noHeader line
  rw [scanLine, notTitle, if_neg Bool.false_ne_true, notHunk, if_neg Bool.false_ne_true,
    if_pos inside]
  cases line with
  | context text =>
    obtain ⟨more, isSeen⟩ := seen_cons (show ' ' ≠ '\x0d' by decide) text.chars
    simp only [render_context, scanHunkLine, isSeen, PatchScan.advance]
    cases side <;> simp [HunkLine.changes, ReviewCodeSide.diffSide, HunkLine.inOld, HunkLine.inNew]
  | removed text =>
    obtain ⟨more, isSeen⟩ := seen_cons (show '-' ≠ '\x0d' by decide) text.chars
    simp only [render_removed, scanHunkLine, isSeen, PatchScan.advance]
    cases side <;> simp [HunkLine.changes, ReviewCodeSide.diffSide, HunkLine.inOld, HunkLine.inNew,
      PatchScan.lineOn]
  | added text =>
    obtain ⟨more, isSeen⟩ := seen_cons (show '+' ≠ '\x0d' by decide) text.chars
    simp only [render_added, scanHunkLine, isSeen, PatchScan.advance]
    cases side <;> simp [HunkLine.changes, ReviewCodeSide.diffSide, HunkLine.inOld, HunkLine.inNew,
      PatchScan.lineOn]
  | noNewline =>
    obtain ⟨more, isSeen⟩ := seen_cons (show '\\' ≠ '\x0d' by decide)
      " No newline at end of file".toList
    simp only [render_noNewline, scanHunkLine, isSeen, PatchScan.advance]
    cases side <;> simp [HunkLine.changes, ReviewCodeSide.diffSide, HunkLine.inOld, HunkLine.inNew]

variable {lines : List HunkLine}

theorem inside_keeps {after : PatchScan} (inside : scan.inHunk = true)
    (isAfter : scanAll path side target scan (lines.map HunkLine.render) = some after) :
    after.oldPathMatches = scan.oldPathMatches ∧ after.newPathMatches = scan.newPathMatches := by
  induction lines generalizing scan with
  | nil =>
    cases isAfter
    exact ⟨rfl, rfl⟩
  | cons line rest ih =>
    rw [map_cons, scanAll_cons, scan_inside line inside] at isAfter
    split at isAfter
    · cases isAfter
    rw [Option.bind_some] at isAfter
    exact @ih (scan.advance line) inside isAfter

theorem nextLine_eq {number : ℕ} (bounded : number + 1 ≤ u32Max) : nextLine number = number + 1 :=
  Nat.min_eq_left bounded

def sideCount (side : ReviewCodeSide) (lines : List HunkLine) : ℕ :=
  match side with
  | .additions => lines.countP HunkLine.inNew
  | .deletions => lines.countP HunkLine.inOld

theorem advance_lineOn {line : HunkLine} {rest : List HunkLine}
    (bounded : scan.lineOn side + sideCount side (line :: rest) ≤ u32Max) :
    (scan.advance line).lineOn side = scan.lineOn side + sideCount side [line] := by
  cases side with
  | additions =>
    rw [sideCount, countP_cons, PatchScan.lineOn] at bounded
    rw [PatchScan.lineOn, PatchScan.advance, sideCount, countP_singleton, PatchScan.lineOn]
    cases isNew : line.inNew with
    | true =>
      rw [isNew, if_pos rfl] at bounded
      rw [if_pos rfl, if_pos rfl]
      exact nextLine_eq (by omega)
    | false => rw [if_neg Bool.false_ne_true, if_neg Bool.false_ne_true, Nat.add_zero]
  | deletions =>
    rw [sideCount, countP_cons, PatchScan.lineOn] at bounded
    rw [PatchScan.lineOn, PatchScan.advance, sideCount, countP_singleton, PatchScan.lineOn]
    cases isOld : line.inOld with
    | true =>
      rw [isOld, if_pos rfl] at bounded
      rw [if_pos rfl, if_pos rfl]
      exact nextLine_eq (by omega)
    | false => rw [if_neg Bool.false_ne_true, if_neg Bool.false_ne_true, Nat.add_zero]

theorem sideCount_cons (side : ReviewCodeSide) (line : HunkLine) (more : List HunkLine) :
    sideCount side (line :: more) = sideCount side [line] + sideCount side more := by
  have split : line :: more = [line] ++ more := rfl
  rw [split]
  cases side <;> exact countP_append

theorem inside_isNone (inside : scan.inHunk = true)
    (bounded : scan.lineOn side + sideCount side lines ≤ u32Max) :
    scanAll path side target scan (lines.map HunkLine.render) = none ↔
      ∃ before line after, lines = before ++ line :: after ∧
        line.changes side.diffSide = true ∧ scan.lineOn side + sideCount side before = target := by
  induction lines generalizing scan with
  | nil =>
    constructor
    · intro found
      cases found
    rintro ⟨before, line, after, same, _⟩
    exact absurd same.symm (append_ne_nil_of_right_ne_nil _ (cons_ne_nil _ _))
  | cons line rest ih =>
    have start : sideCount side [] = 0 := by cases side <;> rfl
    have cons := sideCount_cons side line
    rw [map_cons, scanAll_cons, scan_inside line inside]
    by_cases here : line.changes side.diffSide = true ∧ scan.lineOn side = target
    · rw [if_pos here]
      refine ⟨fun _ => ⟨[], line, rest, rfl, here.1, ?_⟩, fun _ => rfl⟩
      rw [start, Nat.add_zero]
      exact here.2
    have next := advance_lineOn bounded
    have stillInside : (scan.advance line).inHunk = true := inside
    have stillBounded : (scan.advance line).lineOn side + sideCount side rest ≤ u32Max := by
      rw [next, Nat.add_assoc, ← cons]
      exact bounded
    have later := ih stillInside stillBounded
    rw [if_neg here, Option.bind_some, later, next]
    constructor
    · rintro ⟨before, changed, after, rfl, isChange, isNumber⟩
      refine ⟨line :: before, changed, after, rfl, isChange, ?_⟩
      rw [cons, ← Nat.add_assoc]
      exact isNumber
    rintro ⟨before, changed, after, same, isChange, isNumber⟩
    cases before with
    | nil =>
      obtain ⟨rfl, rfl⟩ := List.cons.inj same
      rw [start, Nat.add_zero] at isNumber
      exact absurd ⟨isChange, isNumber⟩ here
    | cons first others =>
      obtain ⟨rfl, rfl⟩ := List.cons.inj same
      refine ⟨others, changed, after, rfl, isChange, ?_⟩
      rw [cons, ← Nat.add_assoc] at isNumber
      exact isNumber

def PatchScan.flags (scan : PatchScan) : Bool × Bool :=
  (scan.oldPathMatches, scan.newPathMatches)

def PatchScan.withFlags (scan : PatchScan) (flags : Bool × Bool) : PatchScan :=
  { scan with oldPathMatches := flags.1, newPathMatches := flags.2 }

theorem scan_outside (line : HunkLine) (outside : scan.inHunk = false) :
    scanLine path side target scan (seen line.render) =
      some (scan.withFlags (headerFlags path scan.flags line)) := by
  obtain ⟨notTitle, notHunk⟩ := hunkLine_noHeader line
  have notInside : ¬ scan.inHunk = true := by
    rw [outside]
    exact Bool.false_ne_true
  rw [scanLine, notTitle, if_neg Bool.false_ne_true, notHunk, if_neg Bool.false_ne_true,
    if_neg notInside, headerFlags]
  split
  · rfl
  split <;> rfl

theorem scanAll_outside (lines : List HunkLine) (outside : scan.inHunk = false) :
    scanAll path side target scan (lines.map HunkLine.render) =
      some (scan.withFlags (lines.foldl (headerFlags path) scan.flags)) := by
  induction lines generalizing scan with
  | nil => rfl
  | cons line rest ih =>
    have still : (scan.withFlags (headerFlags path scan.flags line)).inHunk = false := outside
    rw [map_cons, scanAll_cons, scan_outside line outside, Option.bind_some, ih still]
    rfl

/-! ### Hunks, sections and patches -/

theorem bind_isNone {α β : Type} {first : Option α} {next : α → Option β} {p q : Prop}
    (isFirst : first = none ↔ p) (isNext : ∀ value, first = some value → (next value = none ↔ q)) :
    first.bind next = none ↔ p ∨ q := by
  cases found : first with
  | none => exact ⟨fun _ => .inl (isFirst.1 found), fun _ => rfl⟩
  | some value =>
    have notFirst : ¬ p := fun holds => by
      rw [isFirst.2 holds] at found
      cases found
    rw [Option.bind_some, isNext value found]
    exact ⟨.inr, fun either => either.resolve_left notFirst⟩

def PatchScan.enter (scan : PatchScan) (hunk : Hunk) : PatchScan :=
  { scan with
    oldLine := hunk.oldStart
    newLine := hunk.newStart
    inHunk := scan.oldPathMatches || scan.newPathMatches }

theorem enter_flags (scan : PatchScan) (hunk : Hunk) : (scan.enter hunk).flags = scan.flags :=
  rfl

theorem withFlags_flags (scan : PatchScan) (flags : Bool × Bool) :
    (scan.withFlags flags).flags = flags :=
  rfl

theorem enter_bounded (scan : PatchScan) (hunk : Hunk) :
    (scan.enter hunk).lineOn side + sideCount side hunk.lines ≤ u32Max := by
  have old := hunk.oldBounded
  have new := hunk.newBounded
  rw [u32Max]
  cases side with
  | additions => exact Nat.le_pred_of_lt new
  | deletions => exact Nat.le_pred_of_lt old

theorem enter_changes (scan : PatchScan) (hunk : Hunk) :
    (∃ before line after, hunk.lines = before ++ line :: after ∧ line.changes side.diffSide = true ∧
        (scan.enter hunk).lineOn side + sideCount side before = target) ↔
      hunk.Changes side.diffSide target := by
  cases side <;> exact Iff.rfl

theorem scan_hunks (hunks : List Hunk) :
    scanAll path side target scan (hunks.flatMap Hunk.render) = none ↔
      ∃ hunk ∈ takenHunks path scan.flags hunks, hunk.Changes side.diffSide target := by
  induction hunks generalizing scan with
  | nil =>
    constructor
    · intro found
      cases found
    rintro ⟨hunk, member, _⟩
    cases member
  | cons hunk rest ih =>
    have header : scanLine path side target scan (seen hunk.header) = some (scan.enter hunk) :=
      scan_hunkHeader hunk
    rw [flatMap_cons, Hunk.render, cons_append, scanAll_cons, header, Option.bind_some,
      scanAll_append]
    cases isMatch : scan.flags.1 || scan.flags.2 with
    | true =>
      have inside : (scan.enter hunk).inHunk = true := isMatch
      have here : scanAll path side target (scan.enter hunk) (hunk.lines.map HunkLine.render) =
          none ↔ hunk.Changes side.diffSide target :=
        (inside_isNone inside (enter_bounded scan hunk)).trans (enter_changes scan hunk)
      have later : ∀ after, scanAll path side target (scan.enter hunk)
          (hunk.lines.map HunkLine.render) = some after →
          (scanAll path side target after (rest.flatMap Hunk.render) = none ↔
            ∃ hunk ∈ rest, hunk.Changes side.diffSide target) := by
        intro after isAfter
        obtain ⟨old, new⟩ := inside_keeps inside isAfter
        have stillMatch : (after.flags.1 || after.flags.2) = true := by
          rw [PatchScan.flags, old, new]
          exact isMatch
        rw [ih, takenHunks_of_match stillMatch]
      rw [bind_isNone here later, takenHunks_of_match isMatch, exists_mem_cons_iff]
    | false =>
      have outside : (scan.enter hunk).inHunk = false := isMatch
      have noMatch : ¬ (scan.flags.1 || scan.flags.2) = true := by
        rw [isMatch]
        exact Bool.false_ne_true
      rw [scanAll_outside hunk.lines outside, Option.bind_some, ih, withFlags_flags, enter_flags,
        takenHunks, if_neg noMatch]

def hunksTaken (path : String) (file : FileSection) : List Hunk :=
  takenHunks path (file.oldPath = some path, file.newPath = some path) file.hunks

theorem scan_file (quotePath : Bool) (file : FileSection) :
    scanAll path side target scan (file.lines quotePath) = none ↔
      ∃ hunk ∈ hunksTaken path file, hunk.Changes side.diffSide target := by
  obtain ⟨start, isStart, outside⟩ : ∃ start : PatchScan, scanLine path side target scan
      (seen ("diff --git ".toList ++ file.title.chars)) = some start ∧ start.inHunk = false :=
    ⟨_, scan_title file.title.chars, rfl⟩
  rw [FileSection.lines, cons_append, cons_append, scanAll_cons, isStart, Option.bind_some,
    scanAll_append, scanAll_append, scan_extended file.extended outside, Option.bind_some,
    FileSection.fileHeader]
  cases noHunks : file.hunks with
  | nil =>
    rw [isEmpty_nil, if_pos rfl, hunksTaken, noHunks]
    constructor
    · intro found
      cases found
    rintro ⟨hunk, member, _⟩
    cases member
  | cons first rest =>
    rw [isEmpty_cons, if_neg Bool.false_ne_true, scan_fileHeader outside, Option.bind_some,
      hunksTaken, noHunks]
    exact scan_hunks (first :: rest)

theorem scan_files (quotePath : Bool) (files : List FileSection) :
    scanAll path side target scan (files.flatMap (FileSection.lines quotePath)) = none ↔
      ∃ file ∈ files, ∃ hunk ∈ hunksTaken path file, hunk.Changes side.diffSide target := by
  induction files generalizing scan with
  | nil =>
    constructor
    · intro found
      cases found
    rintro ⟨file, member, _⟩
    cases member
  | cons file rest ih =>
    rw [flatMap_cons, scanAll_append,
      bind_isNone (scan_file quotePath file) (fun _ _ => ih), exists_mem_cons_iff]

end Scanning

theorem header_noFeed (hunk : Hunk) : '\n' ∉ hunk.header := by
  have noFeed : ∀ start count, '\n' ∉ range start count := by
    intro start count member
    rcases range_digits start count '\n' member with digit | comma
    · exact absurd digit (by decide)
    exact absurd comma (by decide)
  have noHeading : '\n' ∉ hunk.headingText := by
    rw [Hunk.headingText]
    split
    · exact not_mem_nil
    rename_i heading _
    exact not_mem_cons_of_ne_of_not_mem (by decide) heading.noFeed
  rw [header_eq]
  simp only [mem_append, not_or]
  exact ⟨by decide, ⟨noFeed _ _, by decide⟩, ⟨noFeed _ _, by decide⟩, noHeading⟩

theorem hunk_noFeed (hunk : Hunk) : ∀ line ∈ hunk.render, '\n' ∉ line := by
  intro line member
  rcases mem_cons.1 member with rfl | isLine
  · exact header_noFeed hunk
  obtain ⟨hunkLine, _, rfl⟩ := mem_map.1 isLine
  cases hunkLine with
  | context text => exact not_mem_cons_of_ne_of_not_mem (by decide) text.noFeed
  | removed text => exact not_mem_cons_of_ne_of_not_mem (by decide) text.noFeed
  | added text => exact not_mem_cons_of_ne_of_not_mem (by decide) text.noFeed
  | noNewline => decide

theorem render_noFeed (quotePath : Bool) (files : List FileSection) :
    ∀ line ∈ files.flatMap (FileSection.lines quotePath), '\n' ∉ line := by
  intro line member
  obtain ⟨file, _, isLine⟩ := mem_flatMap.1 member
  have name : ∀ marker start (path : Option String), '\n' ∉ marker →
      '\n' ∉ marker ++ headerName quotePath start path := by
    intro marker start path noMarker isFeed
    rcases mem_append.1 isFeed with inMarker | inName
    · exact noMarker inMarker
    exact (headerName_clean quotePath start path _ inName).1 rfl
  rw [FileSection.lines, append_assoc, mem_append, mem_cons, mem_append] at isLine
  rcases isLine with (rfl | isExtended) | isHeader | isHunk
  · intro isFeed
    rcases mem_append.1 isFeed with inStart | inTitle
    · exact absurd inStart (by decide)
    exact file.title.noFeed inTitle
  · obtain ⟨extended, _, rfl⟩ := mem_map.1 isExtended
    exact extended.noFeed
  · rw [FileSection.fileHeader] at isHeader
    split_ifs at isHeader
    · cases isHeader
    rw [mem_cons, mem_singleton] at isHeader
    rcases isHeader with rfl | rfl
    · exact name _ _ _ (by decide)
    exact name _ _ _ (by decide)
  obtain ⟨hunk, _, isLine⟩ := mem_flatMap.1 isHunk
  exact hunk_noFeed hunk line isLine

theorem patchContainsChangedLine_render (quotePath : Bool) (files : List FileSection) (path : String)
    (side : ReviewCodeSide) (target : ℕ) :
    patchContainsChangedLine (render quotePath files) path side target = true ↔
      ∃ file ∈ files, ∃ hunk ∈ hunksTaken path file, hunk.Changes side.diffSide target := by
  rw [patchContainsChangedLine, render, Text.lines_terminated (render_noFeed quotePath files),
    Option.isNone_iff_eq_none]
  exact scan_files quotePath files

theorem taken_iff (files : List FileSection) (path : String) (side : ReviewCodeSide) (target : ℕ) :
    (∃ file ∈ files, ∃ hunk ∈ hunksTaken path file, hunk.Changes side.diffSide target) ↔
      Changed files path side.diffSide target ∨ TakenOver files path side target := by
  have named : ∀ {file : FileSection}, file.Names path → hunksTaken path file = file.hunks := by
    intro file names
    refine takenHunks_of_match ?_ file.hunks
    rw [Bool.or_eq_true]
    exact names.imp decide_eq_true decide_eq_true
  have other : ∀ {file : FileSection}, ¬ file.Names path →
      hunksTaken path file = takenHunks path (false, false) file.hunks := by
    intro file notNames
    rw [hunksTaken, decide_eq_false fun old => notNames (.inl old),
      decide_eq_false fun new => notNames (.inr new)]
  constructor
  · rintro ⟨file, member, hunk, isTaken, changes⟩
    by_cases names : file.Names path
    · exact .inl ⟨file, member, names, hunk, named names ▸ isTaken, changes⟩
    exact .inr ⟨file, member, names, hunk, other names ▸ isTaken, changes⟩
  rintro (⟨file, member, names, hunk, isHunk, changes⟩ | ⟨file, member, names, hunk, isTaken, changes⟩)
  · exact ⟨file, member, hunk, (named names).symm ▸ isHunk, changes⟩
  exact ⟨file, member, hunk, (other names).symm ▸ isTaken, changes⟩

/-! ### Findings -/

/-- A line that names the path in the header of a file. -/
def isHeaderOf (path line : String) : Bool :=
  startsWith "+++ " line && gitPatchHeaderPath line "+++ " = some path ||
    startsWith "--- " line && gitPatchHeaderPath line "--- " = some path

def PatchScan.isMatch (scan : PatchScan) : Bool :=
  scan.oldPathMatches || scan.newPathMatches || scan.inHunk

/-- A scanner that matches matched before the line, or the line is a header of the path. -/
theorem scanLine_isMatch {path line : String} {side : ReviewCodeSide} {target : ℕ}
    {scan after : PatchScan} (scanned : scanLine path side target scan line = some after)
    (isMatch : after.isMatch = true) : scan.isMatch = true ∨ isHeaderOf path line = true := by
  simp only [scanLine, scanHunkLine] at scanned
  simp only [PatchScan.isMatch, isHeaderOf] at isMatch ⊢
  split at scanned
  · cases scanned
    cases isMatch
  split at scanned
  · split at scanned <;> cases scanned <;> grind
  split at scanned
  · rename_i inside
    exact .inl (by simp [inside])
  split at scanned
  · cases scanned
    grind
  split at scanned
  · cases scanned
    grind
  cases scanned
  exact .inl isMatch

theorem scanLine_eq_none {path line : String} {side : ReviewCodeSide} {target : ℕ} {scan : PatchScan}
    (found : scanLine path side target scan line = none) : scan.isMatch = true := by
  by_contra outside
  have noHunk : scan.inHunk = false := by
    simp only [PatchScan.isMatch, Bool.or_eq_true, not_or, Bool.not_eq_true] at outside
    exact outside.2
  simp only [scanLine, noHunk, Bool.false_eq_true, if_false] at found
  repeat' split at found
  all_goals cases found

/-- The scanner finds a line only in a patch that names the file. -/
theorem patchNamesFile_of_contains {patch path : String} {side : ReviewCodeSide} {target : ℕ}
    (contains : patchContainsChangedLine patch path side target = true) :
    patchNamesFile patch path = true := by
  rw [patchContainsChangedLine, Option.isNone_iff_eq_none] at contains
  have always : ∀ (lines : List String) (scan : PatchScan),
      lines.foldlM (scanLine path side target) scan = none →
        scan.isMatch = true ∨ ∃ line ∈ lines, isHeaderOf path line = true := by
    intro lines
    induction lines with
    | nil => exact fun _ found => nomatch found
    | cons line rest ih =>
      intro scan found
      cases scanned : scanLine path side target scan line with
      | none => exact .inl (scanLine_eq_none scanned)
      | some after =>
        rw [foldlM_cons, scanned] at found
        rcases ih after found with isMatch | ⟨header, inRest, isHeader⟩
        · exact (scanLine_isMatch scanned isMatch).imp_right fun isHeader =>
            ⟨line, mem_cons_self, isHeader⟩
        exact .inr ⟨header, mem_cons_of_mem _ inRest, isHeader⟩
  exact any_eq_true.2 ((always _ PatchScan.start contains).resolve_left (by decide))

/-- Where a finding is looked for, in the order of the search. -/
def places (finding : ParsedFinding) (reviewed : List (CodeReviewRepository × String)) :
    List ((CodeReviewRepository × String) × String × ReviewCodeSide) :=
  let candidates := findingCandidates finding reviewed
  (candidates.flatMap fun candidate =>
    (findingPaths finding candidates).map fun path => (candidate, path)).flatMap
      fun (candidate, path) => (findingSides finding).map fun side => (candidate, path, side)

theorem findSome?_filter_of_isSome {α β : Type} {keeps : α → Bool} {find : α → Option β}
    (kept : ∀ item, (find item).isSome → keeps item = true) (items : List α) :
    (items.filter keeps).findSome? find = items.findSome? find := by
  induction items with
  | nil => rfl
  | cons item rest ih =>
    rw [filter_cons]
    split
    · rw [findSome?_cons, findSome?_cons, ih]
    rename_i dropped
    have none : find item = none := Option.not_isSome_iff_eq_none.1 fun some => dropped (kept item some)
    rw [ih, findSome?_cons, none]

/-- The first of the places of a finding at which the scanner finds the line. -/
def firstPlace (finding : ParsedFinding) (reviewed : List (CodeReviewRepository × String)) (line : ℕ) :
    Option ((CodeReviewRepository × String) × String × ReviewCodeSide) :=
  (places finding reviewed).find? fun place =>
    patchContainsChangedLine place.1.2 place.2.1 place.2.2 line

/-- The search for a place gives the repository, the line and the side of the first one. -/
theorem anchorFinding_eq (finding : ParsedFinding)
    (reviewed : List (CodeReviewRepository × String)) :
    (anchorFinding finding reviewed).2.map (fun anchor => ((anchorFinding finding reviewed).1, anchor)) =
      finding.line.bind fun line => (firstPlace finding reviewed line).map fun place =>
        (some place.1.1.repositoryId, line, place.2.2) := by
  have ending : ∀ (found : Option (String × ℕ × ReviewCodeSide)) (other : Option String),
      let result : Option String × Option (ℕ × ReviewCodeSide) :=
        match found with
        | some (repositoryId, line, side) => (some repositoryId, some (line, side))
        | none => (other, none)
      result.2.map (fun anchor => (result.1, anchor)) =
        found.map fun (repositoryId, line, side) => (some repositoryId, line, side) := by
    rintro (_ | _) other <;> rfl
  rw [anchorFinding]
  refine (ending _ _).trans ?_
  simp only [firstPlace, places, find?_flatMap, find?_map]
  rw [findSome?_filter_of_isSome]
  · cases finding.line with
    | none => simp
    | some line =>
      simp only [Option.bind_some, map_findSome?]
      congr 1
      funext pair
      simp only [comp_apply, Option.map_map]
      rfl
  · rintro ⟨⟨repository, patch⟩, path⟩ found
    obtain ⟨_, isFound⟩ := Option.isSome_iff_exists.1 found
    obtain ⟨line, _, isSide⟩ := Option.bind_eq_some_iff.1 isFound
    obtain ⟨side, first, _⟩ := Option.map_eq_some_iff.1 isSide
    have contains := find?_some first
    exact patchNamesFile_of_contains contains

/-- A finding is anchored at the first of its places at which the scanner finds its line. -/
theorem anchorFinding_eq_some_iff {finding : ParsedFinding}
    {reviewed : List (CodeReviewRepository × String)} {owner : Option String} {line : ℕ}
    {side : ReviewCodeSide} :
    anchorFinding finding reviewed = (owner, some (line, side)) ↔
      finding.line = some line ∧ ∃ place, firstPlace finding reviewed line = some place ∧
        owner = some place.1.1.repositoryId ∧ side = place.2.2 := by
  have same := anchorFinding_eq finding reviewed
  generalize anchorFinding finding reviewed = result at same
  constructor
  · rintro rfl
    obtain ⟨line, isLine, isPlace⟩ := Option.bind_eq_some_iff.1 same.symm
    obtain ⟨place, first, isResult⟩ := Option.map_eq_some_iff.1 isPlace
    cases isResult
    exact ⟨isLine, place, first, rfl, rfl⟩
  rintro ⟨isLine, place, first, rfl, rfl⟩
  rw [isLine, Option.bind_some, first] at same
  obtain ⟨anchor, isAnchor, isResult⟩ := Option.map_eq_some_iff.1 same
  obtain ⟨isOwner, rfl⟩ := Prod.mk.inj isResult
  exact Prod.ext isOwner isAnchor

/-- A repository of a review with the files of its patch, and whether git quotes their paths. -/
abbrev ReviewedFiles := CodeReviewRepository × Bool × List FileSection

/-- The patches that Git prints for the reviewed repositories. -/
def rendered (reviewed : List ReviewedFiles) : List (CodeReviewRepository × String) :=
  reviewed.map fun entry => (entry.1, render entry.2.1 entry.2.2)

/-- A path that a finding names in a repository: its own, or what follows the repository's label. -/
def ParsedFinding.Names (finding : ParsedFinding) (repository : CodeReviewRepository) (path : String) :
    Prop :=
  path = finding.filePath ∨
    Text.stripPrefix (repository.repositoryLabel ++ "/") finding.filePath = some path

/-- The repository has the line changed in a file that the finding names in it. -/
def ParsedFinding.NamesChange (finding : ParsedFinding) (reviewed : List ReviewedFiles)
    (repositoryId : String) (line : ℕ) (side : ReviewCodeSide) : Prop :=
  ∃ entry ∈ reviewed, entry.1.repositoryId = repositoryId ∧
    ∃ path, finding.Names entry.1 path ∧ Changed entry.2.2 path side.diffSide line

/-- The line is changed at a place of the search, or taken over there. -/
def Met (reviewed : List ReviewedFiles) (line : ℕ) :
    (CodeReviewRepository × String) × String × ReviewCodeSide → Prop
  | (candidate, path, side) => ∃ entry ∈ reviewed, (entry.1, render entry.2.1 entry.2.2) = candidate ∧
      (Changed entry.2.2 path side.diffSide line ∨ TakenOver entry.2.2 path side line)

/-- The first place of the search at which the line is changed or taken over. -/
def FirstMet (finding : ParsedFinding) (reviewed : List ReviewedFiles) (line : ℕ)
    (place : (CodeReviewRepository × String) × String × ReviewCodeSide) : Prop :=
  Met reviewed line place ∧ ∃ before after, places finding (rendered reviewed) = before ++ place :: after ∧
    ∀ other ∈ before, ¬ Met reviewed line other

theorem met_iff {finding : ParsedFinding} {reviewed : List ReviewedFiles} {line : ℕ}
    {place : (CodeReviewRepository × String) × String × ReviewCodeSide}
    (member : place ∈ places finding (rendered reviewed)) :
    patchContainsChangedLine place.1.2 place.2.1 place.2.2 line = true ↔ Met reviewed line place := by
  have exact : ∀ entry : ReviewedFiles,
      patchContainsChangedLine (render entry.2.1 entry.2.2) place.2.1 place.2.2 line = true ↔
        Changed entry.2.2 place.2.1 place.2.2.diffSide line ∨
          TakenOver entry.2.2 place.2.1 place.2.2 line :=
    fun entry => (patchContainsChangedLine_render _ _ _ _ _).trans (taken_iff _ _ _ _)
  obtain ⟨⟨candidate, path⟩, isPair, isPlace⟩ := mem_flatMap.1 member
  obtain ⟨side, _, rfl⟩ := mem_map.1 isPlace
  obtain ⟨other, isCandidate, isPath⟩ := mem_flatMap.1 isPair
  obtain ⟨_, _, same⟩ := mem_map.1 isPath
  obtain ⟨rfl, _⟩ := Prod.mk.inj same
  have isReviewed : other ∈ rendered reviewed := by
    rw [findingCandidates] at isCandidate
    dsimp only at isCandidate
    split at isCandidate
    · exact isCandidate
    exact mem_of_mem_filter isCandidate
  obtain ⟨entry, inReview, rfl⟩ := mem_map.1 isReviewed
  constructor
  · exact fun contains => ⟨entry, inReview, rfl, (exact entry).1 contains⟩
  rintro ⟨other, _, same, met⟩
  have sameText : render other.2.1 other.2.2 = render entry.2.1 entry.2.2 := congrArg Prod.snd same
  have contains := (exact other).2 met
  rwa [sameText] at contains

theorem firstPlace_eq_some_iff {finding : ParsedFinding} {reviewed : List ReviewedFiles} {line : ℕ}
    {place : (CodeReviewRepository × String) × String × ReviewCodeSide} :
    firstPlace finding (rendered reviewed) line = some place ↔ FirstMet finding reviewed line place := by
  rw [firstPlace, find?_eq_some_iff_append]
  constructor
  · rintro ⟨contains, before, after, split, none⟩
    have inside : ∀ other ∈ before ++ place :: after, other ∈ places finding (rendered reviewed) :=
      split ▸ fun _ member => member
    refine ⟨(met_iff (inside place (by simp))).1 contains, before, after, split, ?_⟩
    intro other isBefore met
    have contains := (met_iff (inside other (mem_append_left _ isBefore))).2 met
    have not := none other isBefore
    rw [contains] at not
    cases not
  rintro ⟨met, before, after, split, none⟩
  have inside : ∀ other ∈ before ++ place :: after, other ∈ places finding (rendered reviewed) :=
    split ▸ fun _ member => member
  refine ⟨(met_iff (inside place (by simp))).2 met, before, after, split, ?_⟩
  intro other isBefore
  rw [Bool.not_eq_true', Bool.eq_false_iff]
  exact fun contains => none other isBefore
    ((met_iff (inside other (mem_append_left _ isBefore))).1 contains)

def queryPatch : List FileSection := [{
  title := ⟨"a/query.sql b/query.sql".toList, by decide⟩
  extended := []
  oldPath := some "query.sql"
  newPath := some "query.sql"
  hunks := [{
    oldStart := 1
    newStart := 1
    heading := none
    lines := [.removed ⟨"-- a/src/lib.rs".toList, by decide⟩, .context ⟨"select 1;".toList, by decide⟩]
    oldBounded := by decide
    newBounded := by decide }, {
    oldStart := 20
    newStart := 19
    heading := none
    lines := [.added ⟨"select 2;".toList, by decide⟩]
    oldBounded := by decide
    newBounded := by decide }] }]

/-- The patch of one file, to which line 10 is added. -/
def addedTo (path : String) : List FileSection := [{
  title := ⟨[], by decide⟩
  extended := []
  oldPath := some path
  newPath := some path
  hunks := [{
    oldStart := 9
    newStart := 10
    heading := none
    lines := [.added ⟨"next".toList, by decide⟩]
    oldBounded := by decide
    newBounded := by decide }] }]

def labelledReview : List ReviewedFiles :=
  [(⟨"1", "api"⟩, false, addedTo "src/a.ts"), (⟨"2", "web"⟩, false, addedTo "src/b.ts")]

def labelledFinding : ParsedFinding where
  repository := none
  filePath := "web/src/a.ts"
  line := some 10
  side := none

end Wts.PatchLines
