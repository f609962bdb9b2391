/-
Module: Wts.App.PatchLines
Purpose: Where the findings of a code review are anchored: the scanner of a patch for a changed line of
  a file, the paths in the file headers, and the choice of repository and line for a finding.
Trusted boundary: a u32 is a natural number with its bounds; the other fields of a finding and of a
  reviewed repository are left out.
-/
import Wts.Integrations.GitlabValues
import Wts.Library.Lines
import Wts.Library.Search
import Wts.Library.Utf8

namespace Wts.PatchLines

open Text

inductive ReviewCodeSide where
  | additions
  | deletions
deriving DecidableEq

def u32Max : ℕ := 2 ^ 32 - 1

/-- `u32::saturating_add(1)`. -/
def nextLine (number : ℕ) : ℕ :=
  min (number + 1) u32Max

/-! ### Headers -/

def parseU32 (text : List Char) : Option ℕ :=
  let digits :=
    match text with
    | '+' :: rest => rest
    | _ => text
  if digits ≠ [] ∧ digits.all Char.isDigit ∧ Nat.ofDigitChars 10 digits 0 ≤ u32Max then
    some (Nat.ofDigitChars 10 digits 0)
  else none

def parsePatchHunkStart (header : String) : Option (ℕ × ℕ) := do
  let header ← stripPrefix "@@ -" header
  let (old, newAndTail) ← Search.splitOnce " +".toList header.toList
  let (new, _) ← Search.splitOnce " @@".toList newAndTail
  let old ← parseU32 (old.takeWhile (· ≠ ','))
  let new ← parseU32 (new.takeWhile (· ≠ ','))
  some (old, new)

/-- The byte that a letter after a backslash stands for. -/
def letterEscape (escaped : UInt8) : Option UInt8 :=
  if escaped = 0x22 ∨ escaped = 0x5c then some escaped
  else if escaped = 0x61 then some 0x07
  else if escaped = 0x62 then some 0x08
  else if escaped = 0x74 then some 0x09
  else if escaped = 0x6e then some 0x0a
  else if escaped = 0x76 then some 0x0b
  else if escaped = 0x66 then some 0x0c
  else if escaped = 0x72 then some 0x0d
  else none

def isOctal (byte : UInt8) : Bool :=
  0x30 ≤ byte && byte ≤ 0x37

/-- Further octal digits, with the arithmetic of a u8 that saturates, and the bytes after them. -/
def octalDigits : ℕ → ℕ → List UInt8 → ℕ × List UInt8
  | count + 1, value, next :: rest =>
    if isOctal next then octalDigits count (min (min (value * 8) 255 + (next.toNat - 0x30)) 255) rest
    else (value, next :: rest)
  | _, value, rest => (value, rest)

/-- The bytes between the quotes. Each step takes at least one byte. -/
def unescape : ℕ → List UInt8 → Option (List UInt8)
  | _, [] => some []
  | 0, _ => none
  | fuel + 1, byte :: rest =>
    if byte ≠ 0x5c then (unescape fuel rest).map (byte :: ·)
    else
      match rest with
      | [] => none
      | escaped :: rest =>
        match letterEscape escaped with
        | some value => (unescape fuel rest).map (value :: ·)
        | none =>
          if isOctal escaped then
            let (value, rest) := octalDigits 2 (escaped.toNat - 0x30) rest
            (unescape fuel rest).map (UInt8.ofNat value :: ·)
          else none

def parseGitQuotedPath (value : String) : Option String := do
  let value ← stripPrefix "\"" value
  let value ← Gitlab.stripSuffix "\"" value
  let bytes ← unescape (utf8Bytes value).length (utf8Bytes value)
  Utf8.fromUtf8 bytes

def gitPatchHeaderPath (line marker : String) : Option String := do
  let value ← stripPrefix marker line
  let value := ((splitOnce '\t' value).map Prod.fst).getD value
  if value = "/dev/null" then none
  else
    let value ← if startsWith "\"" value then parseGitQuotedPath value else some value
    some (((stripPrefix "a/" value).or (stripPrefix "b/" value)).getD value)

structure PatchScan where
  oldPathMatches : Bool
  newPathMatches : Bool
  inHunk : Bool
  oldLine : ℕ
  newLine : ℕ

def PatchScan.start : PatchScan where
  oldPathMatches := false
  newPathMatches := false
  inHunk := false
  oldLine := 0
  newLine := 0

/-- A line inside a hunk of the file. -/
def scanHunkLine (side : ReviewCodeSide) (targetLine : ℕ) (scan : PatchScan) (line : String) :
    Option PatchScan :=
  match line.toList with
  | '+' :: _ =>
    if side = .additions ∧ scan.newLine = targetLine then none
    else some { scan with newLine := nextLine scan.newLine }
  | '-' :: _ =>
    if side = .deletions ∧ scan.oldLine = targetLine then none
    else some { scan with oldLine := nextLine scan.oldLine }
  | ' ' :: _ =>
    some { scan with oldLine := nextLine scan.oldLine, newLine := nextLine scan.newLine }
  | '\\' :: _ => some scan
  | [] => some scan
  | _ => some { scan with inHunk := false }

/-- A line of the patch; there is no state after it when the changed line is found. -/
def scanLine (filePath : String) (side : ReviewCodeSide) (targetLine : ℕ) (scan : PatchScan)
    (line : String) : Option PatchScan :=
  if startsWith "diff --git " line then
    some { scan with oldPathMatches := false, newPathMatches := false, inHunk := false }
  else if startsWith "@@ " line then
    match parsePatchHunkStart line with
    | none => some { scan with inHunk := false }
    | some (old, new) =>
      some { scan with
        oldLine := old
        newLine := new
        inHunk := scan.oldPathMatches || scan.newPathMatches }
  else if scan.inHunk then scanHunkLine side targetLine scan line
  else if startsWith "--- " line then
    some { scan with oldPathMatches := gitPatchHeaderPath line "--- " = some filePath }
  else if startsWith "+++ " line then
    some { scan with newPathMatches := gitPatchHeaderPath line "+++ " = some filePath }
  else some scan

def patchContainsChangedLine (patch filePath : String) (side : ReviewCodeSide) (targetLine : ℕ) :
    Bool :=
  ((lines patch).foldlM (scanLine filePath side targetLine) PatchScan.start).isNone

def patchNamesFile (patch path : String) : Bool :=
  (lines patch).any fun line =>
    (startsWith "+++ " line && gitPatchHeaderPath line "+++ " = some path) ||
      (startsWith "--- " line && gitPatchHeaderPath line "--- " = some path)

structure CodeReviewRepository where
  repositoryId : String
  repositoryLabel : String

structure ParsedFinding where
  repository : Option String
  filePath : String
  line : Option ℕ
  side : Option ReviewCodeSide

/-- The repositories that a finding can be of: all, if it names none of them. -/
def findingCandidates (finding : ParsedFinding) (reviewed : List (CodeReviewRepository × String)) :
    List (CodeReviewRepository × String) :=
  let named := finding.repository.map Gitlab.toAsciiLowercase
  let candidates := reviewed.filter fun (repository, _) => named.all fun name =>
    Gitlab.eqIgnoreAsciiCase repository.repositoryLabel name ||
      Gitlab.eqIgnoreAsciiCase repository.repositoryId name
  if candidates.isEmpty then reviewed else candidates

/-- The path of a finding, also without the label of a repository in front. -/
def findingPaths (finding : ParsedFinding) (candidates : List (CodeReviewRepository × String)) :
    List String :=
  finding.filePath :: candidates.filterMap fun (repository, _) =>
    stripPrefix (repository.repositoryLabel ++ "/") finding.filePath

/-- The sides in the order in which they are tried. -/
def findingSides (finding : ParsedFinding) : List ReviewCodeSide :=
  match finding.side with
  | some .deletions => [.deletions, .additions]
  | _ => [.additions, .deletions]

/-- Finds the repository and changed line that a finding names. -/
def anchorFinding (finding : ParsedFinding) (reviewed : List (CodeReviewRepository × String)) :
    Option String × Option (ℕ × ReviewCodeSide) :=
  let candidates := findingCandidates finding reviewed
  let paths := findingPaths finding candidates
  let inPatch := (candidates.flatMap fun candidate => paths.map fun path => (candidate, path)).filter
    fun ((_, patch), path) => patchNamesFile patch path
  let found := inPatch.findSome? fun ((repository, patch), path) =>
    finding.line.bind fun line =>
      ((findingSides finding).find? fun side => patchContainsChangedLine patch path side line).map
        fun side => (repository.repositoryId, line, side)
  match found with
  | some (repositoryId, line, side) => (some repositoryId, some (line, side))
  | none =>
    let fileOwner := inPatch.head?.map fun ((repository, _), _) => repository.repositoryId
    let onlyCandidate :=
      match candidates with
      | [(repository, _)] => some repository.repositoryId
      | _ => none
    (fileOwner.or onlyCandidate, none)

end Wts.PatchLines
