/-
Module: Wts.Git.DiffOutput
Purpose: The patch that `git diff` prints with the prefixes `a/` and `b/`: a section for each file,
  with its hunks, and the lines of a file that a patch changes.
Trusted boundary: a context line is printed with its space (`diff.suppressBlankEmpty` is off), and the
  line numbers of a hunk are those of a file that git compares as text, below 2 ^ 32.
-/
import Wts.Library.Text

namespace Wts.DiffOutput

/-- The text of a line, which has no line feed. -/
structure LineText where
  chars : List Char
  noFeed : '\n' ∉ chars

/-! ### Hunks -/

inductive Side where
  | old
  | new

inductive HunkLine where
  | context (text : LineText)
  | removed (text : LineText)
  | added (text : LineText)
  | noNewline

namespace HunkLine

/-- The line is one of the old file. -/
def inOld : HunkLine → Bool
  | context _ => true
  | removed _ => true
  | added _ => false
  | noNewline => false

/-- The line is one of the new file. -/
def inNew : HunkLine → Bool
  | context _ => true
  | removed _ => false
  | added _ => true
  | noNewline => false

def render : HunkLine → List Char
  | context text => ' ' :: text.chars
  | removed text => '-' :: text.chars
  | added text => '+' :: text.chars
  | noNewline => '\\' :: " No newline at end of file".toList

/-- The line is a change on a side. -/
def changes : Side → HunkLine → Bool
  | .old, removed _ => true
  | .new, added _ => true
  | _, _ => false

end HunkLine

structure Hunk where
  oldStart : ℕ
  newStart : ℕ
  heading : Option LineText
  lines : List HunkLine
  oldBounded : oldStart + lines.countP HunkLine.inOld < 2 ^ 32
  newBounded : newStart + lines.countP HunkLine.inNew < 2 ^ 32

/-- A range of lines in the header of a hunk; a count of one is left out. -/
def range (start count : ℕ) : List Char :=
  (Text.decimal start).toList ++ if count = 1 then [] else ',' :: (Text.decimal count).toList

namespace Hunk

/-- The text after the ranges of a header, such as the name of a function. -/
def headingText (hunk : Hunk) : List Char :=
  match hunk.heading with
  | none => []
  | some heading => ' ' :: heading.chars

def header (hunk : Hunk) : List Char :=
  "@@ -".toList ++ (range hunk.oldStart (hunk.lines.countP HunkLine.inOld) ++ " +".toList ++
    (range hunk.newStart (hunk.lines.countP HunkLine.inNew) ++ " @@".toList ++ hunk.headingText))

def render (hunk : Hunk) : List (List Char) :=
  hunk.header :: hunk.lines.map HunkLine.render

/-- The number on a side of the line after some lines of the hunk. -/
def number (hunk : Hunk) (before : List HunkLine) : Side → ℕ
  | .old => hunk.oldStart + before.countP HunkLine.inOld
  | .new => hunk.newStart + before.countP HunkLine.inNew

/-- The hunk changes the line with a number: it is removed from the old file, or added to the new one. -/
def Changes (hunk : Hunk) (side : Side) (number : ℕ) : Prop :=
  ∃ before line after, hunk.lines = before ++ line :: after ∧ line.changes side = true ∧
    hunk.number before side = number

end Hunk

def octalDigit (n : ℕ) : Char :=
  Char.ofNat (48 + n)

def octalEscape (byte : UInt8) : List Char :=
  ['\\', octalDigit (byte.toNat / 64), octalDigit (byte.toNat / 8 % 8), octalDigit (byte.toNat % 8)]

/-- How a character that must be quoted is printed; `quotePath` quotes all bytes from 0x80. -/
def escapeChar (quotePath : Bool) (c : Char) : Option (List Char) :=
  if c = '"' ∨ c = '\\' then some ['\\', c]
  else if c = '\x07' then some ['\\', 'a']
  else if c = '\x08' then some ['\\', 'b']
  else if c = '\t' then some ['\\', 't']
  else if c = '\n' then some ['\\', 'n']
  else if c = '\x0b' then some ['\\', 'v']
  else if c = '\x0c' then some ['\\', 'f']
  else if c = '\x0d' then some ['\\', 'r']
  else if c.toNat < 0x20 ∨ c.toNat = 0x7f ∨ (quotePath = true ∧ 0x80 ≤ c.toNat) then
    some ((String.utf8EncodeChar c).flatMap octalEscape)
  else none

def quoteChars (quotePath : Bool) (path : List Char) : List Char :=
  path.flatMap fun c => (escapeChar quotePath c).getD [c]

/-- The quoted form of a path. -/
def quoted (quotePath : Bool) (path : List Char) : List Char :=
  '"' :: quoteChars quotePath path ++ ['"']

/-- A path behind its prefix, quoted where it must be. -/
def quoteTwo (quotePath : Bool) (start path : List Char) : List Char :=
  if (start ++ path).any fun c => (escapeChar quotePath c).isSome then
    quoted quotePath (start ++ path)
  else start ++ path

/-- A path in a file header; a tab ends one with a space in it. -/
def headerName (quotePath : Bool) (start : List Char) : Option String → List Char
  | none => "/dev/null".toList
  | some path =>
    let label := quoteTwo quotePath start path.toList
    if ' ' ∈ label then label ++ ['\t'] else label

/-- How the lines start that are not extended header lines. -/
def markers : List (List Char) :=
  ["diff --git ".toList, "@@ ".toList, "--- ".toList, "+++ ".toList]

/-- A line between the title of a section and its hunks, such as a mode, a rename or an index line. -/
structure ExtendedLine extends LineText where
  plain : ∀ marker ∈ markers, ¬ marker <+: chars

/-- The section of a file; a path is missing for a file that is added or deleted. -/
structure FileSection where
  title : LineText
  extended : List ExtendedLine
  oldPath : Option String
  newPath : Option String
  hunks : List Hunk

namespace FileSection

/-- The file header comes with hunks only. -/
def fileHeader (quotePath : Bool) (file : FileSection) : List (List Char) :=
  if file.hunks.isEmpty then []
  else [
    "--- ".toList ++ headerName quotePath "a/".toList file.oldPath,
    "+++ ".toList ++ headerName quotePath "b/".toList file.newPath]

def lines (quotePath : Bool) (file : FileSection) : List (List Char) :=
  ("diff --git ".toList ++ file.title.chars) :: file.extended.map (fun line => line.chars) ++
    file.fileHeader quotePath ++ file.hunks.flatMap Hunk.render

/-- The section is one of a path. -/
def Names (file : FileSection) (path : String) : Prop :=
  file.oldPath = some path ∨ file.newPath = some path

end FileSection

/-- The patch as text. -/
def render (quotePath : Bool) (files : List FileSection) : String :=
  String.ofList ((files.flatMap (FileSection.lines quotePath)).flatMap fun line => line ++ ['\n'])

/-- The patch changes a line of a path. -/
def Changed (files : List FileSection) (path : String) (side : Side) (number : ℕ) : Prop :=
  ∃ file ∈ files, file.Names path ∧ ∃ hunk ∈ file.hunks, hunk.Changes side number

end Wts.DiffOutput
