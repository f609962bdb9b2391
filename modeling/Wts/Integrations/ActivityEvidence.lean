/-
Module: Wts.Integrations.ActivityEvidence
Purpose: What one recorded activity contributes to a daily review: its kind, the Jira issue it names
  or suggests, and the texts that may be shown, an application and a context, from which private
  looking tokens are removed.
-/
import Wts.Library.Text
import Wts.Library.Words

namespace Wts.ActivityWatch

open Text Words

inductive SessionKind where
  | coding
  | agent
  | browser
  | communication
  | terminal
  | other
deriving DecidableEq

inductive ActivitySource where
  | window
  | browser
  | editor
  | afk
deriving DecidableEq

structure JiraActiveIssue where
  issueKey : String
  summary : String
  status : String

/-- The strings of an event's data; one that is absent or no string is empty. -/
structure EventData where
  app : String
  title : String
  url : String
  project : String
  status : Option String

structure DerivedActivity where
  start : ℤ
  stop : ℤ
  kind : SessionKind
  description : String
  application : Option String
  activityEvidence : Option String
  jiraIssueKey : Option String
  suggestedJiraIssueKey : Option String
  jiraSuggestionConfidence : Option ℕ
  jiraSuggestionReason : Option String
  priority : ℕ

def maxApplicationEvidenceCharacters : ℕ := 48
def maxContextEvidenceCharacters : ℕ := 120

def toAsciiLowercase (text : String) : String :=
  String.ofList (text.toList.map Char.toLower)

def isAsciiPunctuation (c : Char) : Bool :=
  let n := c.toNat
  (33 ≤ n && n ≤ 47) || (58 ≤ n && n ≤ 64) || (91 ≤ n && n ≤ 96) || (123 ≤ n && n ≤ 126)

/-- `str::starts_with` on characters. -/
def startsWithText (start : String) (chars : List Char) : Bool :=
  start.toList.isPrefixOf chars

def containsAny (value : String) (needles : List String) : Bool :=
  needles.any fun needle => containsText needle value

def splitWhitespace (value : String) : List (List Char) :=
  words isWhitespace value.toList

def looksLikeWindowsPath : List Char → Bool
  | drive :: colon :: slash :: _ => drive.isAlpha && colon = ':' && (slash = '\\' || slash = '/')
  | _ => false

def secretNames : List String :=
  ["token=", "password=", "passwd=", "secret=", "authorization=", "api_key=", "apikey="]

def looksLikeSecretAssignment (lowered : List Char) : Bool :=
  secretNames.any fun start => startsWithText start lowered

/-- A token that `sanitize_evidence` removes as it stands. -/
def isPrivateToken (raw : List Char) : Bool :=
  let rawLowered := raw.map Char.toLower
  raw.contains '@' || startsWithText "http://" rawLowered || startsWithText "https://" rawLowered ||
    startsWithText "www." rawLowered || startsWithText "file://" rawLowered ||
    startsWithText "/" rawLowered || startsWithText "~/" rawLowered || looksLikeWindowsPath raw ||
    looksLikeSecretAssignment rawLowered

/-- The punctuation around a token. -/
def isSurrounding (c : Char) : Bool :=
  isAsciiPunctuation c && !(c = '-' || c = '_' || c = '.')

def credentialNames : List String :=
  ["token", "password", "passwd", "secret", "authorization", "api_key", "apikey"]

def looksLikeFileName (value : List Char) : Bool :=
  let trimmed := trimMatches (fun c => "()[]\x7b\x7d,;:".toList.contains c) value
  match rsplitOnce '.' trimmed with
  | none => false
  | some (stem, extension) =>
    !stem.isEmpty && 1 ≤ (String.ofList extension).utf8ByteSize &&
      (String.ofList extension).utf8ByteSize ≤ 8 && extension.all isAsciiAlphanumeric

/-- One token of a text: what is kept of it, and whether the next one is to be redacted. -/
def scanToken (redactNext : Bool) (raw : List Char) : Option (List Char) × Bool :=
  if isPrivateToken raw then
    (none, redactNext)
  else
    let token := trimMatches isSurrounding raw
    if token = [] then
      (none, redactNext)
    else if redactNext then
      (none, false)
    else if credentialNames.contains (String.ofList (token.map Char.toLower)) then
      (none, true)
    else if looksLikeFileName token then
      (none, false)
    else
      let clean := token.filter fun c => !isControl c
      (if clean = [] then none else some clean, false)

def keptTokens (redactNext : Bool) : List (List Char) → List (List Char)
  | [] => []
  | raw :: rest =>
    let (kept, next) := scanToken redactNext raw
    kept.toList ++ keptTokens next rest

def truncateCharacters (value : List Char) (maximumCharacters : ℕ) : List Char :=
  value.take maximumCharacters

def sanitizeEvidence (value : String) (maximumCharacters : ℕ) : List Char :=
  truncateCharacters (join [' '] (keptTokens false (splitWhitespace value))) maximumCharacters

def canonicalApplications : List (String × String) :=
  [("visual studio code", "Visual Studio Code"), ("google chrome", "Google Chrome"),
    ("microsoft edge", "Microsoft Edge"), ("brave browser", "Brave Browser"),
    ("intellij", "IntelliJ"), ("pycharm", "PyCharm"), ("firefox", "Firefox"), ("safari", "Safari"),
    ("slack", "Slack"), ("teams", "Microsoft Teams"), ("zoom", "Zoom"), ("warp", "Warp"),
    ("iterm", "iTerm"), ("terminal", "Terminal"), ("opencode", "OpenCode"), ("hermes", "Hermes"),
    ("codex", "Codex")]

/-- The label of an application that is known by a part of its name. -/
def canonicalApplication (value : String) : Option String :=
  (canonicalApplications.find? fun entry => containsText entry.1 (toAsciiLowercase value)).map
    Prod.snd

def kindApplication : SessionKind → Option String
  | .coding => some "Code editor"
  | .agent => some "Agent"
  | .browser => some "Browser"
  | .communication => some "Communication app"
  | .terminal => some "Terminal"
  | .other => none

def sanitizeApplication (value : String) (kind : SessionKind) : Option String :=
  match canonicalApplication value with
  | some label => some label
  | none =>
    let sanitized := sanitizeEvidence value maxApplicationEvidenceCharacters
    if sanitized = [] then kindApplication kind else some (String.ofList sanitized)

/-- The sanitized texts that are not empty, each once. -/
def evidenceParts (title project : String) : List (List Char) :=
  [title, project].foldl (fun parts value =>
    let sanitized := sanitizeEvidence value maxContextEvidenceCharacters
    if sanitized ≠ [] ∧ sanitized ∉ parts then parts ++ [sanitized] else parts) []

def sanitizeContextEvidence (title project : String) : Option String :=
  let joined := truncateCharacters (join " · ".toList (evidenceParts title project))
    maxContextEvidenceCharacters
  if joined = [] then none else some (String.ofList joined)

def isKeyCharacter (c : Char) : Bool :=
  isAsciiAlphanumeric c || c = '-' || c = '_'

/-- The shape of an issue key in a text. -/
def isJiraKey (token : List Char) : Bool :=
  match rsplitOnce '-' token with
  | none => false
  | some (project, number) =>
    2 ≤ (String.ofList project).utf8ByteSize &&
      project.all (fun c => c.isUpper || c.isDigit || c = '_') && !number.isEmpty &&
      number.all Char.isDigit

def findJiraIssueKey (value : String) : Option String :=
  ((value.toList.splitOnP fun c => !isKeyCharacter c).find? isJiraKey).map String.ofList

def commonTerms : List String :=
  ["active", "activity", "application", "browser", "chrome", "coding", "current", "editor", "file",
    "google", "https", "issue", "jira", "other", "project", "slack", "terminal", "visual", "window",
    "work", "workspace"]

def isMatchingTerm (term : List Char) : Bool :=
  4 ≤ term.length && term.any Char.isAlpha && !commonTerms.contains (String.ofList term)

def matchingTerms (value : String) : List String :=
  sortDedup
    ((((value.toList.splitOnP fun c => !isAsciiAlphanumeric c).map (List.map Char.toLower)).filter
      isMatchingTerm).map String.ofList)

structure SuggestionCandidate where
  issueKey : String
  confidence : ℕ
  overlap : ℕ

def suggestionCandidate (activityTerms : List String) (issue : JiraActiveIssue) :
    Option SuggestionCandidate :=
  let summaryTerms := matchingTerms issue.summary
  if summaryTerms.length < 2 then
    none
  else
    let overlap := (activityTerms.filter fun term => summaryTerms.contains term).length
    if overlap < 2 then
      none
    else
      let coverage := overlap * 100 / summaryTerms.length
      some {
        issueKey := issue.issueKey
        confidence := min (60 + overlap * 5 + coverage / 5) 95
        overlap := overlap }

/-- The best candidate comes first. -/
def candidateOrder (left right : SuggestionCandidate) : Bool :=
  right.confidence < left.confidence || left.confidence = right.confidence &&
    (right.overlap < left.overlap || left.overlap = right.overlap && left.issueKey ≤ right.issueKey)

def semanticJiraSuggestion (activityContext : String) (issues : List JiraActiveIssue) :
    Option (String × ℕ × String) :=
  let activityTerms := matchingTerms activityContext
  if activityTerms.length < 2 then
    none
  else
    match (issues.filterMap (suggestionCandidate activityTerms)).insertionSort
        fun left right => candidateOrder left right = true with
    | [] => none
    | best :: others =>
      if others.head?.any fun second =>
          second.confidence = best.confidence && second.overlap = best.overlap then
        none
      else
        some (best.issueKey, best.confidence,
          "Activity context matches " ++ decimal best.overlap ++
            " distinctive words in the Jira summary")

/-! ### Activities -/

def windowKind (lowered : String) : SessionKind :=
  if containsAny lowered ["code", "visual studio", "intellij", "pycharm", "xcode"] then
    .coding
  else if containsAny lowered
      ["arc browser", "brave browser", "firefox", "google chrome", "microsoft edge", "safari"] then
    .browser
  else if containsAny lowered ["warp", "terminal", "iterm"] then
    .terminal
  else if containsAny lowered ["slack", "teams", "zoom"] then
    .communication
  else
    .other

def activityKind (source : ActivitySource) (lowered : String) : SessionKind :=
  if containsAny lowered ["codex", "opencode", "hermes"] then
    .agent
  else
    match source with
    | .editor => .coding
    | .browser => .browser
    | .window => windowKind lowered
    | .afk => .other

def describe : SessionKind → Option String → String
  | .coding, some key => "Coding work for " ++ key
  | .agent, some key => "Agent-assisted work for " ++ key
  | .browser, some key => "Browser research for " ++ key
  | .communication, some key => "Communication for " ++ key
  | .terminal, some key => "Terminal work for " ++ key
  | .other, some key => "Work related to " ++ key
  | .coding, none => "Coding work"
  | .agent, none => "Agent-assisted work"
  | .browser, none => "Browser research"
  | .communication, none => "Communication"
  | .terminal, none => "Terminal work"
  | .other, none => "Other active work"

def activityPriority (source : ActivitySource) : SessionKind → ℕ
  | .agent => 70
  | .coding => if source = .editor then 60 else 50
  | .terminal => 45
  | .communication => 40
  | .browser => 30
  | .other => 20

def DerivedActivity.fromEvent (source : ActivitySource) (start stop : ℤ) (data : EventData)
    (jiraIssues : List JiraActiveIssue) : DerivedActivity :=
  let searchable := data.app ++ " " ++ data.title ++ " " ++ data.url ++ " " ++ data.project
  let jiraIssueKey := findJiraIssueKey searchable
  let semanticSuggestion :=
    if jiraIssueKey.isNone then
      semanticJiraSuggestion (data.title ++ " " ++ data.project) jiraIssues
    else
      none
  let kind := activityKind source (toAsciiLowercase searchable)
  { start := start
    stop := stop
    kind := kind
    description := describe kind jiraIssueKey
    application := sanitizeApplication data.app kind
    activityEvidence := sanitizeContextEvidence data.title data.project
    jiraIssueKey := jiraIssueKey
    suggestedJiraIssueKey := semanticSuggestion.map fun suggestion => suggestion.1
    jiraSuggestionConfidence := semanticSuggestion.map fun suggestion => suggestion.2.1
    jiraSuggestionReason := semanticSuggestion.map fun suggestion => suggestion.2.2
    priority := activityPriority source kind }

section Fields

variable (source : ActivitySource) (start stop : ℤ) (data : EventData)
variable (jiraIssues : List JiraActiveIssue)

theorem fromEvent_jiraIssueKey :
    (DerivedActivity.fromEvent source start stop data jiraIssues).jiraIssueKey =
      findJiraIssueKey (data.app ++ " " ++ data.title ++ " " ++ data.url ++ " " ++ data.project) :=
  rfl

theorem fromEvent_description :
    (DerivedActivity.fromEvent source start stop data jiraIssues).description =
      describe (DerivedActivity.fromEvent source start stop data jiraIssues).kind
        (DerivedActivity.fromEvent source start stop data jiraIssues).jiraIssueKey := by
  simp only [DerivedActivity.fromEvent]

theorem fromEvent_application :
    (DerivedActivity.fromEvent source start stop data jiraIssues).application =
      sanitizeApplication data.app
        (DerivedActivity.fromEvent source start stop data jiraIssues).kind := by
  simp only [DerivedActivity.fromEvent]

theorem fromEvent_activityEvidence :
    (DerivedActivity.fromEvent source start stop data jiraIssues).activityEvidence =
      sanitizeContextEvidence data.title data.project :=
  rfl

end Fields

end Wts.ActivityWatch
