/-
Module: Wts.Integrations.TimeReviewBrief
Purpose: The brief that an agent gets for a time review: the sessions of a daily review as ledger
  rows, the active Jira issues as candidates, and the check of the whole.
Trusted boundary: serde_json::from_str, whose result is given
-/
import Wts.Library.Json
import Wts.Integrations.ActivityWatch

namespace Wts.JiraMcp

open Text Words ActivityWatch

/-! ### Active issues -/

inductive JiraMcpError where
  | protocolInvalid
  | outputTooLarge
  | invalidIssueKey

def maxActiveIssues : ℕ := 20

/-- `byte.is_ascii_uppercase() || byte.is_ascii_digit() || byte == b'_'`. -/
def isProjectCharacter (c : Char) : Bool :=
  c.isUpper || c.isDigit || c = '_'

def validateIssueKey (value : String) : Except JiraMcpError String :=
  let value := trim value
  match rsplitOnce '-' value.toList with
  | none => .error .invalidIssueKey
  | some (project, number) =>
    if project = [] ∨ number = [] ∨ 32 < (String.ofList project).utf8ByteSize ∨
        16 < (String.ofList number).utf8ByteSize ∨ ¬ project.all isProjectCharacter ∨
        ¬ number.all Char.isDigit then
      .error .invalidIssueKey
    else
      .ok value

/-- `Value::get` with a name: the last field of a repeated name counts. -/
def getField (name : String) : Json → Option Json
  | .object fields => (fields.reverse.find? fun field => field.1 = name).map Prod.snd
  | _ => none

def asString : Json → Option String
  | .string text => some text
  | _ => none

def asArray : Json → Option (List Json)
  | .array items => some items
  | _ => none

def findString (value : Json) (path : List String) : Option String :=
  (path.foldlM (fun current name => getField name current) value).bind asString

def issueSummary (issue : Json) : Option String :=
  ((findString issue ["fields", "summary"]).or (findString issue ["summary"])).filter
    fun value => trim value ≠ ""

def issueStatus (issue : Json) : Option String :=
  (((findString issue ["fields", "status", "name"]).or (findString issue ["status", "name"])).or
    (findString issue ["status"])).filter fun value => trim value ≠ ""

/-- One issue after those that were taken before it. -/
def extractIssue (issues : List JiraActiveIssue) (issue : Json) :
    Except JiraMcpError (List JiraActiveIssue) :=
  match ((getField "key" issue).or (getField "issue_key" issue)).bind asString with
  | none => .error .protocolInvalid
  | some raw => do
    let key ← validateIssueKey raw
    if issues.any fun other => other.issueKey = key then
      .ok issues
    else
      match issueSummary issue, issueStatus issue with
      | some summary, some status =>
        if 512 < summary.utf8ByteSize ∨ 128 < status.utf8ByteSize then
          .error .outputTooLarge
        else
          .ok (issues ++ [{ issueKey := key, summary := summary, status := status }])
      | _, _ => .error .protocolInvalid

/-- `extract_active_issues` of a text with the given JSON value, if it has one. -/
def extractActiveIssues (content : Option Json) : Except JiraMcpError (List JiraActiveIssue) :=
  match content with
  | none => .error .protocolInvalid
  | some value =>
    match ((getField "issues" value).bind asArray).or (asArray value) with
    | none => .error .protocolInvalid
    | some issueValues =>
      if issueValues.length > maxActiveIssues then
        .error .outputTooLarge
      else
        issueValues.foldlM extractIssue []

end Wts.JiraMcp

namespace Wts.TimeReviewBrief

open Text Words ActivityWatch

structure TimeReviewLedgerRow where
  id : String
  startedAtUnixMs : ℤ
  endedAtUnixMs : ℤ
  durationSeconds : ℕ
  activityType : String
  application : String
  context : String
  detectedJiraIssueKey : Option String
  sourceEventCount : ℕ

structure TimeReviewJiraCandidate where
  issueKey : String
  summary : String
  status : String

structure TimeReviewAgentBrief where
  schemaVersion : ℕ
  reviewId : String
  reviewDate : String
  generatedAtUnixMs : ℤ
  ledger : List TimeReviewLedgerRow
  jiraCandidates : List TimeReviewJiraCandidate

inductive TimeReviewContractError where
  | unsupportedSchemaVersion
  | invalidReviewIdentity
  | invalidReviewDate
  | invalidTimestamp
  | tooManyLedgerRows
  | tooManyJiraCandidates
  | duplicateLedgerRowId
  | duplicateJiraIssueKey
  | invalidLedgerRow
  | invalidJiraCandidate
  | csvTooLarge
  | proposalReviewMismatch
  | invalidProposalSummary
  | duplicateAssignment
  | unknownLedgerRow
  | missingAssignment
  | invalidAssignment
  | unknownJiraIssue
  | duplicateNewJiraProposal
  | invalidNewJiraProposal
  | unknownNewJiraProposal
deriving DecidableEq

def timeReviewSchemaVersion : ℕ := 1
def maxLedgerRows : ℕ := 1000
def maxJiraCandidates : ℕ := 200
def maxTextBytes : ℕ := 4096
def maxSummaryBytes : ℕ := 240

def activityType : SessionKind → String
  | .coding => "coding"
  | .agent => "agent"
  | .browser => "browser"
  | .communication => "communication"
  | .terminal => "terminal"
  | .other => "other"

def ledgerRow (session : SessionCandidate) : TimeReviewLedgerRow where
  id := session.id
  startedAtUnixMs := session.startedAtUnixMs
  endedAtUnixMs := session.endedAtUnixMs
  durationSeconds := session.durationSeconds
  activityType := activityType session.kind
  application := session.application.getD "Unknown application"
  context := session.activityEvidence.getD session.description
  detectedJiraIssueKey := session.jiraIssueKey
  sourceEventCount := session.sourceEventCount

def jiraCandidate (issue : JiraActiveIssue) : TimeReviewJiraCandidate where
  issueKey := issue.issueKey
  summary := issue.summary
  status := issue.status

def fromDailyReview (reviewId reviewDate : String) (generatedAtUnixMs : ℤ) (review : DailyReview)
    (jiraCandidates : List JiraActiveIssue) : TimeReviewAgentBrief where
  schemaVersion := timeReviewSchemaVersion
  reviewId := reviewId
  reviewDate := reviewDate
  generatedAtUnixMs := generatedAtUnixMs
  ledger := review.sessions.map ledgerRow
  jiraCandidates := jiraCandidates.map jiraCandidate

def isIdentifierCharacter (c : Char) : Bool :=
  isAsciiAlphanumeric c || c = '-' || c = '_' || c = '.'

def validIdentifier (value : String) : Bool :=
  value ≠ "" && value.utf8ByteSize ≤ 128 && value.toList.all isIdentifierCharacter

/-- Ten bytes, digits but for the hyphens after the year and the month. -/
def validDate (value : String) : Bool :=
  let bytes := utf8Bytes value
  bytes.length = 10 && bytes[4]? = some 45 && bytes[7]? = some 45 &&
    bytes.zipIdx.all fun (byte, index) => index = 4 || index = 7 || (48 ≤ byte && byte ≤ 57)

def validText (value : String) (maxBytes : ℕ) : Bool :=
  trim value ≠ "" && value.utf8ByteSize ≤ maxBytes && !value.toList.contains '\x00'

def validProjectKey (value : List Char) : Bool :=
  match value with
  | [] => false
  | first :: rest =>
    first.isUpper && (String.ofList value).utf8ByteSize ≤ 32 && rest.all JiraMcp.isProjectCharacter

def validIssueKey (value : String) : Bool :=
  match rsplitOnce '-' value.toList with
  | none => false
  | some (project, number) =>
    validProjectKey project && !number.isEmpty && number.all Char.isDigit

def validRow (row : TimeReviewLedgerRow) : Bool :=
  validIdentifier row.id && 0 ≤ row.startedAtUnixMs && row.startedAtUnixMs < row.endedAtUnixMs &&
    row.durationSeconds ≠ 0 && row.sourceEventCount ≠ 0 &&
    validText row.activityType maxSummaryBytes && validText row.application maxSummaryBytes &&
    validText row.context maxTextBytes && row.detectedJiraIssueKey.all validIssueKey

def validCandidate (issue : TimeReviewJiraCandidate) : Bool :=
  validIssueKey issue.issueKey && validText issue.summary maxSummaryBytes &&
    validText issue.status maxSummaryBytes

/-- The loop over the rows; `rowIds` are those before. -/
def validateRows (rowIds : List String) :
    List TimeReviewLedgerRow → Except TimeReviewContractError Unit
  | [] => .ok ()
  | row :: rest =>
    if row.id ∈ rowIds then
      .error .duplicateLedgerRowId
    else if validRow row then
      validateRows (row.id :: rowIds) rest
    else
      .error .invalidLedgerRow

/-- The loop over the candidates; `issueKeys` are those before. -/
def validateCandidates (issueKeys : List String) :
    List TimeReviewJiraCandidate → Except TimeReviewContractError Unit
  | [] => .ok ()
  | issue :: rest =>
    if validCandidate issue then
      if issue.issueKey ∈ issueKeys then
        .error .duplicateJiraIssueKey
      else
        validateCandidates (issue.issueKey :: issueKeys) rest
    else
      .error .invalidJiraCandidate

def TimeReviewAgentBrief.validate (brief : TimeReviewAgentBrief) :
    Except TimeReviewContractError Unit :=
  if brief.schemaVersion ≠ timeReviewSchemaVersion then
    .error .unsupportedSchemaVersion
  else if ¬ validIdentifier brief.reviewId then
    .error .invalidReviewIdentity
  else if ¬ validDate brief.reviewDate then
    .error .invalidReviewDate
  else if brief.generatedAtUnixMs ≤ 0 then
    .error .invalidTimestamp
  else if brief.ledger.length > maxLedgerRows then
    .error .tooManyLedgerRows
  else if brief.jiraCandidates.length > maxJiraCandidates then
    .error .tooManyJiraCandidates
  else do
    validateRows [] brief.ledger
    validateCandidates [] brief.jiraCandidates

end Wts.TimeReviewBrief
