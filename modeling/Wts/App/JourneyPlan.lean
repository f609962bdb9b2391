/-
Module: Wts.App.JourneyPlan
Purpose: A browser journey and its checks: identifiers, texts, the loopback origin of its base URL
  and the relative paths of its steps.
-/
import Wts.Library.IpAddr
import Wts.Library.Search
import Wts.Library.StdTypes
import Wts.Library.Text

namespace Wts.Testing

open Text Net

def testRunSchemaVersion : UInt32 := 1
def maxSteps : ℕ := 64
def maxScreenshotSteps : ℕ := 16
def maxIdBytes : ℕ := 128
def maxTitleBytes : ℕ := 256
def maxOriginBytes : ℕ := 512
def maxPathBytes : ℕ := 2048
def maxTargetBytes : ℕ := 512
def maxValueBytes : ℕ := 4096
def minRunTimeoutMs : ℕ := 1000
def maxRunTimeoutMs : ℕ := 300000
def maxStepTimeoutMs : ℕ := 15000

/-! ### Journeys -/

inductive JourneyTarget where
  | role (role name : String) (exact : Bool)
  | label (value : String) (exact : Bool)
  | text (value : String) (exact : Bool)
  | testId (value : String)
deriving DecidableEq

inductive JourneyKey where
  | enter
  | escape
  | tab
  | space
  | arrowUp
  | arrowDown
  | arrowLeft
  | arrowRight
  | home
  | end
  | pageUp
  | pageDown
  | backspace
  | delete
deriving DecidableEq

inductive JourneyAction where
  | navigate (path : String)
  | click (target : JourneyTarget)
  | fill (target : JourneyTarget) (value : String)
  | select (target : JourneyTarget) (value : String)
  | check (target : JourneyTarget)
  | press (target : JourneyTarget) (key : JourneyKey)
  | assertVisible (target : JourneyTarget)
  | assertText (target : JourneyTarget) (value : String) (exact : Bool)
  | assertUrl (path : String)
  | screenshot
deriving DecidableEq

structure JourneyStep where
  id : String
  label : String
  timeoutMs : UInt64
  action : JourneyAction

structure JourneyPlan where
  schemaVersion : UInt32
  runId : Uuid
  workspaceId : Uuid
  journeyId : String
  title : String
  baseUrl : String
  allowedOrigins : List String
  timeoutMs : UInt64
  steps : List JourneyStep
  graphSha256 : Option String

inductive JourneyPlanError where
  | schemaVersion
  | identifier
  | text
  | baseUrl
  | allowedOrigins
  | timeout
  | stepCount
  | duplicateStepId
  | stepTimeout
  | screenshotCount
  | relativePath
  | role
  | graphDigest
deriving DecidableEq

def ariaRoles : List String :=
  ["alert", "alertdialog", "application", "article", "banner", "blockquote", "button", "caption",
    "cell", "checkbox", "code", "columnheader", "combobox", "complementary", "contentinfo",
    "definition", "deletion", "dialog", "directory", "document", "emphasis", "feed", "figure",
    "form", "generic", "grid", "gridcell", "group", "heading", "img", "insertion", "link", "list",
    "listbox", "listitem", "log", "main", "marquee", "math", "meter", "menu", "menubar", "menuitem",
    "menuitemcheckbox", "menuitemradio", "navigation", "none", "note", "option", "paragraph",
    "presentation", "progressbar", "radio", "radiogroup", "region", "row", "rowgroup", "rowheader",
    "scrollbar", "search", "searchbox", "separator", "slider", "spinbutton", "status", "strong",
    "subscript", "superscript", "switch", "tab", "table", "tablist", "tabpanel", "term", "textbox",
    "time", "timer", "toolbar", "tooltip", "tree", "treegrid", "treeitem"]

def isIdCharacter (c : Char) : Bool :=
  isAsciiAlphanumeric c || c = '.' || c = '_' || c = '-'

def validateId (value : String) : Except JourneyPlanError Unit :=
  match value.toList with
  | [] => .error .identifier
  | first :: rest =>
    if value.utf8ByteSize ≤ maxIdBytes && isAsciiAlphanumeric first && rest.all isIdCharacter then
      .ok ()
    else
      .error .identifier

/-- A text may be broken into lines and have tabs. -/
def validText (value : String) (maximumBytes : ℕ) (allowEmpty : Bool) : Bool :=
  (allowEmpty || value ≠ "") && value.utf8ByteSize ≤ maximumBytes &&
    value.toList.all fun c => !isControl c || c = '\n' || c = '\r' || c = '\t'

def validateText (value : String) (maximumBytes : ℕ) (allowEmpty : Bool) :
    Except JourneyPlanError Unit :=
  if validText value maximumBytes allowEmpty then .ok () else .error .text

def parseU16 (text : List Char) : Option ℕ :=
  let digits :=
    match text with
    | '+' :: rest => rest
    | _ => text
  if digits ≠ [] ∧ digits.all Char.isDigit ∧ Nat.ofDigitChars 10 digits 0 < 2 ^ 16 then
    some (Nat.ofDigitChars 10 digits 0)
  else none

def validatePort (port : List Char) : Except JourneyPlanError Unit :=
  if port = [] ∨ (1 < port.length ∧ port.head? = some '0') ∨ ¬port.all Char.isDigit then
    .error .baseUrl
  else
    match (parseU16 port).filter (0 < ·) with
    | none => .error .baseUrl
    | some _ => .ok ()

def validateOptionalPort (suffix : List Char) : Except JourneyPlanError (Option (List Char)) :=
  match suffix with
  | [] => .ok none
  | c :: port =>
    if c = ':' then do
      validatePort port
      return some port
    else .error .baseUrl

/-- `str::rsplit_once` at one character. -/
def rsplitOnce (c : Char) (chars : List Char) : Option (List Char × List Char) :=
  (Search.splitOnce [c] chars.reverse).map fun (after, before) => (before.reverse, after.reverse)

/-- The host and the port of an authority. Brackets around the host go. -/
def hostAndPort (authority : List Char) :
    Except JourneyPlanError (List Char × Option (List Char)) :=
  match authority with
  | '[' :: bracketed =>
    match Search.splitOnce [']'] bracketed with
    | none => .error .baseUrl
    | some (host, suffix) => do
      let port ← validateOptionalPort suffix
      return (host, port)
  | _ =>
    match rsplitOnce ':' authority with
    | some (host, port) =>
      if ':' ∈ host then .error .baseUrl
      else do
        validatePort port
        return (host, some port)
    | none => .ok (authority, none)

def isLoopbackHost (host : List Char) : Bool :=
  host = "localhost".toList ||
    match parseIpAddr host with
    | none => false
    | some address =>
      address.isLoopback &&
        match address with
        | .v4 address => address.display = host
        | .v6 address => address = .localhost && host = "::1".toList

/-- The scheme and what follows it. -/
def splitScheme (value : List Char) : Option (String × List Char) :=
  if "http://".toList <+: value then some ("http", value.drop 7)
  else if "https://".toList <+: value then some ("https", value.drop 8)
  else none

def validateLoopbackOrigin (value : String) : Except JourneyPlanError Unit := do
  if !validText value maxOriginBytes false then throw .baseUrl
  else
    match splitScheme value.toList with
    | none => throw .baseUrl
    | some (scheme, authority) =>
      if authority = [] ∨ '/' ∈ authority ∨ '?' ∈ authority ∨ '#' ∈ authority ∨
          '@' ∈ authority ∨ authority.any isWhitespace then
        throw .baseUrl
      else
        let (host, port) ← hostAndPort authority
        if !isLoopbackHost host then throw .baseUrl
        else if port.any fun port => (scheme = "http" && port = "80".toList) ||
            (scheme = "https" && port = "443".toList) then
          throw .baseUrl
        else return ()

def hasHttpScheme (baseUrl : String) : Bool :=
  match Search.splitOnce "://".toList baseUrl.toList with
  | some (scheme, _) => scheme = "http".toList || scheme = "https".toList
  | none => false

def validRelativePath (value baseUrl : String) : Bool :=
  validText value maxPathBytes false && startsWith "/" value && !startsWith "//" value &&
    !(value.toList.any fun c => c = '\\' || c = '\r' || c = '\n' || c = '\x00') &&
    !containsText "://" value && hasHttpScheme baseUrl

def validateRelativePath (value baseUrl : String) : Except JourneyPlanError Unit :=
  if validRelativePath value baseUrl then .ok () else .error .relativePath

def JourneyTarget.validate : JourneyTarget → Except JourneyPlanError Unit
  | .role ariaRole name _ =>
    if ariaRole ∈ ariaRoles then validateText name maxTargetBytes false else .error .role
  | .label value _ | .text value _ | .testId value => validateText value maxTargetBytes false

def JourneyAction.validate (baseUrl : String) : JourneyAction → Except JourneyPlanError Unit
  | .navigate path | .assertUrl path => validateRelativePath path baseUrl
  | .click target | .check target | .assertVisible target | .press target _ => target.validate
  | .fill target value => do
    target.validate
    validateText value maxValueBytes true
  | .select target value | .assertText target value _ => do
    target.validate
    validateText value maxValueBytes false
  | .screenshot => .ok ()

def JourneyStep.validate (baseUrl : String) (step : JourneyStep) : Except JourneyPlanError Unit := do
  validateId step.id
  validateText step.label maxTitleBytes false
  if step.timeoutMs.toNat = 0 ∨ maxStepTimeoutMs < step.timeoutMs.toNat then throw .stepTimeout
  else step.action.validate baseUrl

/-- The loop over the steps, with the identifiers before; the number of screenshots. -/
def validateSteps (baseUrl : String) :
    List JourneyStep → List String → ℕ → Except JourneyPlanError ℕ
  | [], _, screenshots => .ok screenshots
  | step :: rest, identifiers, screenshots => do
    step.validate baseUrl
    if step.id ∈ identifiers then throw .duplicateStepId
    else
      validateSteps baseUrl rest (step.id :: identifiers)
        (if step.action = .screenshot then screenshots + 1 else screenshots)

def validGraphSha256 (digest : String) : Bool :=
  digest.utf8ByteSize = 64 && digest.toList.all fun c => c.isDigit || ('a' ≤ c && c ≤ 'f')

def JourneyPlan.validate (plan : JourneyPlan) : Except JourneyPlanError Unit := do
  if plan.schemaVersion ≠ testRunSchemaVersion then throw .schemaVersion
  else
    validateId plan.journeyId
    validateText plan.title maxTitleBytes false
    validateLoopbackOrigin plan.baseUrl
    if plan.allowedOrigins ≠ [plan.baseUrl] then throw .allowedOrigins
    else if plan.timeoutMs.toNat < minRunTimeoutMs ∨ maxRunTimeoutMs < plan.timeoutMs.toNat then
      throw .timeout
    else if plan.steps = [] ∨ maxSteps < plan.steps.length then throw .stepCount
    else if plan.graphSha256.any fun digest => !validGraphSha256 digest then throw .graphDigest
    else
      let screenshots ← validateSteps plan.baseUrl plan.steps [] 0
      if maxScreenshotSteps < screenshots then throw .screenshotCount else return ()

/-- The plan with its base URL as its only allowed origin. -/
def JourneyPlan.new (runId workspaceId : Uuid) (journeyId title baseUrl : String)
    (timeoutMs : UInt64) (steps : List JourneyStep) : Except JourneyPlanError JourneyPlan := do
  let plan : JourneyPlan :=
    { schemaVersion := testRunSchemaVersion
      runId := runId
      workspaceId := workspaceId
      journeyId := journeyId
      title := title
      baseUrl := baseUrl
      allowedOrigins := [baseUrl]
      timeoutMs := timeoutMs
      steps := steps
      graphSha256 := none }
  plan.validate
  return plan

def JourneyPlan.withGraphSha256 (plan : JourneyPlan) (graphSha256 : String) :
    Except JourneyPlanError JourneyPlan := do
  let changed := { plan with graphSha256 := some graphSha256 }
  changed.validate
  return changed

/-- The paths that the browser resolves against the base URL. -/
def JourneyAction.path : JourneyAction → Option String
  | .navigate path | .assertUrl path => some path
  | _ => none

end Wts.Testing
