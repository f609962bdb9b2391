/-
Module: Wts.Git.Repository
Purpose: The display form of a remote URL and the label of a repository.
-/
import Wts.Library.Search

namespace Wts.Repository

open Search

/-- The text `://`. -/
def schemeSeparator : List Char := [':', '/', '/']

/-- The text `::`. -/
def helperSeparator : List Char := [':', ':']

def isAsciiAlphanumeric (c : Char) : Bool :=
  ('0' ≤ c && c ≤ '9') || ('A' ≤ c && c ≤ 'Z') || ('a' ≤ c && c ≤ 'z')

def isRemoteHelperName (value : List Char) : Bool :=
  !value.isEmpty && value.all fun c => isAsciiAlphanumeric c || c = '+' || c = '-' || c = '.'

def eqIgnoreAsciiCase (first second : List Char) : Bool :=
  first.map Char.toLower = second.map Char.toLower

/-- The text without what starts at the first `?` or `#`. -/
def withoutMetadata (value : List Char) : List Char :=
  value.takeWhile fun c => c ≠ '?' && c ≠ '#'

/-- An address of a remote helper of which no safe part can be displayed. -/
def isOpaqueAddress (displayOrigin : List Char) : Bool :=
  match splitOnce helperSeparator displayOrigin with
  | some (helper, _) =>
    isRemoteHelperName helper &&
      (eqIgnoreAsciiCase helper ['e', 'x', 't'] || !(schemeSeparator <:+: displayOrigin))
  | none => false

/-- The last part of `sanitize_origin_url`: user information of a URL ends at the last `@` of the
authority; that of an SCP-style origin at the last `@`, which a colon must follow. -/
def withoutUserInformation (displayOrigin : List Char) : List Char :=
  match splitOnce schemeSeparator displayOrigin with
  | some (scheme, remainder) =>
    let authority := remainder.takeWhile (· ≠ '/')
    let path := remainder.dropWhile (· ≠ '/')
    match afterLast '@' authority with
    | some host => scheme ++ schemeSeparator ++ host ++ path
    | none => displayOrigin
  | none =>
    match afterLast '@' displayOrigin with
    | some rest => if ':' ∈ rest then rest else displayOrigin
    | none => displayOrigin

def sanitizeOriginUrl (value : List Char) : Option (List Char) :=
  let displayOrigin := withoutMetadata value
  if displayOrigin = [] then none
  else if isOpaqueAddress displayOrigin then none
  else some (withoutUserInformation displayOrigin)

end Wts.Repository
