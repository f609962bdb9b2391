/-
Module: Wts.Core.Boundary
Purpose: The workspace-boundary protocol: a draft is compiled to a boundary with port leases,
  capabilities and a digest, a boundary is revised, and an action envelope is verified against it.
-/
import Wts.Library.Sha256
import Wts.Library.Text

namespace Wts.Core

open Text

/-- Lower-case ASCII letters and digits; every run of other characters becomes one inner dash. -/
def slug (value : String) : String :=
  let mapped := value.toList.map fun character =>
    if isAsciiAlphanumeric character then character.toLower else '-'
  String.intercalate "-" ((split '-' (String.ofList mapped)).filter fun part => part ≠ "")

structure RepositoryPin where
  name : String
  baseRef : String
  baseCommit : String
  relevanceBasisPoints : UInt16
  evidence : List String
deriving DecidableEq, Inhabited

structure ServiceSpec where
  id : String
  repository : String
  defaultPort : UInt16
  dependsOn : List String
deriving DecidableEq, Inhabited

structure RuntimeLease where
  serviceId : String
  loopbackPort : UInt16
  hostname : String
  networkNamespace : String
deriving DecidableEq, Inhabited

inductive Effect where
  | read
  | write
  | execute
  | network
deriving DecidableEq, Inhabited

structure Capability where
  effect : Effect
  resource : String
deriving DecidableEq, Inhabited

structure WorkspaceBoundary where
  issueKey : String
  revision : UInt32
  parentDigest : Option String
  baseGraphDigest : String
  overlayDigest : String
  repositories : List RepositoryPin
  runtimeLeases : List RuntimeLease
  capabilities : List Capability
  digest : String
deriving DecidableEq, Inhabited

structure BoundaryDraft where
  issueKey : String
  baseGraphDigest : String
  repositories : List RepositoryPin
  services : List ServiceSpec
deriving DecidableEq, Inhabited

structure ActionEnvelope where
  boundaryDigest : String
  effect : Effect
  resource : String
deriving DecidableEq, Inhabited

inductive BoundaryError where
  | missingIssue
  | emptyScope
  | duplicateRepository (name : String)
  | serviceOutsideScope (service repository : String)
  | portSpaceExhausted (service : String)
  | staleBoundary
  | capabilityDenied
deriving DecidableEq, Inhabited

/-- The stable order of repositories by name. -/
def sortRepositories (repositories : List RepositoryPin) : List RepositoryPin :=
  repositories.insertionSort fun a b => a.name ≤ b.name

/-- The stable order of services by identifier. -/
def sortServices (services : List ServiceSpec) : List ServiceSpec :=
  services.insertionSort fun a b => a.id ≤ b.id

def effectKey : Effect → String
  | .read => "read"
  | .write => "write"
  | .execute => "execute"
  | .network => "network"

/-- The order of capabilities: first by the key of the effect, then by the resource. -/
def Capability.le (a b : Capability) : Prop :=
  effectKey a.effect < effectKey b.effect ∨
    effectKey a.effect = effectKey b.effect ∧ a.resource ≤ b.resource

instance : DecidableRel Capability.le := fun _ _ => by
  unfold Capability.le
  infer_instance

def sortCapabilities (capabilities : List Capability) : List Capability :=
  capabilities.insertionSort Capability.le

/-- The framed bytes that `digest_parts` feeds to the hasher. -/
def partsMessage (parts : List String) : List UInt8 :=
  Sha256.frame (parts.map utf8Bytes)

def digestParts (parts : List String) : String :=
  Sha256.hexEncode (Sha256.sha256 (partsMessage parts))

/-- The strings that the overlay digest covers. -/
def overlayParts (issueKey baseGraphDigest : String) (repositories : List RepositoryPin) :
    List String :=
  issueKey :: baseGraphDigest ::
    repositories.flatMap fun repository =>
      [repository.name, repository.baseCommit, repository.baseRef]

/-- The ordered map of strings that the boundary digest is computed from. -/
abbrev DigestFields := Std.TreeMap String String

def repositoryField (repository : RepositoryPin) : String × String :=
  ("repo:" ++ repository.name,
    repository.baseRef ++ "|" ++ repository.baseCommit ++ "|" ++
      decimal repository.relevanceBasisPoints.toNat ++ "|" ++
      String.intercalate "," repository.evidence)

def leaseField (lease : RuntimeLease) : String × String :=
  ("lease:" ++ lease.serviceId,
    decimal lease.loopbackPort.toNat ++ "|" ++ lease.hostname ++ "|" ++ lease.networkNamespace)

def capabilityField (index : ℕ) (capability : Capability) : String × String :=
  ("capability:" ++ padded 4 index, effectKey capability.effect ++ "|" ++ capability.resource)

/-- The insertions of `compute_digest`, in the order in which they are made. -/
def digestEntries (boundary : WorkspaceBoundary) : List (String × String) :=
  [("issue", boundary.issueKey), ("revision", decimal boundary.revision.toNat),
    ("parent", boundary.parentDigest.getD ""), ("base_graph", boundary.baseGraphDigest),
    ("overlay", boundary.overlayDigest)] ++
  boundary.repositories.map repositoryField ++
  boundary.runtimeLeases.map leaseField ++
  boundary.capabilities.mapIdx capabilityField

def digestFields (boundary : WorkspaceBoundary) : DigestFields :=
  (digestEntries boundary).foldl (fun fields entry => fields.insert entry.1 entry.2) ∅

/-- The keys and values of the map in key order, each a part of its own. -/
def boundaryParts (boundary : WorkspaceBoundary) : List String :=
  (digestFields boundary).toList.flatMap fun entry => [entry.1, entry.2]

def computeDigest (boundary : WorkspaceBoundary) : String :=
  digestParts (boundaryParts boundary)

/-! ### Compilation -/

/-- The least port from the default port upwards that is not reserved. -/
def findLoopbackPort (reserved : Finset UInt16) (defaultPort : UInt16) : Option UInt16 :=
  ((List.range' defaultPort.toNat (UInt16.size - defaultPort.toNat)).map UInt16.ofNat).find?
    fun candidate => candidate ∉ reserved

/-- The loop that gives each service, in the given order, the first free port. -/
def leaseServices (networkNamespace : String) :
    List ServiceSpec → Finset UInt16 → Except BoundaryError (List RuntimeLease)
  | [], _ => .ok []
  | service :: rest, reserved =>
    match findLoopbackPort reserved service.defaultPort with
    | none => .error (.portSpaceExhausted service.id)
    | some loopbackPort =>
      match leaseServices networkNamespace rest (insert loopbackPort reserved) with
      | .error error => .error error
      | .ok leases =>
        .ok ({ serviceId := service.id
               loopbackPort := loopbackPort
               hostname := slug service.id ++ "." ++ networkNamespace ++ ".wts"
               networkNamespace := networkNamespace } :: leases)

/-- The first name that two neighbours of the sorted list share. -/
def firstDuplicateName : List RepositoryPin → Option String
  | first :: second :: rest =>
    if first.name = second.name then some first.name else firstDuplicateName (second :: rest)
  | _ => none

def leaseCapabilities (lease : RuntimeLease) : List Capability :=
  [{ effect := .execute, resource := "process:" ++ lease.serviceId },
    { effect := .network, resource := "loopback:" ++ decimal lease.loopbackPort.toNat }]

def boundaryCapabilities (issueKey : String) (leases : List RuntimeLease) : List Capability :=
  sortCapabilities
    ({ effect := .read, resource := "workspace:" ++ issueKey ++ "/**" } ::
      { effect := .write, resource := "workspace:" ++ issueKey ++ "/**" } ::
      leases.flatMap leaseCapabilities)

/-- The repositories of a draft in canonical form: ordered by name, evidence sorted and deduplicated. -/
def canonicalRepositories (repositories : List RepositoryPin) : List RepositoryPin :=
  (sortRepositories repositories).map fun repository =>
    { repository with evidence := sortDedup repository.evidence }

def canonicalIssueKey (issueKey : String) : String :=
  toAsciiUppercase (trim issueKey)

/-- `BoundaryCompiler::compile`. The deduplicated `depends_on` lists of the services are not read
again by the source, so they are left as they are. -/
def compile (draft : BoundaryDraft) (occupiedPorts : Finset UInt16) :
    Except BoundaryError WorkspaceBoundary :=
  if trim draft.issueKey = "" then
    .error .missingIssue
  else if draft.repositories = [] then
    .error .emptyScope
  else
    let issueKey := canonicalIssueKey draft.issueKey
    let repositories := canonicalRepositories draft.repositories
    match firstDuplicateName repositories with
    | some name => .error (.duplicateRepository name)
    | none =>
      let services := sortServices draft.services
      match services.find? fun service => service.repository ∉ repositories.map (·.name) with
      | some service => .error (.serviceOutsideScope service.id service.repository)
      | none =>
        match leaseServices (slug issueKey) services occupiedPorts with
        | .error error => .error error
        | .ok runtimeLeases =>
          let boundary : WorkspaceBoundary :=
            { issueKey := issueKey
              revision := 1
              parentDigest := none
              baseGraphDigest := draft.baseGraphDigest
              overlayDigest :=
                digestParts (overlayParts issueKey draft.baseGraphDigest repositories)
              repositories := repositories
              runtimeLeases := runtimeLeases
              capabilities := boundaryCapabilities issueKey runtimeLeases
              digest := "" }
          .ok { boundary with digest := computeDigest boundary }

namespace WorkspaceBoundary

def verify (boundary : WorkspaceBoundary) (action : ActionEnvelope) : Except BoundaryError Unit :=
  if action.boundaryDigest ≠ boundary.digest then
    .error .staleBoundary
  else if boundary.capabilities.any fun capability =>
      capability.effect = action.effect ∧ capability.resource = action.resource then
    .ok ()
  else
    .error .capabilityDenied

/-- `WorkspaceBoundary::revise`. The `u32` revision wraps, as a release build computes it. -/
def revise (boundary : WorkspaceBoundary) (draft : BoundaryDraft) (occupiedPorts : Finset UInt16) :
    Except BoundaryError WorkspaceBoundary :=
  match compile draft occupiedPorts with
  | .error error => .error error
  | .ok compiled =>
    let revised :=
      { compiled with
        revision := boundary.revision + 1
        parentDigest := some boundary.digest }
    .ok { revised with digest := computeDigest revised }

end WorkspaceBoundary

end Wts.Core
