/-
Module: Wts.Proofs.StoreLinks
Purpose: The links of a workspace are the fold of its link events.
Trusted boundary: none
Main exports: LinksAgree, LinksAgree.step
-/
import Wts.Library.Traverse
import Wts.Proofs.StoreFrame

namespace Wts.Store

open List Workspace

variable {store : WorkspaceStore} {env : CallEnv} {tables written : Tables}
variable {links after : LinkTables} {workspaceId : Uuid}

/-- The links after an event. -/
def applyLinkEvent (rows : List StoredWorkspaceWorkItemLink) (event : WorkItemLinkEvent) :
    List StoredWorkspaceWorkItemLink :=
  match event.change with
  | .linked link => rows ++ [link]
  | .unlinked _ _ => rows.filter fun row => row.linkId ≠ event.linkId

/-- The links that the events of a workspace leave. -/
def foldLinkEvents (events : List WorkItemLinkEvent) : List StoredWorkspaceWorkItemLink :=
  events.foldl applyLinkEvent []

def LinkTables.rowsOf (links : LinkTables) (workspaceId : Uuid) :
    List StoredWorkspaceWorkItemLink :=
  links.rows.filter fun link => link.workspaceId = workspaceId

def LinkTables.eventsOf (links : LinkTables) (workspaceId : Uuid) : List WorkItemLinkEvent :=
  links.events.filter fun event => event.workspaceId = workspaceId

theorem foldLinkEvents_append (events : List WorkItemLinkEvent) (event : WorkItemLinkEvent) :
    foldLinkEvents (events ++ [event]) = applyLinkEvent (foldLinkEvents events) event := by
  simp [foldLinkEvents]

/-- A valid link that clashes with no row, and the event that announces it. -/
structure Linking (links : LinkTables) (link : StoredWorkspaceWorkItemLink)
    (event : WorkItemLinkEvent) : Prop where
  free : links.rows.any (linksClash link) = false
  valid : validateWorkItemLink link = .ok ()
  change : event.change = .linked link
  workspace : event.workspaceId = link.workspaceId

/-- The record of a confirmation. -/
structure Recording (links : LinkTables) (link : StoredWorkspaceWorkItemLink)
    (confirmation : WorkItemLinkConfirmation) : Prop where
  unrecorded : ∀ other ∈ links.confirmations, other.idempotencyKey ≠ confirmation.idempotencyKey
  result : confirmation.resultJson = link.toJson.print

/-- What a call can do to the tables of the links. -/
inductive LinkStep (links : LinkTables) : LinkTables → Prop where
  | same : LinkStep links links
  | created {link event} (linking : Linking links link event) :
      LinkStep links
        { links with rows := links.rows ++ [link], events := links.events ++ [event] }
  | confirmed {link event confirmation} (linking : Linking links link event)
      (recording : Recording links link confirmation) :
      LinkStep links
        { rows := links.rows ++ [link]
          events := links.events ++ [event]
          confirmations := links.confirmations ++ [confirmation] }
  | unlinked {link : StoredWorkspaceWorkItemLink} {event revision issueKey}
      (present : link ∈ links.rows) (change : event.change = .unlinked revision issueKey)
      (workspace : event.workspaceId = link.workspaceId) (identifier : event.linkId = link.linkId) :
      LinkStep links
        { links with
          rows := links.rows.filter fun row =>
            !matchesLink link.workspaceId link.linkId link.revision row
          events := links.events ++ [event] }

/-- Two links that the table can hold together. -/
def LinksApart (first second : StoredWorkspaceWorkItemLink) : Prop :=
  linksClash first second = false

theorem linksClash_comm (first second : StoredWorkspaceWorkItemLink) :
    linksClash first second = linksClash second first := by
  rw [Bool.eq_iff_iff]
  simp only [linksClash, Bool.or_eq_true, Bool.and_eq_true, decide_eq_true_eq]
  grind

instance : Std.Symm LinksApart where
  symm first second apart := by rwa [LinksApart, linksClash_comm]

/-- The tables of the links agree with each other. -/
structure LinksAgree (links : LinkTables) : Prop where
  fold : ∀ workspaceId, links.rowsOf workspaceId = foldLinkEvents (links.eventsOf workspaceId)
  apart : links.rows.Pairwise LinksApart
  recorded : ∀ confirmation ∈ links.confirmations, ∃ link : StoredWorkspaceWorkItemLink,
    confirmation.resultJson = link.toJson.print ∧ validateWorkItemLink link = .ok ()

theorem LinksAgree.empty : LinksAgree Tables.empty.links where
  fold := fun _ => rfl
  apart := List.Pairwise.nil
  recorded := fun _ member => absurd member not_mem_nil

section

variable (agree : LinksAgree links)
include agree

theorem LinksAgree.eq_of_clash {first second}
    (member : first ∈ links.rows) (member' : second ∈ links.rows)
    (clash : linksClash first second = true) : first = second := by
  by_contra different
  have apart : linksClash first second = false :=
    agree.apart.forall member member' different
  rw [apart] at clash
  cases clash

theorem LinksAgree.eq_of_linkId {first second}
    (member : first ∈ links.rows) (member' : second ∈ links.rows)
    (same : first.linkId = second.linkId) : first = second :=
  agree.eq_of_clash member member' (by simp [linksClash, same])

theorem LinksAgree.fold_linked {link event}
    (linking : Linking links link event) (workspaceId : Uuid) :
    (links.rows ++ [link]).filter (fun row => row.workspaceId = workspaceId) =
      foldLinkEvents ((links.events ++ [event]).filter fun event =>
        event.workspaceId = workspaceId) := by
  have fold := agree.fold workspaceId
  simp only [LinkTables.rowsOf, LinkTables.eventsOf] at fold
  rw [filter_append, filter_append, fold]
  by_cases here : link.workspaceId = workspaceId
  · simp [linking.workspace, here, foldLinkEvents_append, applyLinkEvent, linking.change]
  simp [linking.workspace, here]

theorem LinksAgree.apart_linked {link event}
    (linking : Linking links link event) : (links.rows ++ [link]).Pairwise LinksApart := by
  refine pairwise_append.2 ⟨agree.apart, pairwise_singleton _ _, ?_⟩
  intro row member other isNew
  rw [mem_singleton.1 isNew, LinksApart, linksClash_comm]
  simpa using any_eq_false.1 linking.free row member

theorem LinksAgree.matchesLink_iff {link row}
    (present : link ∈ links.rows) (member : row ∈ links.rows) :
    matchesLink link.workspaceId link.linkId link.revision row = true ↔
      row.linkId = link.linkId := by
  constructor
  · intro chosen
    simp only [matchesLink, Bool.and_eq_true, decide_eq_true_eq] at chosen
    exact chosen.1.2
  intro same
  rw [agree.eq_of_linkId member present same]
  simp [matchesLink]

end

variable {link : StoredWorkspaceWorkItemLink}

theorem LinksAgree.fold_unlinked (agree : LinksAgree links)
    {event revision issueKey} (present : link ∈ links.rows)
    (change : event.change = .unlinked revision issueKey)
    (workspace : event.workspaceId = link.workspaceId) (identifier : event.linkId = link.linkId)
    (workspaceId : Uuid) : (links.rows.filter fun row =>
        !matchesLink link.workspaceId link.linkId link.revision row).filter
          (fun row => row.workspaceId = workspaceId) =
      foldLinkEvents ((links.events ++ [event]).filter fun event =>
        event.workspaceId = workspaceId) := by
  have fold := agree.fold workspaceId
  simp only [LinkTables.rowsOf, LinkTables.eventsOf] at fold
  rw [filter_append, filter_filter]
  by_cases here : link.workspaceId = workspaceId
  · have chosen : [event].filter (fun event => event.workspaceId = workspaceId) = [event] := by
      simp [workspace, here]
    rw [chosen, foldLinkEvents_append, applyLinkEvent, change, ← fold, filter_filter]
    apply filter_congr
    intro row member
    have iff := agree.matchesLink_iff present member
    rw [identifier]
    grind
  have left : [event].filter (fun event => event.workspaceId = workspaceId) = [] := by
    simp [workspace, here]
  rw [left, append_nil, ← fold]
  apply filter_congr
  intro row member
  -- a row of another workspace is not the removed one
  have : row.workspaceId = workspaceId →
      matchesLink link.workspaceId link.linkId link.revision row = false := by
    rintro rfl
    simp [matchesLink, Ne.symm here]
  grind

theorem LinksAgree.step (agree : LinksAgree links) (step : LinkStep links after) :
    LinksAgree after := by
  cases step with
  | same => exact agree
  | created linking =>
    exact ⟨agree.fold_linked linking, agree.apart_linked linking, agree.recorded⟩
  | @confirmed link event confirmation linking recording =>
    refine ⟨agree.fold_linked linking, agree.apart_linked linking, ?_⟩
    intro other member
    rcases mem_append.1 member with old | new
    · exact agree.recorded other old
    rw [mem_singleton.1 new]
    exact ⟨link, recording.result, linking.valid⟩
  | unlinked present change workspace identifier =>
    exact ⟨agree.fold_unlinked present change workspace identifier,
      agree.apart.filter _, agree.recorded⟩

/-! ### Statements and transactions -/

theorem insertLink_eq_ok (inserted : insertLink link tables = .ok written) :
    tables.links.rows.any (linksClash link) = false ∧ written =
        { tables with links := { tables.links with rows := tables.links.rows ++ [link] } } := by
  simp only [insertLink] at inserted
  split at inserted
  · cases inserted
  rename_i free
  cases inserted
  exact ⟨by simpa using free, rfl⟩

theorem insertLinkEvent_eq_ok {event : WorkItemLinkEvent}
    (inserted : insertLinkEvent event tables = .ok written) : written =
      { tables with links := { tables.links with events := tables.links.events ++ [event] } } := by
  simp only [insertLinkEvent] at inserted
  split at inserted
  · cases inserted
  cases inserted
  rfl

theorem insertConfirmation_eq_ok {confirmation : WorkItemLinkConfirmation}
    (inserted : insertConfirmation confirmation tables = .ok written) :
    findConfirmation tables confirmation.idempotencyKey = none ∧ written = { tables with links :=
            { tables.links with
              confirmations := tables.links.confirmations ++ [confirmation] } } := by
  simp only [insertConfirmation] at inserted
  split at inserted
  · cases inserted
  cases inserted
  simp_all

variable {idempotencyKey linkId : Uuid} {previewDigest : String} {provider : StoredWorkItemProvider}
  {result : ConfirmStoredWorkItemLinkResult} {role : StoredWorkItemRole}
  {snapshot : StoredWorkItemSnapshot}

theorem confirmNewLink_eq_ok
    (confirmed : confirmNewLink env workspaceId idempotencyKey previewDigest provider role snapshot
      tables = .ok (result, written)) : result.replayed = false ∧ ∃ event confirmation,
      Linking tables.links result.link event ∧ Recording tables.links result.link confirmation ∧
        confirmation.idempotencyKey = idempotencyKey ∧ confirmation.workspaceId = workspaceId ∧
          confirmation.previewDigest = previewDigest ∧ written = { tables with links :=
                  { rows := tables.links.rows ++ [result.link]
                    events := tables.links.events ++ [event]
                    confirmations := tables.links.confirmations ++ [confirmation] } } := by
  simp only [confirmNewLink] at confirmed
  split at confirmed
  · cases confirmed
  · cases confirmed
  split at confirmed
  · cases confirmed
  split at confirmed
  · cases confirmed
  split at confirmed
  · cases confirmed
  rename_i valid
  split at confirmed
  · cases confirmed
  rename_i inserted
  cases confirmed
  simp only [insertConfirmedLink] at inserted
  split at inserted
  · cases inserted
  rename_i linked
  split at inserted
  · cases inserted
  rename_i announced
  obtain ⟨free, rfl⟩ := insertLink_eq_ok linked
  obtain rfl := insertLinkEvent_eq_ok announced
  obtain ⟨unrecorded, rfl⟩ := insertConfirmation_eq_ok inserted
  refine ⟨rfl, _, _, ?linking, ?recording, ?_, ?_, ?_, rfl⟩
  case linking => exact ⟨free, valid, rfl, rfl⟩
  case recording =>
    refine ⟨?_, rfl⟩
    intro other member
    simpa using find?_eq_none.1 unrecorded other member
  all_goals rfl

theorem confirmTransaction_eq_ok
    (confirmed : confirmTransaction store env workspaceId idempotencyKey previewDigest provider role
      snapshot tables = .ok (result, written)) :
    recordedConfirmation store workspaceId idempotencyKey previewDigest tables = .ok (some result) ∧
        written = tables ∨
      recordedConfirmation store workspaceId idempotencyKey previewDigest tables = .ok none ∧
        confirmNewLink env workspaceId idempotencyKey previewDigest provider role snapshot tables =
          .ok (result, written) := by
  simp only [confirmTransaction] at confirmed
  split at confirmed
  · cases confirmed
  split at confirmed
  · cases confirmed
  next recorded =>
    cases confirmed
    exact .inl ⟨recorded, rfl⟩
  next unrecorded => exact .inr ⟨unrecorded, confirmed⟩

theorem decodeLink_eq_ok {row : StoredWorkspaceWorkItemLink}
    (decoded : decodeLink row = .ok link) : link = row := by
  simp only [decodeLink] at decoded
  split at decoded
  · cases decoded
  cases decoded
  rfl

variable {read : List StoredWorkspaceWorkItemLink}

theorem mapM_decodeLink_eq_ok {rows : List StoredWorkspaceWorkItemLink}
    (decoded : rows.mapM decodeLink = .ok read) : read = rows := by
  induction Traverse.mapM_eq_ok_iff.1 decoded with
  | nil => rfl
  | cons first _ ih => rw [decodeLink_eq_ok first, ih (Traverse.mapM_eq_ok_iff.2 ‹_›)]

theorem mem_of_loadWorkItemLinks
    (loaded : loadWorkItemLinks tables workspaceId = .ok read) {link} (member : link ∈ read) :
    link ∈ tables.links.rows ∧ link.workspaceId = workspaceId := by
  rw [mapM_decodeLink_eq_ok loaded, mem_insertionSort] at member
  simpa using member

theorem loadWorkItemLink_eq_some
    (loaded : loadWorkItemLink tables workspaceId linkId = .ok (some link)) :
    link ∈ tables.links.rows ∧ link.workspaceId = workspaceId ∧ link.linkId = linkId := by
  simp only [loadWorkItemLink] at loaded
  split at loaded
  · cases loaded
  rename_i links read
  have found := Except.ok.inj loaded
  obtain ⟨member, workspace⟩ := mem_of_loadWorkItemLinks read (mem_of_find?_eq_some found)
  have identifier := find?_some found
  exact ⟨member, workspace, by simpa using identifier⟩

theorem unlinkTransaction_eq_ok {expectedRevision : UInt64} {result : StoredWorkItemUnlinkResult}
    (unlinked : unlinkTransaction store env workspaceId linkId expectedRevision tables =
      .ok (result, written)) :
    ∃ links, written = { tables with links := links } ∧ LinkStep tables.links links := by
  simp only [unlinkTransaction] at unlinked
  split at unlinked
  · cases unlinked
  split at unlinked
  · cases unlinked
  · cases unlinked
  rename_i link loaded
  obtain ⟨present, rfl, rfl⟩ := loadWorkItemLink_eq_some loaded
  split at unlinked
  · cases unlinked
  rename_i revision
  obtain rfl := not_ne_iff.1 revision
  split at unlinked
  · cases unlinked
  split at unlinked
  · cases unlinked
  split at unlinked
  · cases unlinked
  split at unlinked
  · cases unlinked
  rename_i announced
  cases unlinked
  obtain rfl := insertLinkEvent_eq_ok announced
  exact ⟨_, rfl, .unlinked present rfl rfl rfl⟩

theorem confirmWorkItemLink_step (key previewDigest : String)
    (provider : StoredWorkItemProvider) (role : StoredWorkItemRole)
    (snapshot : StoredWorkItemSnapshot) :
    ∃ links, (confirmWorkItemLink store env workspaceId key previewDigest provider role snapshot
      tables).2 = { tables with links := links } ∧ LinkStep tables.links links := by
  simp only [confirmWorkItemLink]
  split
  · exact ⟨_, rfl, .same⟩
  split
  · exact ⟨_, rfl, .same⟩
  split
  · exact ⟨_, rfl, .same⟩
  refine inTransaction_related (fun before after =>
    ∃ links, after = { before with links := links } ∧ LinkStep before.links links)
    ⟨_, rfl, .same⟩ ?_
  intro result written confirmed
  rcases confirmTransaction_eq_ok confirmed with ⟨_, rfl⟩ | ⟨_, linked⟩
  · exact ⟨_, rfl, .same⟩
  obtain ⟨_, _, _, linking, recording, _, _, _, rfl⟩ := confirmNewLink_eq_ok linked
  exact ⟨_, rfl, .confirmed linking recording⟩

theorem unlinkWorkItemLink_step (linkId : Uuid) (expectedRevision : UInt64) :
    ∃ links, (unlinkWorkItemLink store env workspaceId linkId expectedRevision tables).2 =
      { tables with links := links } ∧ LinkStep tables.links links := by
  simp only [unlinkWorkItemLink]
  split
  · exact ⟨_, rfl, .same⟩
  refine inTransaction_related (fun before after =>
    ∃ links, after = { before with links := links } ∧ LinkStep before.links links)
    ⟨_, rfl, .same⟩ ?_
  intro result written unlinked
  exact unlinkTransaction_eq_ok unlinked

end Wts.Store
