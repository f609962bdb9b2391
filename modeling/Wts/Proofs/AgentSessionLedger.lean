/-
Module: Wts.Proofs.AgentSessionLedger
Purpose: When the ledger of agent sessions stays readable.
Trusted boundary: none
Main exports: ledger_stays_readable
-/
import Wts.Proofs.AgentSessionJson

namespace Wts.AgentSessions

open List Option

open Collaboration (AgentProvider)

/-- The checks of the reader on the sessions. -/
structure ValidLedger (sessions : List AgentSession) : Prop where
  count : sessions.length ≤ maxRetainedSessions
  valid : ∀ session ∈ sessions, ValidSession session

variable {contents : String} {reader : LedgerReader} {sessions : List AgentSession}

theorem validLedger_of_readLedger (read : readLedger reader contents = .ok sessions) :
    ValidLedger sessions := by
  unfold readLedger at read
  split at read
  · cases read
  split at read
  · cases read
  rename_i list parsed
  split at read
  · cases read
  rename_i passed
  cases read
  push Not at passed
  exact ⟨passed.2.1, passed.2.2⟩

theorem readLedger_ledgerText (reader : LedgerReader) (valid : ValidLedger sessions)
    (fits : (ledgerText sessions).utf8ByteSize ≤ maxSessionFileBytes) :
    readLedger reader (ledgerText sessions) = .ok sessions := by
  have passed : ¬(agentSessionSchemaVersion ≠ agentSessionSchemaVersion ∨
      maxRetainedSessions < sessions.length ∨ ∃ session ∈ sessions, ¬ValidSession session) := by
    push Not
    exact ⟨rfl, valid.count, valid.valid⟩
  have inputs : ∀ session ∈ sessions, ∀ input ∈ session.needsInput, input.isValid :=
    fun session member => (valid.valid session member).needsInput
  rw [readLedger, if_neg (not_lt.2 fits), parse_ledgerText reader inputs]
  exact if_neg passed

theorem eq_of_readLedger_ledgerText {accepted : List AgentSession}
    (inputs : ∀ session ∈ sessions, ∀ input ∈ session.needsInput, input.isValid)
    (read : readLedger reader (ledgerText sessions) = .ok accepted) : accepted = sessions := by
  have parsed := parse_ledgerText reader inputs
  unfold readLedger at read
  split at read
  · cases read
  rw [parsed] at read
  dsimp only at read
  split at read
  · cases read
  cases read
  rfl

/-- The reader accepts the file, or there is no file yet. -/
def Readable (reader : LedgerReader) (file : Option String) : Prop :=
  ∀ contents, file = some contents → ∃ sessions, readLedger reader contents = .ok sessions

variable {env : CallEnv}

theorem writeLocked_eq_ok (written : writeLocked env sessions = .ok contents) :
    contents = ledgerText sessions ∧ (ledgerText sessions).utf8ByteSize ≤ maxSessionFileBytes := by
  unfold writeLocked at written
  split at written
  · cases written
  rename_i fits
  split at written
  · cases written
    exact ⟨rfl, not_lt.1 fits⟩
  cases written

theorem readable_of_writeLocked (reader : LedgerReader) (valid : ValidLedger sessions)
    (written : writeLocked env sessions = .ok contents) :
    readLedger reader contents = .ok sessions := by
  obtain ⟨same, fits⟩ := writeLocked_eq_ok written
  rw [same]
  exact readLedger_ledgerText reader valid fits

variable {session : AgentSession}

theorem ValidSession.live (valid : ValidSession session) (live : session.status.isLive = true) :
    session.endedAtUnixMs = none ∧ session.failure = none := by
  have consistent := valid.consistent
  unfold statusConsistent at consistent
  split at consistent
  case h_1 => exact ⟨consistent.1, consistent.2.1⟩
  case h_3 => exact ⟨consistent.1, consistent.2.1⟩
  case h_4 => exact ⟨consistent.1, consistent.2.1⟩
  all_goals
    rename_i ended
    rw [ended] at live
    cases live

variable {needsInput : Option AgentNeedsInput}

theorem ValidSession.stamped {session : AgentSession} (valid : ValidSession session) {now : Int64}
    (started : session.startedAtUnixMs ≤ now) {status : AgentSessionStatus} {ended : Option Int64}
    {failure : Option AgentSessionFailure} (endsNow : ended = none ∨ ended = some now)
    (consistent : statusConsistent { session with
      lastHeartbeatAtUnixMs := now
      status := status
      endedAtUnixMs := ended
      failure := failure
      needsInput := needsInput }) :
    ValidSession { session with
      lastHeartbeatAtUnixMs := now
      status := status
      endedAtUnixMs := ended
      failure := failure
      needsInput := needsInput } where
  __ := valid
  heartbeat := started
  consistent := consistent
  ended := by
    rcases endsNow with rfl | rfl
    · rfl
    simp

variable {now : Int64}

section

variable (valid : ValidSession session)
include valid

theorem ValidSession.started_le_of_stale
    (stale : staleHeartbeatAfterMs < saturatingSub now session.lastHeartbeatAtUnixMs) :
    session.lastHeartbeatAtUnixMs ≤ now ∧ session.startedAtUnixMs ≤ now := by
  have later : session.lastHeartbeatAtUnixMs ≤ now := by
    rw [Int64.le_iff_toInt_le]
    simp only [staleHeartbeatAfterMs, saturatingSub] at stale
    omega
  exact ⟨later, Int64.le_trans valid.heartbeat later⟩

theorem ValidSession.interrupted
    (later : session.lastHeartbeatAtUnixMs ≤ now) (failure : AgentSessionFailure) :
    ValidSession (session.interrupted now failure) where
  __ := valid
  consistent := ⟨some_ne_none now, some_ne_none failure, rfl⟩
  ended := by
    simp only [AgentSession.interrupted, all_some]
    exact decide_eq_true later

theorem ValidSession.recoverStale
    (now : Int64) : ValidSession (recoverStaleSession now session) := by
  unfold recoverStaleSession
  split
  · rename_i stale
    have later := (valid.started_le_of_stale stale).1
    split
    · exact valid.interrupted later _
    · exact valid.interrupted later _
    · exact valid.interrupted later _
    exact valid
  exact valid

theorem ValidSession.recoverOrphaned
    (started : session.status.isLive = true → session.startedAtUnixMs ≤ now) :
    ValidSession (recoverOrphanedSession now session) := by
  have consistent : ∀ failure, statusConsistent { session with
      lastHeartbeatAtUnixMs := now
      status := .interrupted
      endedAtUnixMs := some now
      failure := some failure
      needsInput := none } := fun failure =>
    ⟨some_ne_none now, some_ne_none failure, rfl⟩
  unfold recoverOrphanedSession
  split
  · rename_i status
    exact valid.stamped (started (by rw [status]; rfl)) (.inr rfl) (consistent _)
  · rename_i status
    exact valid.stamped (started (by rw [status]; rfl)) (.inr rfl) (consistent _)
  · rename_i status
    exact valid.stamped (started (by rw [status]; rfl)) (.inr rfl) (consistent _)
  exact valid

end

/-! ### Lists of sessions -/

theorem ValidLedger.recoverStale (valid : ValidLedger sessions)
    (now : Int64) : ValidLedger (recoverStale now sessions) where
  count := by
    rw [AgentSessions.recoverStale, length_map]
    exact valid.count
  valid := by
    intro session member
    obtain ⟨old, present, same⟩ := mem_map.1 member
    subst same
    exact (valid.valid old present).recoverStale now

theorem ValidLedger.modifyFirst (valid : ValidLedger sessions)
    {matching : AgentSession → Bool} {change : AgentSession → AgentSession}
    (changed : ∀ session, sessions.find? matching = some session → ValidSession (change session)) :
    ValidLedger (modifyFirst matching change sessions) where
  count := by
    rw [length_modifyFirst]
    exact valid.count
  valid := by
    intro session member
    rcases mem_modifyFirst member with kept | ⟨old, found, same⟩
    · exact valid.valid session kept
    rw [same]
    exact changed old found

theorem pruneTerminalSessions_sublist (sessions : List AgentSession) :
    (pruneTerminalSessions sessions).Sublist sessions := by
  unfold pruneTerminalSessions
  split
  · exact List.Sublist.refl _
  split
  · exact List.Sublist.refl _
  exact eraseIdx_sublist ..

theorem oldest_mem (entries : List (AgentSession × ℕ)) (best : Option (AgentSession × ℕ)) :
    let oldest := entries.foldl (fun best entry =>
      match best with
      | none => some entry
      | some kept => if startedBefore entry.1 kept.1 then some entry else some kept) best
    (∀ entry, oldest = some entry → entry ∈ entries ∨ best = some entry) ∧
      (oldest = none → entries = [] ∧ best = none) := by
  induction entries generalizing best with
  | nil => simp
  | cons entry rest ih =>
    simp only [foldl_cons]
    cases best with
    | none =>
      obtain ⟨found, missing⟩ := ih (some entry)
      constructor
      · intro other same
        rcases found other same with inRest | isEntry
        · exact .inl (mem_cons_of_mem _ inRest)
        cases isEntry
        exact .inl mem_cons_self
      intro none
      cases (missing none).2
    | some kept =>
      by_cases before : startedBefore entry.1 kept.1 = true
      · simp only [before, if_true]
        obtain ⟨found, missing⟩ := ih (some entry)
        constructor
        · intro other same
          rcases found other same with inRest | isEntry
          · exact .inl (mem_cons_of_mem _ inRest)
          cases isEntry
          exact .inl mem_cons_self
        intro none
        cases (missing none).2
      simp only [before]
      obtain ⟨found, missing⟩ := ih (some kept)
      constructor
      · intro other same
        rcases found other same with inRest | isKept
        · exact .inl (mem_cons_of_mem _ inRest)
        exact .inr isKept
      intro none
      cases (missing none).2

theorem oldestEnded_eq_some {index : ℕ} (found : oldestEnded sessions = some index) :
    ∃ session, sessions[index]? = some session ∧ session.status.isLive = false := by
  obtain ⟨entry, oldest, position⟩ := map_eq_some_iff.1 found
  rcases (oldest_mem _ none).1 entry oldest with member | isNone
  · obtain ⟨inZip, ended⟩ := mem_filter.1 member
    refine ⟨entry.1, ?_, by simpa using ended⟩
    rw [← position]
    exact mem_zipIdx_iff_getElem?.1 inZip
  cases isNone

theorem oldestEnded_ne_none (member : session ∈ sessions) (ended : session.status.isLive = false) :
    oldestEnded sessions ≠ none := by
  intro none
  have empty := ((oldest_mem _ .none).2 (map_eq_none_iff.1 none)).1
  obtain ⟨index, found⟩ := mem_iff_getElem?.1 member
  have inZip : (session, index) ∈ sessions.zipIdx := mem_zipIdx_iff_getElem?.2 found
  have kept : (session, index) ∈ sessions.zipIdx.filter fun entry => !entry.1.status.isLive := by
    apply mem_filter.2
    exact ⟨inZip, by simp [ended]⟩
  rw [empty] at kept
  cases kept

theorem length_pruneTerminalSessions_lt (count : sessions.length ≤ maxRetainedSessions)
    (room : sessions.length < maxRetainedSessions ∨
      ∃ session ∈ sessions, session.status.isLive = false) :
    (pruneTerminalSessions sessions).length < maxRetainedSessions := by
  unfold pruneTerminalSessions
  split
  · assumption
  rename_i full
  obtain ⟨session, member, ended⟩ := room.resolve_left full
  split
  · rename_i none
    exact absurd none (oldestEnded_ne_none member ended)
  rename_i index found
  obtain ⟨old, here, _⟩ := oldestEnded_eq_some found
  have inside := (List.getElem?_eq_some_iff.1 here).1
  rw [length_eraseIdx_of_lt inside]
  omega

/-- The session a call is about, and the states in which it takes effect. -/
def SessionCall.target : SessionCall → Option (Uuid × (AgentSessionStatus → Bool))
  | .acceptHandoff id | .acceptOwnedProcess id | .failLaunch id _ | .rejectLaunch id =>
    some (id, fun status => status = .launching)
  | .heartbeat id | .finish id | .fail id _ | .interrupt id _ | .setChangeRequestProposals id _ =>
    some (id, isRunningOrStopping)
  | .setNeedsInput id _ => some (id, fun status => status = .running)
  | .requestStop id => some (id, fun status => status = .launching || status = .running)
  | _ => none

/-- The sessions whose time the call sets. -/
def SessionCall.stamps (call : SessionCall) (sessions : List AgentSession) : List AgentSession :=
  match call with
  | .reopen => sessions.filter fun session => session.status.isLive
  | call =>
    match call.target with
    | none => []
    | some (id, eligible) =>
      (sessions.find? fun session => session.sessionId = id).toList.filter fun session =>
        eligible session.status

/-- The workspace in which the call opens a session. -/
def SessionCall.opens : SessionCall → Option Uuid
  | .start workspaceId _ _ _ | .beginLaunch workspaceId _ _ _ => some workspaceId
  | _ => none

def SessionCall.input : SessionCall → Option AgentNeedsInput
  | .setNeedsInput _ needsInput => needsInput
  | _ => none

/-- The condition under which a call keeps the ledger readable. -/
structure CallMeets (sessions : List AgentSession) (env : CallEnv) (call : SessionCall) : Prop where
  clock : ∀ now, nowUnixMs env = .ok now →
    ∀ session ∈ call.stamps sessions, session.startedAtUnixMs ≤ now
  room : ∀ now, nowUnixMs env = .ok now → call.opens ≠ none →
    sessions.length < maxRetainedSessions ∨
      ∃ session ∈ recoverStale now sessions, session.status.isLive = false
  identity : ∀ workspaceId, call.opens = some workspaceId → workspaceId ≠ 0 ∧ env.fresh ≠ 0
  input : ∀ input, call.input = some input → input.isValid = true

/-- Every call of a run meets the condition in the ledger that it reads. -/
def RunMeets (reader : LedgerReader) : Option String → List (SessionCall × CallEnv) → Prop
  | _, [] => True
  | file, (call, env) :: rest =>
    (∀ contents, file = some contents → ∀ sessions, readLedger reader contents = .ok sessions →
      CallMeets sessions env call) ∧
    RunMeets reader (perform reader env file call).2 rest

/-- A session is kept as it is, or was live before. -/
def Kept (old new : AgentSession) : Prop :=
  new = old ∨ old.status.isLive = true ∧ new.sessionId = old.sessionId

/-- How a ledger changes: live sessions may change in place, one ended session of a full ledger may
be dropped, and one new session may be appended. -/
def Evolves (before after : List AgentSession) : Prop :=
  ∃ updated, List.Forall₂ Kept before updated ∧
    (after = updated ∨
      (∃ new, after = updated ++ [new]) ∨
      ∃ index session new, maxRetainedSessions ≤ before.length ∧ updated[index]? = some session ∧
        session.status.isLive = false ∧ after = updated.eraseIdx index ++ [new])

theorem Kept.refl (session : AgentSession) : Kept session session :=
  .inl rfl

theorem Kept.trans {first second third : AgentSession} (left : Kept first second)
    (right : Kept second third) : Kept first third := by
  rcases left with rfl | ⟨live, sameId⟩
  · exact right
  rcases right with rfl | ⟨_, otherId⟩
  · exact .inr ⟨live, sameId⟩
  exact .inr ⟨live, otherId.trans sameId⟩

theorem forall₂_kept_trans {first second third : List AgentSession}
    (left : List.Forall₂ Kept first second) (right : List.Forall₂ Kept second third) :
    List.Forall₂ Kept first third := by
  induction left generalizing third with
  | nil => exact right
  | cons head _ ih =>
    cases right with
    | cons head' tail' => exact List.Forall₂.cons (head.trans head') (ih tail')

theorem evolves_refl (sessions : List AgentSession) : Evolves sessions sessions :=
  ⟨sessions, forall₂_same.2 fun session _ => Kept.refl session, .inl rfl⟩

variable {before : List AgentSession}

theorem evolves_of_forall₂ {after : List AgentSession}
    (kept : List.Forall₂ Kept before after) : Evolves before after :=
  ⟨after, kept, .inl rfl⟩

theorem recoverStaleSession_cases (now : Int64) (session : AgentSession) :
    recoverStaleSession now session = session ∨ session.status.isLive = true ∧
        ∃ failure, recoverStaleSession now session = session.interrupted now failure := by
  unfold recoverStaleSession
  split
  · split
    · rename_i status
      exact .inr ⟨by rw [status]; rfl, _, rfl⟩
    · rename_i status
      exact .inr ⟨by rw [status]; rfl, _, rfl⟩
    · rename_i status
      exact .inr ⟨by rw [status]; rfl, _, rfl⟩
    · exact .inl rfl
  exact .inl rfl

theorem recoverStaleSession_sessionId (now : Int64) (session : AgentSession) :
    (recoverStaleSession now session).sessionId = session.sessionId := by
  rcases recoverStaleSession_cases now session with same | ⟨_, failure, same⟩
  · rw [same]
  rw [same]
  rfl

theorem recoverStaleSession_live (live : (recoverStaleSession now session).status.isLive = true) :
    recoverStaleSession now session = session := by
  rcases recoverStaleSession_cases now session with same | ⟨_, failure, same⟩
  · exact same
  rw [same] at live
  cases live

theorem forall₂_recoverStale (now : Int64) (sessions : List AgentSession) :
    List.Forall₂ Kept sessions (recoverStale now sessions) := by
  rw [recoverStale, forall₂_map_right_iff]
  apply forall₂_same.2
  intro session _
  rcases recoverStaleSession_cases now session with same | ⟨live, failure, same⟩
  · exact .inl same
  exact .inr ⟨live, recoverStaleSession_sessionId now session⟩

theorem forall₂_recoverOrphaned (now : Int64) (sessions : List AgentSession) :
    List.Forall₂ Kept sessions (recoverOrphaned now sessions) := by
  rw [recoverOrphaned, forall₂_map_right_iff]
  apply forall₂_same.2
  intro session _
  unfold recoverOrphanedSession
  split
  · rename_i status
    exact .inr ⟨by rw [status]; rfl, rfl⟩
  · rename_i status
    exact .inr ⟨by rw [status]; rfl, rfl⟩
  · rename_i status
    exact .inr ⟨by rw [status]; rfl, rfl⟩
  exact .inl rfl

theorem find_recoverStale (now : Int64) (sessions : List AgentSession) (id : Uuid) :
    ((recoverStale now sessions).find? fun session => session.sessionId = id) =
      (sessions.find? fun session => session.sessionId = id).map (recoverStaleSession now) := by
  rw [recoverStale, find?_map]
  congr 2
  funext session
  simp [recoverStaleSession_sessionId]

theorem find_eligible {id : Uuid}
    (found : ((recoverStale now sessions).find? fun session => session.sessionId = id) = some session)
    (live : session.status.isLive = true) :
    (sessions.find? fun session => session.sessionId = id) = some session := by
  rw [find_recoverStale] at found
  obtain ⟨old, present, same⟩ := map_eq_some_iff.1 found
  subst same
  rw [recoverStaleSession_live live]
  exact present

section UpdateSession

variable {id : Uuid} {eligible : AgentSessionStatus → Bool} {rewrites : Bool}
  {change : AgentSession → AgentSession} {sessions written : List AgentSession}

theorem updateSession_written
    (result : (updateSession id eligible rewrites change sessions).written = some written) :
    written = sessions ∨
      ∃ session, (sessions.find? fun session => session.sessionId = id) = some session ∧
        eligible session.status = true ∧
        written = modifyFirst (fun session => session.sessionId = id) change sessions := by
  unfold updateSession at result
  split at result
  · cases result
  rename_i session found
  split at result
  · rename_i allowed
    cases result
    exact .inr ⟨session, found, allowed, rfl⟩
  cases rewrites with
  | false => cases result
  | true =>
    cases result
    exact .inl rfl

theorem validLedger_updateSession (valid : ValidLedger sessions)
    (changed : ∀ session, (sessions.find? fun session => session.sessionId = id) = some session →
      ValidSession session → eligible session.status = true → ValidSession (change session))
    (result : (updateSession id eligible rewrites change sessions).written = some written) :
    ValidLedger written := by
  rcases updateSession_written result with rfl | ⟨session, found, allowed, rfl⟩
  · exact valid
  apply valid.modifyFirst
  intro other again
  rw [found] at again
  cases again
  exact changed session found (valid.valid session (mem_of_find?_eq_some found)) allowed

theorem forall₂_updateSession (live : ∀ status, eligible status = true → status.isLive = true)
    (sameId : ∀ session, (change session).sessionId = session.sessionId)
    (result : (updateSession id eligible rewrites change sessions).written = some written) :
    List.Forall₂ Kept sessions written := by
  rcases updateSession_written result with rfl | ⟨session, found, allowed, rfl⟩
  · exact forall₂_same.2 fun session _ => Kept.refl session
  apply forall₂_modifyFirst
  · intro other _
    exact Kept.refl other
  intro other again
  rw [found] at again
  cases again
  exact .inr ⟨live _ allowed, sameId session⟩

end UpdateSession

/-! ### Calls -/

theorem nowUnixMs_nonneg (clock : nowUnixMs env = .ok now) : 0 ≤ now := by
  unfold nowUnixMs at clock
  split at clock
  · cases clock
  split at clock
  · rename_i milliseconds _ small
    cases clock
    rw [Int64.le_iff_toInt_le, Int64.toInt_ofNat_of_lt small]
    exact Int.natCast_nonneg milliseconds
  cases clock

/-- What a call writes: an evolution of what it read, and a readable ledger if it meets the
condition. -/
structure Writes (env : CallEnv) (call : SessionCall) (sessions written : List AgentSession) :
    Prop where
  evolves : Evolves sessions written
  valid : ValidLedger sessions → CallMeets sessions env call → ValidLedger written

section Bodies

variable {env : CallEnv} {now : Int64} {sessions written : List AgentSession} {id : Uuid}

variable {call : SessionCall}

variable {eligible : AgentSessionStatus → Bool}

theorem CallMeets.started (meets : CallMeets sessions env call) (clock : nowUnixMs env = .ok now)
    (target : call.target = some (id, eligible)) {session : AgentSession}
    (found : (sessions.find? fun session => session.sessionId = id) = some session)
    (allowed : eligible session.status = true) : session.startedAtUnixMs ≤ now := by
  apply meets.clock now clock
  unfold SessionCall.stamps
  cases call with
  | reopen => cases target
  | _ =>
    simp only [target, found]
    apply mem_filter.2
    exact ⟨by simp, allowed⟩

theorem writes_updateSession
    {change : AgentSession → AgentSession} (clock : nowUnixMs env = .ok now)
    (target : call.target = some (id, eligible))
    (live : ∀ status, eligible status = true → status.isLive = true)
    (sameId : ∀ session, (change session).sessionId = session.sessionId)
    (changed : ∀ session, CallMeets sessions env call → ValidSession session →
      session.startedAtUnixMs ≤ now → eligible session.status = true →
        ValidSession (change session))
    (result : (updateSession id eligible true change (recoverStale now sessions)).written =
      some written) : Writes env call sessions written where
  evolves :=
    evolves_of_forall₂ (forall₂_kept_trans (forall₂_recoverStale now sessions)
        (forall₂_updateSession live sameId result))
  valid := by
    intro valid meets
    apply validLedger_updateSession (valid.recoverStale now) _ result
    intro session found sessionValid allowed
    have before := find_eligible found (live _ allowed)
    exact changed session meets sessionValid (meets.started clock target before allowed) allowed

variable {status : AgentSessionStatus}

theorem isLive_of_launching
    (launching : decide (status = .launching) = true) : status.isLive = true := by
  rw [of_decide_eq_true launching]
  rfl

theorem isLive_of_running (running : decide (status = .running) = true) : status.isLive = true := by
  rw [of_decide_eq_true running]
  rfl

theorem isLive_of_isRunningOrStopping
    (open_ : isRunningOrStopping status = true) : status.isLive = true := by
  cases status <;> first | rfl | cases open_

theorem writes_heartbeat (clock : nowUnixMs env = .ok now)
    (target : call.target = some (id, isRunningOrStopping))
    (result : (updateRunning id none now sessions).written = some written) :
    Writes env call sessions written := by
  apply writes_updateSession clock target (fun _ => isLive_of_isRunningOrStopping) _ _ result
  · intro session
    rfl
  intro session _ valid started allowed
  have open_ := valid.live (isLive_of_isRunningOrStopping allowed)
  exact valid.stamped started (.inl open_.1) valid.consistent

variable {failure : Option AgentSessionFailure}

theorem writes_ending (clock : nowUnixMs env = .ok now)
    (target : call.target = some (id, isRunningOrStopping))
    (ends : status = .completed ∧ failure = none ∨
      (status = .failed ∨ status = .interrupted) ∧ failure ≠ none)
    (result : (updateRunning id (some (status, failure)) now sessions).written = some written) :
    Writes env call sessions written := by
  apply writes_updateSession clock target (fun _ => isLive_of_isRunningOrStopping) _ _ result
  · intro session
    rfl
  intro session _ valid started _
  rcases ends with ⟨rfl, rfl⟩ | ⟨rfl | rfl, failed⟩
  · exact valid.stamped started (.inr rfl) ⟨some_ne_none now, rfl, rfl⟩
  · exact valid.stamped started (.inr rfl) ⟨some_ne_none now, failed, rfl⟩
  exact valid.stamped started (.inr rfl) ⟨some_ne_none now, failed, rfl⟩

theorem writes_launch (clock : nowUnixMs env = .ok now)
    (target : call.target = some (id, fun status => decide (status = .launching)))
    (becomes : (status = .handoffAccepted ∨ status = .running) ∧ failure = none ∨
      status = .failed ∧ failure ≠ none)
    (result : (updateLaunch id status failure now sessions).written = some written) :
    Writes env call sessions written := by
  apply writes_updateSession clock target (fun _ => isLive_of_launching) _ _ result
  · intro session
    rfl
  intro session _ valid started allowed
  rcases becomes with ⟨rfl | rfl, rfl⟩ | ⟨rfl, failed⟩
  · exact valid.stamped started (.inr rfl) ⟨some_ne_none now, rfl, rfl⟩
  · apply valid.stamped started (.inl rfl)
    have consistent := valid.consistent
    simp only [statusConsistent, of_decide_eq_true allowed] at consistent
    refine ⟨rfl, rfl, ?_⟩
    show session.needsInput.all AgentNeedsInput.isValid = true
    rw [consistent.2.2]
    rfl
  exact valid.stamped started (.inr rfl) ⟨some_ne_none now, failed, rfl⟩

theorem writes_setNeedsInput (clock : nowUnixMs env = .ok now)
    (result : (setNeedsInput id needsInput now sessions).written = some written) :
    Writes env (.setNeedsInput id needsInput) sessions written := by
  apply writes_updateSession clock rfl (fun _ => isLive_of_running) _ _ result
  · intro session
    rfl
  intro session meets valid started allowed
  have open_ := valid.live (isLive_of_running allowed)
  apply valid.stamped started (.inl open_.1)
  simp only [statusConsistent, of_decide_eq_true allowed]
  refine ⟨open_.1, open_.2, ?_⟩
  cases needsInput with
  | none => rfl
  | some input => exact meets.input input rfl

theorem writes_setChangeRequestProposals {proposals : List AgentChangeRequestProposal}
    (clock : nowUnixMs env = .ok now)
    (bounded : ¬(16 < proposals.length ∨ ∃ proposal ∈ proposals, ¬validProposal proposal))
    (result : (setChangeRequestProposals id proposals now sessions).written = some written) :
    Writes env (.setChangeRequestProposals id proposals) sessions written := by
  push Not at bounded
  apply writes_updateSession clock rfl (fun _ => isLive_of_isRunningOrStopping) _ _ result
  · intro session
    rfl
  intro session _ valid started allowed
  have open_ := valid.live (isLive_of_isRunningOrStopping allowed)
  have stamped := valid.stamped started (.inl open_.1) valid.consistent
  exact ⟨stamped.version, stamped.sessionId, stamped.workspaceId, stamped.started,
    stamped.heartbeat, stamped.consistent, stamped.ended, bounded.1, bounded.2, stamped.linkCount,
    stamped.links⟩

theorem writes_setMrLinkProposals {proposals : List AgentMrLinkProposal}
    (bounded : ¬(16 < proposals.length ∨ ∃ proposal ∈ proposals, ¬validMrLinkProposal proposal))
    (result : (setMrLinkProposals id proposals sessions).written = some written) :
    Writes env (.setMrLinkProposals id proposals) sessions written where
  evolves := by
    apply evolves_of_forall₂
    apply forall₂_updateSession _ _ result
    · intro status
      exact isLive_of_isRunningOrStopping
    intro session
    rfl
  valid := by
    intro valid _
    push Not at bounded
    apply validLedger_updateSession valid _ result
    intro session _ old _
    exact ⟨old.version, old.sessionId, old.workspaceId, old.started, old.heartbeat, old.consistent,
      old.ended, old.proposalCount, old.proposals, bounded.1, bounded.2⟩

theorem writes_requestStop (clock : nowUnixMs env = .ok now)
    (result : (requestStop id now sessions).written = some written) :
    Writes env (.requestStop id) sessions written := by
  have live : ∀ status : AgentSessionStatus,
      (decide (status = .launching) || decide (status = .running)) = true →
        status.isLive = true := by
    intro status allowed
    rcases Bool.or_eq_true_iff.1 allowed with launching | running
    · exact isLive_of_launching launching
    exact isLive_of_running running
  constructor
  · apply evolves_of_forall₂
    apply forall₂_updateSession live _ result
    intro session
    rfl
  intro valid meets
  apply validLedger_updateSession valid _ result
  intro session found old allowed
  have open_ := old.live (live _ allowed)
  have started := meets.started clock rfl found allowed
  exact old.stamped started (.inl open_.1) ⟨open_.1, open_.2, rfl⟩

theorem writes_openSession {workspaceId : Uuid}
    {provider : AgentProvider} {terminalProvider : TerminalProvider}
    {category : AgentSessionCategory} (clock : nowUnixMs env = .ok now)
    (opens : call.opens = some workspaceId) (first : status = .launching ∨ status = .running)
    (result : (openSession status env.fresh workspaceId provider terminalProvider category now
      sessions).written = some written) : Writes env call sessions written := by
  cases result
  have count : (recoverStale now sessions).length = sessions.length := length_map ..
  constructor
  · refine ⟨recoverStale now sessions, forall₂_recoverStale now sessions, ?_⟩
    unfold pruneTerminalSessions
    split
    · exact .inr (.inl ⟨_, rfl⟩)
    rename_i full
    split
    · exact .inr (.inl ⟨_, rfl⟩)
    rename_i index found
    obtain ⟨session, here, ended⟩ := oldestEnded_eq_some found
    exact .inr (.inr ⟨index, session, _, by omega, here, ended, rfl⟩)
  intro valid meets
  have recovered := valid.recoverStale now
  have room := meets.room now clock (by rw [opens]; exact some_ne_none _)
  rw [← count] at room
  have space := length_pruneTerminalSessions_lt recovered.count room
  obtain ⟨workspaceKnown, fresh⟩ := meets.identity workspaceId opens
  constructor
  · rw [length_append]
    exact space
  intro session member
  rcases mem_append.1 member with old | new
  · exact recovered.valid session ((pruneTerminalSessions_sublist _).subset old)
  rw [mem_singleton.1 new]
  exact
    { version := rfl
      sessionId := fresh
      workspaceId := workspaceKnown
      started := nowUnixMs_nonneg clock
      heartbeat := Int64.le_refl now
      consistent := by
        rcases first with rfl | rfl <;> exact ⟨rfl, rfl, rfl⟩
      ended := rfl
      proposalCount := Nat.zero_le _
      proposals := fun _ inEmpty => nomatch inEmpty
      linkCount := Nat.zero_le _
      links := fun _ inEmpty => nomatch inEmpty }

theorem writes_listSessions {workspaceId : Option Uuid}
    (result : (listSessions workspaceId now sessions).written = some written) :
    Writes env (.list workspaceId) sessions written := by
  simp only [listSessions] at result
  split at result
  · cases result
    exact ⟨evolves_of_forall₂ (forall₂_recoverStale now sessions), fun valid _ =>
      valid.recoverStale now⟩
  cases result

end Bodies

/-- What one call does to the file: nothing, or it creates an empty ledger, or it replaces the ledger
that it read by what it writes. -/
inductive FileChange (reader : LedgerReader) (env : CallEnv) (call : SessionCall) :
    Option String → Option String → Prop where
  | unchanged (file : Option String) : FileChange reader env call file file
  | created (contents : String) (written : writeLocked env [] = .ok contents) :
      FileChange reader env call none (some contents)
  | replaced (old contents : String) (sessions written : List AgentSession)
      (read : readLedger reader old = .ok sessions) (writes : Writes env call sessions written)
      (stored : writeLocked env written = .ok contents) :
      FileChange reader env call (some old) (some contents)

section Frames

variable {reader : LedgerReader} {env : CallEnv} {call : SessionCall} {file : Option String}

theorem readLocked_eq_ok {sessions : List AgentSession}
    (read : readLocked reader env file = .ok sessions) :
    ∃ contents, file = some contents ∧ readLedger reader contents = .ok sessions := by
  unfold readLocked at read
  split at read
  · cases read
  split at read
  · exact ⟨_, rfl, read⟩
  cases read

theorem fileChange_withLedger {body : List AgentSession → LedgerChange}
    (writes : ∀ sessions written, (body sessions).written = some written →
      Writes env call sessions written) :
    FileChange reader env call file (withLedger reader env file body).2 := by
  unfold withLedger
  cases read : readLocked reader env file with
  | error error => exact .unchanged file
  | ok sessions =>
    obtain ⟨old, rfl, accepted⟩ := readLocked_eq_ok read
    simp only
    cases result : (body sessions).written with
    | none => exact .unchanged _
    | some written =>
      simp only
      cases stored : writeLocked env written with
      | error error => exact .unchanged _
      | ok contents =>
        exact .replaced old contents sessions written accepted
          (writes sessions written result) stored

theorem fileChange_withClock {body : Int64 → List AgentSession → LedgerChange}
    (writes : ∀ now sessions written, nowUnixMs env = .ok now →
      (body now sessions).written = some written → Writes env call sessions written) :
    FileChange reader env call file (withClock reader env file body).2 := by
  unfold withClock
  cases clock : nowUnixMs env with
  | error error => exact .unchanged file
  | ok now =>
    exact fileChange_withLedger fun sessions written => writes now sessions written clock

theorem fileChange_openStore :
    FileChange reader env .reopen file (openStore reader env file).2 := by
  unfold openStore
  cases file with
  | none =>
    cases stored : writeLocked env [] with
    | error error => exact .unchanged none
    | ok contents => exact .created contents stored
  | some old =>
    cases read : readLocked reader env (some old) with
    | error error => exact .unchanged _
    | ok sessions =>
      cases clock : nowUnixMs env with
      | error error => exact .unchanged _
      | ok now =>
        simp only
        split
        · exact .unchanged _
        cases stored : writeLocked env (recoverOrphaned now sessions) with
        | error error => exact .unchanged _
        | ok contents =>
          obtain ⟨_, same, accepted⟩ := readLocked_eq_ok read
          cases same
          apply FileChange.replaced old contents sessions _ accepted _ stored
          constructor
          · exact evolves_of_forall₂ (forall₂_recoverOrphaned now sessions)
          intro valid meets
          constructor
          · rw [recoverOrphaned, length_map]
            exact valid.count
          intro session member
          obtain ⟨before, present, same⟩ := mem_map.1 member
          subst same
          apply (valid.valid before present).recoverOrphaned
          intro live
          apply meets.clock now clock
          exact mem_filter.2 ⟨present, live⟩

end Frames

theorem perform_fileChange (reader : LedgerReader) (env : CallEnv) (file : Option String)
    (call : SessionCall) : FileChange reader env call file (perform reader env file call).2 := by
  cases call with
  | reopen => exact fileChange_openStore
  | start workspaceId provider terminalProvider category =>
    exact fileChange_withClock fun now sessions written clock result =>
      writes_openSession clock rfl (.inr rfl) result
  | beginLaunch workspaceId provider terminalProvider category =>
    exact fileChange_withClock fun now sessions written clock result =>
      writes_openSession clock rfl (.inl rfl) result
  | acceptHandoff id =>
    exact fileChange_withClock fun now sessions written clock result =>
      writes_launch clock rfl (.inl ⟨.inl rfl, rfl⟩) result
  | acceptOwnedProcess id =>
    exact fileChange_withClock fun now sessions written clock result =>
      writes_launch clock rfl (.inl ⟨.inr rfl, rfl⟩) result
  | failLaunch id failure =>
    exact fileChange_withClock fun now sessions written clock result =>
      writes_launch clock rfl (.inr ⟨rfl, some_ne_none failure⟩) result
  | rejectLaunch id =>
    exact fileChange_withClock fun now sessions written clock result =>
      writes_launch clock rfl (.inr ⟨rfl, some_ne_none _⟩) result
  | heartbeat id =>
    exact fileChange_withClock fun now sessions written clock result =>
      writes_heartbeat clock rfl result
  | setNeedsInput id needsInput =>
    exact fileChange_withClock fun now sessions written clock result =>
      writes_setNeedsInput clock result
  | setChangeRequestProposals id proposals =>
    simp only [perform]
    split
    · exact .unchanged file
    rename_i bounded
    exact fileChange_withClock fun now sessions written clock result =>
      writes_setChangeRequestProposals clock bounded result
  | setMrLinkProposals id proposals =>
    simp only [perform]
    split
    · exact .unchanged file
    rename_i bounded
    exact fileChange_withLedger fun sessions written result =>
      writes_setMrLinkProposals bounded result
  | finish id =>
    exact fileChange_withClock fun now sessions written clock result =>
      writes_ending clock rfl (.inl ⟨rfl, rfl⟩) result
  | fail id failure =>
    exact fileChange_withClock fun now sessions written clock result =>
      writes_ending clock rfl (.inr ⟨.inl rfl, some_ne_none failure⟩) result
  | requestStop id =>
    exact fileChange_withClock fun now sessions written clock result =>
      writes_requestStop clock result
  | interrupt id failure =>
    exact fileChange_withClock fun now sessions written clock result =>
      writes_ending clock rfl (.inr ⟨.inr rfl, some_ne_none failure⟩) result
  | list workspaceId =>
    exact fileChange_withClock fun now sessions written clock result =>
      writes_listSessions result

theorem perform_evolves (env : CallEnv) (call : SessionCall) {old : String}
    (read : readLedger reader old = .ok before) :
    (perform reader env (some old) call).2 = some old ∨
      ∃ written, (perform reader env (some old) call).2 = some (ledgerText written) ∧
        (ledgerText written).utf8ByteSize ≤ maxSessionFileBytes ∧
        Writes env call before written := by
  have change := perform_fileChange reader env (some old) call
  generalize (perform reader env (some old) call).2 = after at change
  cases change with
  | unchanged => exact .inl rfl
  | replaced _ contents sessions written again writes stored =>
    rw [read] at again
    cases again
    obtain ⟨same, fits⟩ := writeLocked_eq_ok stored
    exact .inr ⟨written, by rw [same], fits, writes⟩

variable {file : Option String}

theorem perform_readable {call : SessionCall} (readable : Readable reader file)
    (meets : ∀ contents, file = some contents → ∀ sessions,
      readLedger reader contents = .ok sessions → CallMeets sessions env call) :
    Readable reader (perform reader env file call).2 := by
  have change := perform_fileChange reader env file call
  generalize (perform reader env file call).2 = after at change
  cases change with
  | unchanged => exact readable
  | created new written =>
    intro contents same
    cases same
    exact ⟨[], readable_of_writeLocked reader ⟨Nat.zero_le _, fun _ member => nomatch member⟩
      written⟩
  | replaced old new sessions written read writes stored =>
    intro contents same
    cases same
    have valid := writes.valid (validLedger_of_readLedger read) (meets old rfl sessions read)
    exact ⟨written, readable_of_writeLocked reader valid stored⟩

theorem ledgerRun_readable {steps : List (SessionCall × CallEnv)} (readable : Readable reader file)
    (meets : RunMeets reader file steps) : Readable reader (ledgerRun reader file steps) := by
  induction steps generalizing file with
  | nil => exact readable
  | cons step rest ih =>
    obtain ⟨call, env⟩ := step
    exact ih (perform_readable readable meets.1) meets.2

theorem runMeets_append {first second : List (SessionCall × CallEnv)} :
    RunMeets reader file (first ++ second) ↔
      RunMeets reader file first ∧ RunMeets reader (ledgerRun reader file first) second := by
  induction first generalizing file with
  | nil => simp [RunMeets, ledgerRun]
  | cons step rest ih =>
    obtain ⟨call, env⟩ := step
    simp only [cons_append, RunMeets, ledgerRun, ih, and_assoc]

/-- In every run whose calls meet the condition, the ledger is readable after every call, and a call
changes no ended session, except that retention may drop one. -/
theorem ledger_stays_readable (reader : LedgerReader) (steps : List (SessionCall × CallEnv))
    (call : SessionCall) (env : CallEnv) (meets : RunMeets reader none (steps ++ [(call, env)])) :
    Readable reader (ledgerRun reader none steps) ∧
      Readable reader (perform reader env (ledgerRun reader none steps) call).2 ∧
      ∀ old, ledgerRun reader none steps = some old → ∀ before, readLedger reader old = .ok before →
          ∃ new after, (perform reader env (ledgerRun reader none steps) call).2 = some new ∧
            readLedger reader new = .ok after ∧ Evolves before after := by
  obtain ⟨earlier, last, _⟩ := runMeets_append.1 meets
  have empty : Readable reader none := fun _ same => nomatch same
  have readable := ledgerRun_readable empty earlier
  refine ⟨readable, perform_readable readable last, ?_⟩
  intro old same before read
  have allowed := last old same before read
  rw [same]
  rcases perform_evolves env call read with unchanged | ⟨after, stored, fits, writes⟩
  · exact ⟨old, before, unchanged, read, evolves_refl before⟩
  · have valid := writes.valid (validLedger_of_readLedger read) allowed
    exact ⟨ledgerText after, after, stored, readLedger_ledgerText reader valid fits, writes.evolves⟩

section Example

def callAt (milliseconds : ℕ) : CallEnv where
  clock := some milliseconds
  fresh := 1
  readable := true
  writable := true

def firstStart : SessionCall :=
  .start 7 .codex .warp .review

def firstSession (heartbeat : Int64) : AgentSession where
  schemaVersion := agentSessionSchemaVersion
  sessionId := 1
  workspaceId := 7
  provider := .codex
  terminal := .warp
  category := .review
  status := .running
  startedAtUnixMs := 1000
  lastHeartbeatAtUnixMs := heartbeat
  endedAtUnixMs := none
  failure := none
  needsInput := none
  changeRequestProposals := []
  mrLinkProposals := []

theorem ledgerText_fits {sessions : List AgentSession}
    (short : (Json.prettyChars 0 (AgentSessionList.toJson
      { schemaVersion := agentSessionSchemaVersion, sessions := sessions, observedSessions := [],
        unassignedWork := [] })).length ≤ 1000000) :
    (ledgerText sessions).utf8ByteSize ≤ maxSessionFileBytes := by
  have bytes := Text.utf8ByteSize_ofList_le (Json.prettyChars 0 (AgentSessionList.toJson
      { schemaVersion := agentSessionSchemaVersion, sessions := sessions, observedSessions := [],
        unassignedWork := [] }))
  have limit : maxSessionFileBytes = 4194304 := rfl
  simp only [ledgerText, Json.pretty]
  omega

theorem emptyLedger_fits : (ledgerText []).utf8ByteSize ≤ maxSessionFileBytes :=
  ledgerText_fits (by decide)

theorem read_emptyLedger (reader : LedgerReader) : readLedger reader (ledgerText []) = .ok [] :=
  readLedger_ledgerText reader ⟨Nat.zero_le _, fun _ member => nomatch member⟩ emptyLedger_fits

theorem perform_reopen (reader : LedgerReader) (milliseconds : ℕ) :
    (perform reader (callAt milliseconds) none .reopen).2 = some (ledgerText []) := by
  simp only [perform, openStore, writeLocked, if_neg (not_lt.2 emptyLedger_fits), callAt, if_true]

variable {milliseconds : ℕ}

theorem nowUnixMs_callAt (small : milliseconds < 2 ^ 63) :
    nowUnixMs (callAt milliseconds) = .ok (Int64.ofNat milliseconds) :=
  if_pos small

variable {reader : LedgerReader}

theorem perform_written {old : String}
    {before after : List AgentSession} (body : Int64 → List AgentSession → LedgerChange)
    (small : milliseconds < 2 ^ 63) (read : readLedger reader old = .ok before)
    (result : (body (Int64.ofNat milliseconds) before).written = some after)
    (fits : (ledgerText after).utf8ByteSize ≤ maxSessionFileBytes) :
    (withClock reader (callAt milliseconds) (some old) body).2 = some (ledgerText after) := by
  have locked : readLocked reader (callAt milliseconds) (some old) = .ok before := read
  have stored : writeLocked (callAt milliseconds) after = .ok (ledgerText after) := by
    rw [writeLocked, if_neg (not_lt.2 fits)]
    rfl
  simp only [withClock, nowUnixMs_callAt small, withLedger, locked, result, stored]

set_option maxRecDepth 10000 in
theorem firstSession_fits : (ledgerText [firstSession 1000]).utf8ByteSize ≤ maxSessionFileBytes ∧
      (ledgerText [firstSession 500]).utf8ByteSize ≤ maxSessionFileBytes :=
  ⟨ledgerText_fits (by decide +kernel), ledgerText_fits (by decide +kernel)⟩

theorem perform_firstStart (reader : LedgerReader) :
    (perform reader (callAt 1000) (some (ledgerText [])) firstStart).2 =
      some (ledgerText [firstSession 1000]) := by
  have result : (openSession .running 1 7 .codex .warp .review (Int64.ofNat 1000) []).written =
      some [firstSession 1000] := by
    simp only [openSession, recoverStale, map_nil]
    rfl
  have step := perform_written (openSession .running 1 7 .codex .warp .review)
    (show 1000 < 2 ^ 63 by decide) (read_emptyLedger reader) result firstSession_fits.1
  show (withClock reader (callAt 1000) (some (ledgerText []))
    (openSession .running 1 7 .codex .warp .review)).2 = _
  exact step

theorem updateRunning_firstSession :
    (updateRunning 1 none (Int64.ofNat 500) [firstSession 1000]).written =
      some [firstSession 500] := by
  have fresh : recoverStale (Int64.ofNat 500) [firstSession 1000] = [firstSession 1000] := by
    have recent : ¬staleHeartbeatAfterMs <
        saturatingSub (Int64.ofNat 500) (firstSession 1000).lastHeartbeatAtUnixMs := by decide
    simp only [recoverStale, map_cons, map_nil, recoverStaleSession, if_neg recent]
  rw [updateRunning, fresh]
  rfl

theorem perform_firstHeartbeat
    (read : readLedger reader (ledgerText [firstSession 1000]) = .ok [firstSession 1000]) :
    (perform reader (callAt 500) (some (ledgerText [firstSession 1000])) (.heartbeat 1)).2 =
      some (ledgerText [firstSession 500]) := by
  simp only [perform]
  apply perform_written
  · show 500 < 2 ^ 63
    decide
  · exact read
  · exact updateRunning_firstSession
  exact firstSession_fits.2

def plainReader : LedgerReader where
  acceptsObserved := fun _ => true
  acceptsUnassigned := fun _ => true

/-- A first call creates the ledger and a second one starts a session in it. -/
theorem ledger_stays_readable_firstStart : Readable plainReader
      (perform plainReader (callAt 1000) (ledgerRun plainReader none [(.reopen, callAt 0)])
        firstStart).2 := by
  have created := perform_reopen plainReader 0
  have meets : RunMeets plainReader none ([(.reopen, callAt 0)] ++ [(firstStart, callAt 1000)]) := by
    constructor
    · intro contents same
      cases same
    rw [created]
    refine ⟨?_, trivial⟩
    intro contents same sessions read
    cases same
    rw [read_emptyLedger] at read
    cases read
    constructor
    · intro now clock session member
      cases member
    · intro now clock opens
      exact .inl (by decide)
    · intro workspaceId opens
      cases opens
      exact ⟨by decide, by decide⟩
    · intro input present
      cases present
  exact (ledger_stays_readable plainReader [(.reopen, callAt 0)] firstStart (callAt 1000) meets).2.1

theorem not_readable_firstSession (reader : LedgerReader) :
    ¬Readable reader (some (ledgerText [firstSession 500])) := by
  intro readable
  obtain ⟨accepted, reread⟩ := readable _ rfl
  have inputs : ∀ session ∈ [firstSession 500], ∀ input ∈ session.needsInput, input.isValid := by
    intro session member input present
    rw [mem_singleton.1 member] at present
    cases present
  have same := eq_of_readLedger_ledgerText inputs reread
  have checked := (validLedger_of_readLedger reread).valid (firstSession 500)
    (by rw [same]; exact mem_cons_self)
  have refused : ¬ValidSession (firstSession 500) := by decide
  exact refused checked

/-- A session starts at one second and its heartbeat reads half a second: the ledger that the heartbeat
writes is refused by the reader. -/
theorem ledger_locked_out : ¬Readable plainReader (ledgerRun plainReader none
        [(.reopen, callAt 0), (firstStart, callAt 1000), (.heartbeat 1, callAt 500)]) := by
  have valid : ValidLedger [firstSession 1000] := by
    constructor
    · decide
    · intro session member
      rw [mem_singleton.1 member]
      decide
  have read := readLedger_ledgerText plainReader valid firstSession_fits.1
  rw [ledgerRun, perform_reopen, ledgerRun, perform_firstStart, ledgerRun,
    perform_firstHeartbeat read, ledgerRun]
  exact not_readable_firstSession plainReader

end Example

end Wts.AgentSessions
