import Geoflow.Proofs.Store.Transcript

set_option autoImplicit false

namespace Geoflow

/-- The session as it is read later: with all its counts, and with the time that its text has. -/
def RunSession.asStored (session : RunSession) : RunSession :=
  { session with createdAt := (Instant.readPlain? session.createdAt.toOffsetText).getD .epoch }

/-- The signed number of a count has its bits, so no count is lost in a row. -/
theorem SessionRow.read_ofSession (session : RunSession) :
    (SessionRow.ofSession session).read = session.asStored := by
  simp only [read, ofSession, RunSession.asStored, UInt64.toUInt64_toInt64]

/-- Counts beyond the signed numbers are kept as negative ones. -/
example :
    let session : RunSession := ⟨7, 18446744073709551615, 9223372036854775808, 0, 0, 1, .epoch⟩
    (SessionRow.ofSession session).totalCount = -1 ∧
      session.asStored.totalCount = 18446744073709551615 := by
  decide

def StoreChange.session? : StoreChange → Option RunSession
  | .insertSession session => some session
  | _ => none

def StoreEntry.session? : StoreEntry → Option RunSession
  | ⟨.insertSession session, .ok _⟩ => some session
  | _ => none

/-- The sessions that came in, in the order of the calls. -/
def sessionsIn (log : List StoreEntry) : List RunSession := log.filterMap StoreEntry.session?

namespace Store

variable {s t : Store} {change : StoreChange} {reply : Except StoreError StoreReply}

def sessionRows (s : Store) : List SessionRow := s.sessions.rows.map Prod.snd

/-- A change puts the session that comes in with it behind all others, and no other change touches
the sessions. -/
theorem Effect.sessionRows (effect : Effect s change t reply) :
    t.sessionRows =
      s.sessionRows ++ (sessionsIn [⟨change, reply⟩]).map SessionRow.ofSession := by
  cases effect with
  | insertSession session room =>
    simp [Store.sessionRows, Table.push, sessionsIn, StoreEntry.session?]
  | refused fault =>
    have none : StoreEntry.session? ⟨change, .error (.database fault)⟩ = none := by
      cases change <;> rfl
    simp [sessionsIn, none]
  | insertSource | insertPipeline | updateConfig | deletePipeline | insertSync | updateLastSync
  | insertPoints =>
    simp [Store.sessionRows, addPoints, sessionsIn, StoreEntry.session?]

theorem after_sessionRows (changes : List StoreChange) :
    (after changes).sessionRows =
      (sessionsIn (transcript {} changes)).map SessionRow.ofSession := by
  apply transcript_induction
    (motive := fun log s => s.sessionRows = (sessionsIn log).map SessionRow.ofSession)
  · rfl
  · intro log s change t reply _ same effect
    rw [effect.sessionRows, same, ← List.map_append, sessionsIn, sessionsIn, sessionsIn,
      ← List.filterMap_append]

theorem listSessions_eq (s : Store) (ownerId : Int64) (limit : UInt32) :
    s.listSessions ownerId limit =
      ((s.sessionRows.filter fun row => row.ownerId == ownerId).reverse.take limit.toNat).map
        SessionRow.read := by
  rw [listSessions, Store.sessionRows, List.filter_map, ← List.map_reverse, ← List.map_take,
    List.map_map, List.filter_reverse]
  rfl

/-- A change takes at most one number of the sessions. -/
theorem Effect.issued_sessions_le (effect : Effect s change t reply) :
    t.sessions.issued ≤ s.sessions.issued + 1 := by
  cases effect with
  | insertSession session room => exact Nat.le_refl _
  | refused | insertSource | insertPipeline | updateConfig | deletePipeline | insertSync
  | updateLastSync | insertPoints => exact Nat.le_succ _

/-- With a number left, the session that a change asks to store comes in. -/
theorem Sound.session?_perform (sound : s.Sound) (room : s.sessions.HasRoom)
    (change : StoreChange) :
    StoreEntry.session? ⟨change, (change.perform s).2⟩ = change.session? := by
  cases change with
  | insertSession session =>
    simp only [StoreChange.perform, insertSession_of_room sound room]
    rfl
  | insertSource | insertPipeline | updateConfig | deletePipeline | insertSync | updateLastSync
  | insertPoints => rfl

/-- As long as there are numbers for all calls, every session comes in. -/
theorem Sound.sessionsIn_transcript (sound : s.Sound) (changes : List StoreChange)
    (room : s.sessions.issued + changes.length ≤ Table.greatestId) :
    sessionsIn (transcript s changes) = changes.filterMap StoreChange.session? := by
  induction changes generalizing s with
  | nil => rfl
  | cons change rest ih =>
    rw [List.length_cons] at room
    have grown := (sound.effect change).issued_sessions_le
    have first := sound.session?_perform (show s.sessions.HasRoom by omega) change
    have later := ih (sound.perform change) (by omega)
    rw [sessionsIn] at later
    rw [transcript, sessionsIn, List.filterMap_cons, List.filterMap_cons, first, later]

/-- After any history the list of an owner holds the last sessions that came in for it, as many as
are asked for if there are so many, the newest first. Each has its owner and its counts as they
were. Every session that was to be stored did come in, unless the numbers were used up. -/
theorem listSessions_newest (changes : List StoreChange) (ownerId : Int64) (limit : UInt32) :
    (after changes).listSessions ownerId limit =
        (((sessionsIn (transcript {} changes)).filter fun session =>
          session.ownerId == ownerId).reverse.take limit.toNat).map RunSession.asStored ∧
      (changes.length ≤ Table.greatestId →
        sessionsIn (transcript {} changes) = changes.filterMap StoreChange.session?) := by
  constructor
  · have owner : (fun row : SessionRow => row.ownerId == ownerId) ∘ SessionRow.ofSession =
        fun session => session.ownerId == ownerId := rfl
    have read : SessionRow.read ∘ SessionRow.ofSession = RunSession.asStored :=
      funext SessionRow.read_ofSession
    rw [listSessions_eq, after_sessionRows, List.filter_map, owner, ← List.map_reverse,
      ← List.map_take, List.map_map, read]
  · intro few
    apply Sound.empty.sessionsIn_transcript
    simpa using few

end Store

end Geoflow
