import Geoflow.Proofs.Store.History
import Geoflow.Proofs.Store.Points

set_option autoImplicit false

namespace Geoflow

/-- What a change gives if it succeeds. -/
inductive StoreReply where
  | source (source : DataSource)
  | pipeline (pipeline : Pipeline)
  /-- Whether there was a row of the asked number. -/
  | matched (found : Bool)
  | sync (sync : ExternalSync)
  | noted
  | session (id : Int64)
  | points (count : Nat)

def StoreReply.of {α : Type} (reply : α → StoreReply) (answer : StoreAnswer α) :
    StoreAnswer StoreReply :=
  (answer.1, answer.2.map reply)

def StoreChange.perform (s : Store) : StoreChange → StoreAnswer StoreReply
  | .insertSource source => StoreReply.of .source (s.insertSource source)
  | .insertPipeline ownerId dataSourceId name config =>
    StoreReply.of .pipeline (s.insertPipeline ownerId dataSourceId name config)
  | .updateConfig id config => StoreReply.of .matched (s.updateConfig id config)
  | .deletePipeline id => StoreReply.of .matched (s.deletePipeline id)
  | .insertSync sync => StoreReply.of .sync (s.insertSync sync)
  | .updateLastSync id time => StoreReply.of (fun _ => .noted) (s.updateLastSync id time)
  | .insertSession session => StoreReply.of .session (s.insertSession session)
  | .insertPoints ownerId payload => StoreReply.of .points (s.insertPoints ownerId payload)

/-- A change with the answer to it. -/
structure StoreEntry where
  change : StoreChange
  reply : Except StoreError StoreReply

namespace Store

variable {s t : Store} {change : StoreChange} {reply : Except StoreError StoreReply}
  {source : DataSource} {ownerId dataSourceId id : Int64} {name : String} {config : Json}
  {sync : ExternalSync} {time : Instant} {session : RunSession}

theorem perform_fst (s : Store) (change : StoreChange) : (change.perform s).1 = change.apply s := by
  cases change <;> rfl

/-- The changes of a history with their answers. -/
def transcript : Store → List StoreChange → List StoreEntry
  | _, [] => []
  | s, change :: rest => ⟨change, (change.perform s).2⟩ :: transcript (change.perform s).1 rest

/-- Tables that nobody has blocked, with their rows in the order of their numbers. -/
structure Sound (s : Store) : Prop where
  sources : s.sources.Sound
  pipelines : s.pipelines.Sound
  syncs : s.syncs.Sound
  sessions : s.sessions.Sound
  points : s.points.Sound

theorem Sound.empty : Sound {} := ⟨.empty, .empty, .empty, .empty, .empty⟩

theorem insertSource_of_room (sound : s.Sound) (room : s.sources.HasRoom) :
    s.insertSource source =
      ({ s with sources := s.sources.push (.ofSource source) },
        .ok { source with id := s.sources.nextId }) := by
  rw [insertSource, sound.sources.insert_of_room room]
  rfl

theorem insertSource_of_full (sound : s.Sound) (full : ¬ s.sources.HasRoom) :
    s.insertSource source = (s, .error (.database .full)) := by
  rw [insertSource, sound.sources.insert_of_full full]

theorem insertPipeline_of_known (sound : s.Sound) (room : s.pipelines.HasRoom)
    (known : (s.sources.get? dataSourceId).isSome) :
    s.insertPipeline ownerId dataSourceId name config =
      ({ s with pipelines := s.pipelines.push ⟨ownerId, dataSourceId, name, config.render⟩ },
        .ok ⟨s.pipelines.nextId, ownerId, dataSourceId, name, config⟩) := by
  rw [Table.get?, Option.isSome_map] at known
  rw [insertPipeline, sound.pipelines.insert_of_room room]
  simp only [known, if_true]
  rfl

theorem insertPipeline_of_unknown (ownerId : Int64) (name : String) (config : Json)
    (unknown : s.sources.get? dataSourceId = none) :
    ∃ fault, s.insertPipeline ownerId dataSourceId name config = (s, .error (.database fault)) := by
  rw [Table.get?, Option.map_eq_none_iff] at unknown
  rw [insertPipeline]
  split
  · exact ⟨_, rfl⟩
  · rw [unknown]
    exact ⟨_, rfl⟩

theorem insertPipeline_of_full (sound : s.Sound) (full : ¬ s.pipelines.HasRoom) :
    s.insertPipeline ownerId dataSourceId name config = (s, .error (.database .full)) := by
  rw [insertPipeline, sound.pipelines.insert_of_full full]

theorem updateConfig_eq (sound : s.Sound) (id : Int64) (config : Json) :
    s.updateConfig id config =
      ({ s with pipelines := s.pipelines.alter id fun row => { row with config := config.render } },
        .ok (s.pipelines.get? id).isSome) := by
  obtain ⟨hits, updated, matched⟩ :=
    sound.pipelines.update_eq id fun row => { row with config := config.render }
  rw [updateConfig, updated]
  simp only [matched, Bool.decide_eq_true]

theorem deletePipeline_eq (sound : s.Sound) (id : Int64) :
    s.deletePipeline id =
      ({ s with pipelines := s.pipelines.remove id }, .ok (s.pipelines.get? id).isSome) := by
  obtain ⟨hits, deleted, matched⟩ := sound.pipelines.delete_eq id
  rw [deletePipeline, deleted]
  simp only [matched, Bool.decide_eq_true]

theorem insertSync_of_room (sound : s.Sound) (room : s.syncs.HasRoom) :
    s.insertSync sync =
      ({ s with syncs := s.syncs.push (.ofSync sync) },
        .ok { sync with id := s.syncs.nextId, lastSyncAt := none }) := by
  rw [insertSync, sound.syncs.insert_of_room room]
  rfl

theorem insertSync_of_full (sound : s.Sound) (full : ¬ s.syncs.HasRoom) :
    s.insertSync sync = (s, .error (.database .full)) := by
  rw [insertSync, sound.syncs.insert_of_full full]

theorem updateLastSync_eq (sound : s.Sound) (id : Int64) (time : Instant) :
    s.updateLastSync id time =
      ({ s with syncs :=
          s.syncs.alter id fun row => { row with lastSyncAt := some time.toOffsetText } },
        .ok ()) := by
  obtain ⟨hits, updated, -⟩ :=
    sound.syncs.update_eq id fun row => { row with lastSyncAt := some time.toOffsetText }
  rw [updateLastSync, updated]

theorem insertSession_of_room (sound : s.Sound) (room : s.sessions.HasRoom) :
    s.insertSession session =
      ({ s with sessions := s.sessions.push (.ofSession session) }, .ok s.sessions.nextId) := by
  rw [insertSession, sound.sessions.insert_of_room room]
  rfl

theorem insertSession_of_full (sound : s.Sound) (full : ¬ s.sessions.HasRoom) :
    s.insertSession session = (s, .error (.database .full)) := by
  rw [insertSession, sound.sessions.insert_of_full full]

/-- All that a change can do: it is refused and nothing happens, or it does its one thing to its own
table. -/
inductive Effect (s : Store) : StoreChange → Store → Except StoreError StoreReply → Prop
  | refused {change : StoreChange} (fault : DatabaseFault) :
    Effect s change s (.error (.database fault))
  | insertSource (source : DataSource) (room : s.sources.HasRoom) :
    Effect s (.insertSource source) { s with sources := s.sources.push (.ofSource source) }
      (.ok (.source { source with id := s.sources.nextId }))
  | insertPipeline (ownerId dataSourceId : Int64) (name : String) (config : Json)
    (room : s.pipelines.HasRoom) (known : (s.sources.get? dataSourceId).isSome) :
    Effect s (.insertPipeline ownerId dataSourceId name config)
      { s with pipelines := s.pipelines.push ⟨ownerId, dataSourceId, name, config.render⟩ }
      (.ok (.pipeline ⟨s.pipelines.nextId, ownerId, dataSourceId, name, config⟩))
  | updateConfig (id : Int64) (config : Json) :
    Effect s (.updateConfig id config)
      { s with pipelines := s.pipelines.alter id fun row => { row with config := config.render } }
      (.ok (.matched (s.pipelines.get? id).isSome))
  | deletePipeline (id : Int64) :
    Effect s (.deletePipeline id) { s with pipelines := s.pipelines.remove id }
      (.ok (.matched (s.pipelines.get? id).isSome))
  | insertSync (sync : ExternalSync) (room : s.syncs.HasRoom) :
    Effect s (.insertSync sync) { s with syncs := s.syncs.push (.ofSync sync) }
      (.ok (.sync { sync with id := s.syncs.nextId, lastSyncAt := none }))
  | updateLastSync (id : Int64) (time : Instant) :
    Effect s (.updateLastSync id time)
      { s with syncs :=
          s.syncs.alter id fun row => { row with lastSyncAt := some time.toOffsetText } }
      (.ok .noted)
  | insertSession (session : RunSession) (room : s.sessions.HasRoom) :
    Effect s (.insertSession session) { s with sessions := s.sessions.push (.ofSession session) }
      (.ok (.session s.sessions.nextId))
  | insertPoints (ownerId : Int64) (payload : CoordinatePayload)
    (room : s.points.issued + payload.points.length ≤ Table.greatestId) :
    Effect s (.insertPoints ownerId payload) (s.addPoints ownerId payload)
      (.ok (.points payload.points.length))

theorem Sound.effect (sound : s.Sound) (change : StoreChange) :
    Effect s change (change.perform s).1 (change.perform s).2 := by
  cases change with
  | insertSource source =>
    rw [StoreChange.perform]
    by_cases room : s.sources.HasRoom
    · rw [insertSource_of_room sound room]
      exact .insertSource source room
    · rw [insertSource_of_full sound room]
      exact .refused _
  | insertPipeline ownerId dataSourceId name config =>
    rw [StoreChange.perform]
    cases known : s.sources.get? dataSourceId with
    | none =>
      obtain ⟨fault, refused⟩ := insertPipeline_of_unknown ownerId name config known
      rw [refused]
      exact .refused fault
    | some row =>
      have isKnown : (s.sources.get? dataSourceId).isSome := by rw [known, Option.isSome_some]
      by_cases room : s.pipelines.HasRoom
      · rw [insertPipeline_of_known sound room isKnown]
        exact .insertPipeline ownerId dataSourceId name config room isKnown
      · rw [insertPipeline_of_full sound room]
        exact .refused _
  | updateConfig id config =>
    rw [StoreChange.perform, updateConfig_eq sound]
    exact .updateConfig id config
  | deletePipeline id =>
    rw [StoreChange.perform, deletePipeline_eq sound]
    exact .deletePipeline id
  | insertSync sync =>
    rw [StoreChange.perform]
    by_cases room : s.syncs.HasRoom
    · rw [insertSync_of_room sound room]
      exact .insertSync sync room
    · rw [insertSync_of_full sound room]
      exact .refused _
  | updateLastSync id time =>
    rw [StoreChange.perform, updateLastSync_eq sound]
    exact .updateLastSync id time
  | insertSession session =>
    rw [StoreChange.perform]
    by_cases room : s.sessions.HasRoom
    · rw [insertSession_of_room sound room]
      exact .insertSession session room
    · rw [insertSession_of_full sound room]
      exact .refused _
  | insertPoints ownerId payload =>
    rw [StoreChange.perform]
    obtain ⟨taken, room⟩ | ⟨fault, refused⟩ := insertPoints_cases sound.points ownerId payload
    · rw [taken]
      exact .insertPoints ownerId payload room
    · rw [refused]
      exact .refused fault

theorem Effect.sound (sound : s.Sound) (effect : Effect s change t reply) : t.Sound := by
  cases effect with
  | refused => exact sound
  | insertSource source room => exact { sound with sources := sound.sources.push room _ }
  | insertPipeline _ _ _ _ room => exact { sound with pipelines := sound.pipelines.push room _ }
  | updateConfig id config =>
    have kept := sound.pipelines.alter id fun row => { row with config := config.render }
    exact { sound with pipelines := kept }
  | deletePipeline => exact { sound with pipelines := sound.pipelines.remove _ }
  | insertSync _ room => exact { sound with syncs := sound.syncs.push room _ }
  | updateLastSync id time =>
    have kept := sound.syncs.alter id fun row => { row with lastSyncAt := some time.toOffsetText }
    exact { sound with syncs := kept }
  | insertSession _ room => exact { sound with sessions := sound.sessions.push room _ }
  | insertPoints _ payload room =>
    exact { sound with points := sound.points.pushAll _ (by rwa [List.length_map]) }

theorem Sound.perform (sound : s.Sound) (change : StoreChange) : (change.perform s).1.Sound :=
  (sound.effect change).sound sound

theorem after_sound (changes : List StoreChange) : (after changes).Sound :=
  after_induction .empty (fun s change sound => perform_fst s change ▸ sound.perform change) changes

/-- What the changes of a history keep lasts through it. -/
theorem Sound.lasts {motive : Store → Prop} (sound : s.Sound)
    (changes : List StoreChange) (holds : motive s)
    (step : ∀ change ∈ changes, ∀ s t reply, s.Sound → motive s → Effect s change t reply →
      motive t) :
    motive (changes.foldl StoreChange.apply s) := by
  induction changes generalizing s with
  | nil => exact holds
  | cons change rest ih =>
    obtain ⟨next, step⟩ := List.forall_mem_cons.mp step
    have applied := next s _ _ sound holds (sound.effect change)
    rw [perform_fst] at applied
    exact ih (perform_fst s change ▸ sound.perform change) applied step

/-- What relates a store to its transcript so far holds of every history, if every change keeps
it. -/
theorem transcript_induction {motive : List StoreEntry → Store → Prop} (empty : motive [] {})
    (step : ∀ log s change t reply, s.Sound → motive log s → Effect s change t reply →
      motive (log ++ [⟨change, reply⟩]) t)
    (changes : List StoreChange) : motive (transcript {} changes) (after changes) := by
  have whole : ∀ log s, s.Sound → motive log s →
      motive (log ++ transcript s changes) (changes.foldl StoreChange.apply s) := by
    induction changes with
    | nil =>
      intro log s _ holds
      rwa [transcript, List.append_nil]
    | cons change rest ih =>
      intro log s sound holds
      have next := step log s change _ _ sound holds (sound.effect change)
      have further := ih _ _ (sound.perform change) next
      rw [List.append_assoc, perform_fst] at further
      rw [transcript, perform_fst]
      exact further
  exact whole [] {} .empty empty

end Store

end Geoflow
