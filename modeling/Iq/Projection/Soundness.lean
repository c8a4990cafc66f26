import Iq.Projection.Announcements

/-!
# Soundness of the projector

A step that meets its condition keeps what the rows of every effort, the calls in progress and the
cursors satisfy, and so does a run of such steps.
-/

namespace Iq

open Library

variable {store later : Outbox} {effort : IntegrationEffort} {effortId : String}

namespace Projector

variable {world : Projector} {number : Nat} {call : ProjectionCall}

/-! ## Calls -/

/-- The call that was set. -/
@[simp] theorem setCall_calls (world : Projector) (number : Nat) (call : Option ProjectionCall) :
    (world.setCall number call).calls number = call := if_pos rfl

/-- The later call is the one that is set. -/
@[simp] theorem setCall_setCall (world : Projector) (number : Nat)
    (first second : Option ProjectionCall) :
    (world.setCall number first).setCall number second = world.setCall number second := by
  simp only [Projector.setCall, Projector.mk.injEq, true_and]
  funext other
  split <;> rfl

/-- The number of the call that a step is about. -/
def numberOf : ProjectorAction → Option Nat
  | .fetch number _ | .load number | .gather number | .project number _ | .finish number
  | .crash number => some number
  | .create .. | .operate .. | .tick _ => none

/-- Another call stays. -/
theorem calls_setCall_other {other : Nat} (apart : other ≠ number)
    (call : Option ProjectionCall) : (world.setCall number call).calls other = world.calls other :=
  if_neg apart

/-- A step is about one call at most. -/
theorem calls_step_other {action : ProjectorAction} {other : Nat}
    (apart : numberOf action ≠ some other) :
    (world.step action).calls other = world.calls other := by
  cases action with
  | create | operate | tick => rfl
  | fetch number | load number | gather number | project number =>
    have away : other ≠ number := fun same => apart (congrArg some same.symm)
    simp only [Projector.step]
    split
    · exact calls_setCall_other away _
    · rfl
  | finish number =>
    have away : other ≠ number := fun same => apart (congrArg some same.symm)
    simp only [Projector.step]
    split
    · split
      · exact calls_setCall_other away _
      · rfl
    · rfl
  | crash number =>
    exact calls_setCall_other (fun same => apart (congrArg some same.symm)) _

/-! ## Steps -/

/-- The cursor of an artifact is behind the next event. -/
theorem Sound.cursor_lt (sound : world.Sound) (effortId eventType : String) (alert : Bool) :
    cursorOf (world.store.rowsOf effortId).artifact <
      (world.store.nextEvent effortId eventType alert).sequence := by
  show cursorOf (world.store.artifacts.find? effortId) < world.store.events.length + 1
  cases found : world.store.artifacts.find? effortId with
  | none => exact Nat.succ_pos _
  | some artifact => exact Nat.lt_succ_of_le (sound.cursors effortId artifact found)

/-- A step of the outbox that changes the rows of one effort. -/
theorem Sound.of_rowsOf (sound : world.Sound)
    (others : ∀ other, other ≠ effortId → later.rowsOf other = world.store.rowsOf other)
    (own : (later.rowsOf effortId).Sound)
    (calls : ∀ number call, world.calls number = some call → call.effort.id = effortId →
      call.Follows (later.rowsOf effortId))
    (cursor : ∀ artifact, later.artifacts.find? effortId = some artifact →
      artifact.lastEventSequence ≤ later.events.length)
    (grown : world.store.events.length ≤ later.events.length) :
    Sound { world with store := later } where
  rows other := by
    by_cases same : other = effortId
    · exact same ▸ own
    · show (later.rowsOf other).Sound
      rw [others other same]
      exact sound.rows other
  calls number call running := by
    by_cases same : call.effort.id = effortId
    · exact same ▸ calls number call running same
    · show call.Follows (later.rowsOf call.effort.id)
      rw [others _ same]
      exact sound.calls number call running
  cursors other artifact found := by
    by_cases same : other = effortId
    · exact cursor artifact (same ▸ found)
    · have kept := congrArg EffortRows.artifact (others other same)
      exact (sound.cursors other artifact (kept.symm.trans found)).trans grown
  read number call stored running seen := (sound.read number call stored running seen).trans grown

/-- A step of one call. -/
theorem Sound.setCall (sound : world.Sound) {next : Option ProjectionCall}
    (moved : ∀ call, next = some call → call.Follows (world.store.rowsOf call.effort.id))
    (read : ∀ call stored, next = some call → call.phase.stored? = some stored →
      cursorOf stored ≤ world.store.events.length) :
    (world.setCall number next).Sound where
  rows := sound.rows
  calls other call found := by
    simp only [Projector.setCall] at found
    split at found
    · exact moved call found
    · exact sound.calls other call found
  cursors := sound.cursors
  read other call stored found seen := by
    simp only [Projector.setCall] at found
    split at found
    · exact read call stored found seen
    · exact sound.read other call stored found seen

variable {eventType : String} {alert : Bool}

/-- An appended event makes the log longer by one. -/
theorem length_appendEvent (store : Outbox) :
    (store.appendEvent effortId eventType alert).events.length = store.events.length + 1 := by
  simp [Outbox.appendEvent]

/-- A new effort keeps the projector sound. -/
theorem Sound.create (sound : world.Sound) (consistent : world.Consistent)
    {reserved : Option StoredRepositoryArtifact}
    (meets : world.Meets (.create effort reserved eventType alert)) :
    (world.step (.create effort reserved eventType alert)).Sound := by
  show Sound { world with store := Projector.create world.store effort reserved eventType alert }
  by_cases fresh : world.store.effortForItem effort.itemId = none ∧
      world.store.efforts.find? effort.id = none
  · obtain ⟨free, absent⟩ := fresh
    have rows := @rowsOf_create world.store effort eventType alert reserved free absent
    obtain ⟨no_artifact, no_debt⟩ := (sound.rows effort.id).owned absent
    have own : (Projector.create world.store effort reserved eventType alert).rowsOf effort.id =
        EffortRows.append ⟨some effort, world.store.eventsOf effort.id,
          reserved.map (·.bindTo effort.id), none⟩
          (world.store.nextEvent effort.id eventType alert) := by
      rw [rows effort.id, if_pos rfl, show world.store.artifacts.find? effort.id = none from
        no_artifact, show world.store.debts.find? effort.id = none from no_debt, Option.or_none]
      rfl
    have start : ∀ row, reserved.map (·.bindTo effort.id) = some row →
        row.lastEventSequence = 0 := by
      intro row bound
      obtain ⟨_, -, rfl⟩ := Option.map_eq_some_iff.mp bound
      rfl
    have longer : (Projector.create world.store effort reserved eventType alert).events.length =
        world.store.events.length + 1 := by
      obtain ⟨efforts, -, created⟩ :=
        @create_eq world.store effort eventType alert reserved free absent
      rw [created, length_appendEvent, (Outbox.bindReservation_same _ _ _).1]
    refine sound.of_rowsOf (fun other apart => by rw [rows other, if_neg apart]) ?_ ?_ ?_ ?_
    · rw [own]
      refine EffortRows.Sound.create ?_ ?_ ?_ _
      · intro provider issue row issued bound
        obtain ⟨old, reserved, rfl⟩ := Option.map_eq_some_iff.mp bound
        exact meets.1 provider issue old issued reserved
      · intro minimal
        have announces := meets.2 minimal
        refine ⟨fun owed => absurd rfl owed, fun unopened asks => ?_, announces.ended⟩
        rcases announces.opened (Option.map_eq_none_iff.mp unopened) asks with
          reported | ⟨_, unread, -⟩
        · exact .inl reported
        · cases (Log.mem_after.mp unread).1
      · show cursorOf _ < world.store.events.length + 1
        cases reserved <;> exact Nat.succ_pos _
    · intro number call running same
      obtain ⟨row, stored, -⟩ := (consistent.calls number call running).stored
      rw [same, absent] at stored
      cases stored
    · intro artifact found
      rw [start artifact ((congrArg EffortRows.artifact own).symm.trans found)]
      exact Nat.zero_le _
    · rw [longer]
      exact Nat.le_succ _
  · have refused : Projector.create world.store effort reserved eventType alert = world.store := by
      unfold Projector.create
      split
      · rfl
      · rename_i free
        split
        · rfl
        · rename_i efforts inserted
          refine absurd ⟨Option.not_isSome_iff_eq_none.mp free, ?_⟩ fresh
          exact Table.find?_eq_none.mpr fun other mem => Table.fresh_of_insert? inserted mem
    rw [refused]
    exact sound

/-- An operation that announces what it leaves keeps the projector sound. -/
theorem Sound.operate (sound : world.Sound)
    (meets : world.Meets (.operate effort eventType alert)) :
    (world.step (.operate effort eventType alert)).Sound := by
  show Sound { world with store := Projector.operate world.store effort eventType alert }
  cases found : world.store.efforts.find? effort.id with
  | none =>
    have refused : Projector.operate world.store effort eventType alert = world.store := by
      rw [Projector.operate, found]
    rw [refused]
    exact sound
  | some old =>
    obtain ⟨same, announced⟩ := meets old found
    have rows := @rowsOf_operate world.store effort eventType alert old found
    have own : (Projector.operate world.store effort eventType alert).rowsOf effort.id =
        EffortRows.append { world.store.rowsOf effort.id with
          effort := some { effort with id := old.id, itemId := old.itemId } }
          (world.store.nextEvent effort.id eventType alert) := by
      rw [rows effort.id, if_pos rfl]
      rfl
    have later := sound.cursor_lt effort.id eventType alert
    have longer : (Projector.operate world.store effort eventType alert).events.length =
        world.store.events.length + 1 := by
      rw [Projector.operate, found, length_appendEvent]
    refine sound.of_rowsOf (fun other apart => by rw [rows other, if_neg apart]) ?_ ?_ ?_ ?_
    · rw [own]
      exact (sound.rows effort.id).operate found same (fun minimal => (announced minimal).1) later
    · intro number call running mine
      rw [own]
      have follows := sound.calls number call running
      rw [mine] at follows
      refine follows.operate found same (fun minimal ended => ?_) later
      have announces := announced minimal
      exact ⟨announces.1.ended ended, announces.2 ended number call running mine⟩
    · intro artifact stored
      rw [longer]
      have kept := (congrArg EffortRows.artifact own).symm.trans stored
      exact (sound.cursors effort.id artifact kept).trans (Nat.le_succ _)
    · rw [longer]
      exact Nat.le_succ _

/-- The visibility of an issue repository. -/
theorem minimal_visibility {snapshot : StateRepositorySnapshot} {provider : IssueProvider}
    {issue : IssueRepositorySnapshot} (minimal : snapshot.IsMinimal)
    (issued : snapshot.issue? = some (provider, issue)) : issue.visibility = .minimal := by
  obtain ⟨other, found, same, visibility⟩ := minimal
  rw [issued] at same
  obtain ⟨-, rfl⟩ := Prod.mk.inj (Option.some_inj.mp same)
  exact visibility

/-- The cursor that a call records is behind the log. -/
theorem follows_cursor_le {stored : Option StoredRepositoryArtifact} {events : List OutboxEvent}
    (follows : call.Follows (store.rowsOf call.effort.id)) (ordered : store.Ordered)
    (behind : cursorOf stored ≤ store.events.length)
    (read : call.phase.batch? = some (stored, events)) :
    Log.advance OutboxEvent.sequence (cursorOf stored) events ≤ store.events.length := by
  obtain ⟨seen, more, -, log, batch, -⟩ := follows.gathered stored events read
  refine Log.advance_le behind fun event mem => ?_
  rw [batch] at mem
  have logged : event ∈ store.eventsOf call.effort.id := by
    show event ∈ (store.rowsOf call.effort.id).events
    rw [log]
    exact List.mem_append_left _ (Log.mem_after.mp mem).1
  exact ordered.within event (List.mem_of_mem_filter logged)

/-- What a call records changes neither the effort nor earlier events, so the other calls of its
effort follow the rows that it leaves. -/
theorem Sound.others_follow (sound : world.Sound) (consistent : world.Consistent)
    (running : world.calls number = some call) (meets : world.Meets (.finish number))
    {provider : IssueProvider} {issue : IssueRepositorySnapshot}
    (issued : call.effort.stateRepository.issue? = some (provider, issue))
    (records : call.fails issue.visibility = true ∨ call.sends issue.visibility = true)
    {rows : EffortRows} (kept : rows.effort = (world.store.rowsOf call.effort.id).effort)
    (grown : (world.store.rowsOf call.effort.id).events <+: rows.events) (other : Nat)
    (called : ProjectionCall) (remains : (world.setCall number none).calls other = some called)
    (same : called.effort.id = call.effort.id) : called.Follows rows := by
  have follows := sound.calls number call running
  obtain ⟨row, stored_row, -⟩ := (consistent.calls number call running).stored
  simp only [Projector.setCall] at remains
  split at remains
  · cases remains
  · rename_i apart
    have before := same ▸ sound.calls other called remains
    have binding : called.effort.stateRepository = call.effort.stateRepository :=
      (before.bound row stored_row).symm.trans (follows.bound row stored_row)
    by_cases minimal : call.effort.stateRepository.IsMinimal
    · have visibility := minimal_visibility minimal issued
      rw [visibility] at records
      have fetched := (meets call running minimal).2 records other called apart remains same
      exact before.fetched fetched kept
    · exact before.full (binding ▸ minimal) kept grown

/-- A call that the provider fails keeps the projector sound: the debt is recorded while there is
something to send. -/
theorem Sound.fail (sound : world.Sound) (consistent : world.Consistent)
    (running : world.calls number = some call) (meets : world.Meets (.finish number))
    {provider : IssueProvider} {issue : IssueRepositorySnapshot}
    (issued : call.effort.stateRepository.issue? = some (provider, issue))
    (failed : call.fails issue.visibility = true) :
    ({ world with store := world.store.recordProjectionDebt call.effort.id }.setCall number
      none).Sound := by
  have ended : (world.setCall number none).Sound :=
    sound.setCall (by rintro _ ⟨⟩) (by rintro _ _ ⟨⟩)
  have follows := sound.calls number call running
  have found := (consistent.calls number call running).rowsOf_effort
  have rows := @rowsOf_recordProjectionDebt world.store call.effort.id
  obtain ⟨debt, owes⟩ : ∃ debt,
      (world.store.recordProjectionDebt call.effort.id).debts.find? call.effort.id =
        some debt := ⟨_, by
    show (world.store.debts.put _).find? _ = _
    rw [Table.find?_put, if_pos rfl]⟩
  have own : (world.store.recordProjectionDebt call.effort.id).rowsOf call.effort.id =
      EffortRows.append { world.store.rowsOf call.effort.id with debt := some debt }
        (world.store.nextEvent call.effort.id "projection_debt" false) := by
    rw [rows, if_pos rfl, owes]
    rfl
  have longer : (world.store.recordProjectionDebt call.effort.id).events.length =
      world.store.events.length + 1 := length_appendEvent _
  refine ended.of_rowsOf (fun other apart => (rows other).trans (if_neg apart)) ?_ ?_ ?_ ?_
  · rw [own]
    refine (sound.rows call.effort.id).fail found fun effort current minimal => ?_
    rw [follows.bound effort current] at minimal
    rw [minimal_visibility minimal issued] at failed
    exact (meets call running minimal).1 failed effort current
  · refine sound.others_follow consistent running meets issued (.inl failed) ?_ ?_ <;> rw [own]
    · rfl
    · exact List.prefix_append _ _
  · intro artifact stored
    rw [longer]
    have kept := (congrArg EffortRows.artifact own).symm.trans stored
    exact (sound.cursors call.effort.id artifact kept).trans (Nat.le_succ _)
  · exact Nat.le_of_lt (Nat.lt_of_lt_of_eq (Nat.lt_succ_self _) longer.symm)

/-- A call that records what it sent keeps the projector sound. -/
theorem Sound.record (sound : world.Sound) (consistent : world.Consistent)
    (running : world.calls number = some call) (meets : world.Meets (.finish number))
    {provider : IssueProvider} {issue : IssueRepositorySnapshot}
    (issued : call.effort.stateRepository.issue? = some (provider, issue))
    (sent : call.sends issue.visibility = true) {stored : Option StoredRepositoryArtifact}
    {events : List OutboxEvent} (read : call.phase.batch? = some (stored, events))
    {projected : RepositoryArtifact}
    (recorded : world.store.recordRepositoryProjection
      (receiptOf call.effort provider issue.repository stored events projected) = some later) :
    ({ world with store := later }.setCall number none).Sound := by
  have ended : (world.setCall number none).Sound :=
    sound.setCall (by rintro _ ⟨⟩) (by rintro _ _ ⟨⟩)
  have follows := sound.calls number call running
  have found := (consistent.calls number call running).rowsOf_effort
  have rows := rowsOf_recorded recorded
  have kept := Outbox.recordRepositoryProjection_same recorded
  obtain ⟨-, revision, artifact⟩ := Outbox.recorded_rows recorded
  have own : later.rowsOf call.effort.id =
      (world.store.rowsOf call.effort.id).recorded
        { receiptOf call.effort provider issue.repository stored events projected with
          projectionRevision := revision } := by
    refine (rows call.effort.id).trans ((if_pos rfl).trans ?_)
    rw [artifact]
    rfl
  have others : ∀ other, other ≠ call.effort.id →
      later.rowsOf other = world.store.rowsOf other :=
    fun other apart => (rows other).trans (if_neg apart)
  refine ended.of_rowsOf others ?_ ?_ ?_ ?_
  · rw [own]
    exact EffortRows.sound_recorded (consistent.store.eventsOf call.effort.id) found follows
      read issued
  · refine sound.others_follow consistent running meets issued (.inr sent) ?_ ?_ <;> rw [own]
    · rfl
    · exact List.prefix_rfl
  · intro last found_last
    obtain rfl := Option.some_inj.mp (found_last.symm.trans artifact)
    rw [kept.1]
    have behind := sound.read number call stored running (ProjectionPhase.stored?_of_batch? read)
    exact follows_cursor_le follows consistent.store behind read
  · rw [kept.1]
    exact Nat.le_refl _

/-- The end of a call keeps the projector sound. -/
theorem Sound.finish (sound : world.Sound) (consistent : world.Consistent)
    (running : world.calls number = some call) (meets : world.Meets (.finish number)) :
    ({ world with store := (call.finish world.store).1 }.setCall number none).Sound := by
  have ended : (world.setCall number none).Sound :=
    sound.setCall (by rintro _ ⟨⟩) (by rintro _ _ ⟨⟩)
  cases issued : call.effort.stateRepository.issue? with
  | none =>
    rw [call.finish_unbound world.store issued]
    exact ended
  | some binding =>
    obtain ⟨provider, issue⟩ := binding
    rcases call.finish_cases world.store issued with left | ⟨failed, left⟩ | ⟨-, -, -, -, left⟩ |
      ⟨stored, events, projected, later, read, sent, recorded, left⟩ <;> rw [left]
    · exact ended
    · exact sound.fail consistent running meets issued failed
    · exact ended
    · exact sound.record consistent running meets issued sent read recorded

/-- A call that reads its effort. -/
theorem follows_fetched {itemId : String} (found : store.effortForItem itemId = some effort) :
    ProjectionCall.Follows ⟨effort, store.eventsOf effort.id, .fetched⟩
      (store.rowsOf effort.id) := by
  have stored : (store.rowsOf effort.id).effort = some effort :=
    Table.find?_eq_some.mpr ⟨List.mem_of_find?_eq_some found, rfl⟩
  refine ⟨fun row current => ?_, by rintro - _ ⟨⟩, ?_, by rintro _ _ ⟨⟩⟩
  · rw [Option.some_inj.mp (current.symm.trans stored)]
  · rintro - - ⟨row, current, ended⟩
    rwa [Option.some_inj.mp (current.symm.trans stored)] at ended

/-- A step that meets its condition keeps the projector sound. -/
theorem Sound.step (sound : world.Sound) (consistent : world.Consistent) {action : ProjectorAction}
    (meets : world.Meets action) : (world.step action).Sound := by
  cases action with
  | create effort reserved eventType alert => exact sound.create consistent meets
  | operate effort eventType alert => exact sound.operate meets
  | tick seconds => exact ⟨sound.rows, sound.calls, sound.cursors, sound.read⟩
  | fetch number itemId =>
    simp only [Projector.step]
    split
    · rename_i idle found
      refine sound.setCall ?_ (by rintro _ _ ⟨⟩ ⟨⟩)
      rintro call ⟨⟩
      exact follows_fetched found
    · exact sound
  | load number =>
    simp only [Projector.step]
    split
    · rename_i effort known running
      have before := sound.calls _ _ running
      refine sound.setCall ?_ ?_
      · rintro call ⟨⟩
        refine ⟨before.bound, ?_, fun minimal _ => before.ended minimal rfl, by rintro _ _ ⟨⟩⟩
        rintro - stored ⟨⟩
        rfl
      · rintro call stored ⟨⟩ ⟨⟩
        exact Nat.lt_succ_iff.mp (sound.cursor_lt effort.id "" false)
    · exact sound
  | gather number =>
    simp only [Projector.step]
    split
    · rename_i effort known stored running
      have before := sound.calls _ _ running
      have grown := (consistent.calls _ _ running).grown
      have all := List.take_of_length_le (meets effort known stored running)
      refine sound.setCall ?_ fun call other moved same => ?_
      swap
      · cases moved
        exact sound.read number _ other running same
      rintro call ⟨⟩
      refine ⟨before.bound, fun minimal other same => ?_, by rintro - ⟨⟩, ?_⟩
      · obtain rfl := Option.some_inj.mp same
        exact before.stored minimal _ rfl
      · rintro _ _ ⟨⟩
        refine ⟨world.store.eventsOf effort.id, [], grown, (List.append_nil _).symm, all,
          fun minimal ended => .inl ⟨before.ended minimal rfl ended, rfl⟩⟩
    · exact sound
  | project number answers =>
    simp only [Projector.step]
    split
    · rename_i effort known stored events running
      have before := sound.calls _ _ running
      refine sound.setCall ?_ fun call other moved same => ?_
      swap
      · cases moved
        exact sound.read number _ other running same
      rintro call ⟨⟩
      refine ⟨before.bound, fun minimal other same => ?_, by rintro - ⟨⟩, fun other read same => ?_⟩
      · obtain rfl := Option.some_inj.mp same
        exact before.stored minimal _ rfl
      · obtain ⟨rfl, rfl⟩ := Prod.mk.inj (Option.some_inj.mp same)
        exact before.gathered _ _ rfl
    · exact sound
  | finish number =>
    simp only [Projector.step]
    split
    · rename_i call running
      split
      · exact sound.finish consistent running meets
      · exact sound
    · exact sound
  | crash number => exact sound.setCall (by rintro _ ⟨⟩) (by rintro _ _ ⟨⟩)

/-- At first the projector is sound. -/
theorem sound_initial (initial : projector.Initial world) : world.Sound := by
  obtain ⟨efforts, events, artifacts, debts, calls⟩ := initial
  refine ⟨fun effortId => ?_, fun number call running => ?_, fun effortId artifact found => ?_,
    fun number call stored running => ?_⟩
  · refine ⟨fun _ => ⟨?_, ?_⟩, ?_, ?_⟩ <;> simp only [Outbox.rowsOf, efforts, artifacts, debts]
    · rfl
    · rfl
    · rintro _ _ _ _ ⟨⟩
    · rintro _ ⟨⟩
  · rw [calls] at running
    cases running
  · rw [artifacts] at found
    cases found
  · rw [calls] at running
    cases running

/-- A run whose steps meet their conditions keeps the projector sound. -/
theorem sound_run {start : Projector} {actions : List ProjectorAction}
    (initial : projector.Initial start)
    (meets : projector.Throughout Projector.Meets start actions) :
    (projector.run start actions).Sound := by
  have kept := @Machine.run_keeps_while _ _ projector
    (fun world => world.Consistent ∧ world.Sound) Projector.Meets ?_ start ?_ actions meets
  · exact kept.2
  · rintro state action ⟨consistent, sound⟩ meets
    exact ⟨consistent.step action, sound.step consistent meets⟩
  · exact ⟨consistent_of_reachable (.initial initial), sound_initial initial⟩

end Projector

end Iq
