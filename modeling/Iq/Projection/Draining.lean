import Iq.Projection.Soundness

/-!
# Draining of the projection outbox

A call that returns while the projector is sound leaves nothing owed for its effort, so its item is
settled. A call with a working provider returns, so one such call for each effort clears the debts,
closes the issues of the ended efforts and empties the list.
-/

namespace Iq

open Library

variable {store later : Outbox} {effort : IntegrationEffort} {effortId : String}
  {state : IntegrationEffortState}

/-! ## Returning calls -/

section Returns

variable {world : Projector} {number : Nat} {call : ProjectionCall} {provider : IssueProvider}
  {issue : IssueRepositorySnapshot}

/-- A review is asked of the provider. -/
theorem input_of_review (review : state.name = .reviewRequired) :
    state.isProviderInputState = true := by
  cases state <;> first | rfl | cases review

/-- With minimal visibility an event that wakes is reported, unless the effort has ended. -/
theorem relevant_or_ended {event : OutboxEvent}
    (woken : Outbox.wakes .minimal state event = true) :
    isRelevant .minimal event = true ∨ state.isTerminal = true := by
  simp only [Outbox.wakes, Bool.or_eq_true] at woken
  rcases woken with ((full | alert) | waking) | ended
  · cases full
  · exact .inl (by simp [isRelevant, alert])
  · refine .inl ?_
    have reported : reportedTypes.contains event.eventType = true := by
      rw [List.contains_iff_mem] at waking ⊢
      exact List.mem_append_left _ waking
    simp only [isRelevant, reported, Bool.or_true]
  · exact .inr ended

/-- What has not to be sent is not owed. -/
theorem nothingOwed_of_silent (sound : (store.rowsOf effort.id).Sound)
    (found : store.efforts.find? effort.id = some effort)
    (issued : effort.stateRepository.issue? = some (provider, issue))
    (silent : (store.rowsOf effort.id).sends issue.visibility effort.state = false) :
    store.NothingOwed effort issue.visibility ∧ store.debts.find? effort.id = none := by
  cases visibility : issue.visibility with
  | full =>
    rw [visibility, EffortRows.sends_full] at silent
    cases silent
  | minimal =>
    rw [visibility] at silent
    have awake := sound.awake effort found ⟨provider, issue, issued, visibility⟩
    have clear : store.debts.find? effort.id = none := by
      by_contra owed
      rw [awake.debt owed] at silent
      cases silent
    have asked : ¬((effort.state.blocker ≠ none ∨ effort.state.isProviderInputState = true ∨
        (store.rowsOf effort.id).artifact ≠ none) ∧ (store.rowsOf effort.id).Reports) := by
      rw [← EffortRows.sends_minimal, silent]
      rintro ⟨⟩
    have unreported : ∀ artifact, store.artifacts.find? effort.id = some artifact →
        ¬(store.rowsOf effort.id).Reports := by
      intro artifact stored reports
      refine asked ⟨.inr (.inr ?_), reports⟩
      rw [show (store.rowsOf effort.id).artifact = some artifact from stored]
      rintro ⟨⟩
    refine ⟨⟨fun debt owed => ?_, fun _ unopened => ?_, fun _ artifact stored event unread => ?_,
      fun ended artifact stored => ?_⟩, clear⟩
    · rw [clear] at owed
      cases owed
    · have waits : ¬(effort.state.blocker ≠ none ∨ effort.state.name = .reviewRequired) := by
        intro waits
        refine asked ⟨?_, awake.opened unopened waits⟩
        rcases waits with blocked | review
        · exact .inl blocked
        · exact .inr (.inl (input_of_review review))
      rw [not_or, not_not] at waits
      exact ⟨by rintro ⟨⟩, waits⟩
    · have read : (store.rowsOf effort.id).unread =
          Log.after OutboxEvent.sequence (store.eventsOf effort.id) artifact.lastEventSequence := by
        rw [EffortRows.unread, show (store.rowsOf effort.id).artifact = some artifact from stored]
        rfl
      rw [← read] at unread
      by_contra woken
      refine unreported artifact stored ?_
      rcases relevant_or_ended (Bool.not_eq_false _ ▸ woken) with relevant | ended
      · exact ⟨event, unread, relevant⟩
      · exact awake.ended ended artifact stored (.inr (List.ne_nil_of_mem unread))
    · by_contra opened
      exact unreported artifact stored (awake.ended ended artifact stored (.inl opened))

/-- A call that has read its events, and none came since, has read all that are after its cursor. -/
theorem events_of_quiet (sound : world.Sound) (running : world.calls number = some call)
    (quiet : world.store.eventsOf call.effort.id = call.known)
    {stored : Option StoredRepositoryArtifact} {events : List OutboxEvent}
    (read : call.phase.batch? = some (stored, events)) :
    events = Log.after OutboxEvent.sequence (world.store.eventsOf call.effort.id)
      (cursorOf stored) := by
  obtain ⟨seen, more, known, log, batch, -⟩ :=
    (sound.calls number call running).gathered stored events read
  have whole : seen = world.store.eventsOf call.effort.id := by
    refine List.IsPrefix.eq_of_length_le ⟨more, log.symm⟩ ?_
    rw [quiet]
    exact known.length_le
  rw [batch, whole]

/-- A call that has read its events, and none came since, sends what there is to send. -/
theorem sends_of_quiet (sound : world.Sound) (running : world.calls number = some call)
    (quiet : world.store.eventsOf call.effort.id = call.known)
    {stored : Option StoredRepositoryArtifact} {events : List OutboxEvent}
    (issued : call.effort.stateRepository.issue? = some (provider, issue))
    (read : call.phase.batch? = some (stored, events)) :
    call.sends issue.visibility =
      (world.store.rowsOf call.effort.id).sends issue.visibility call.effort.state := by
  cases visibility : issue.visibility with
  | full => simp [ProjectionCall.sends, read, sendsProjection, EffortRows.sends_full]
  | minimal =>
    have artifact := (sound.calls number call running).stored ⟨provider, issue, issued, visibility⟩
      stored (ProjectionPhase.stored?_of_batch? read)
    have all : events = (world.store.rowsOf call.effort.id).unread := by
      rw [events_of_quiet sound running quiet read, EffortRows.unread, artifact]
      rfl
    rw [ProjectionCall.sends, read, EffortRows.sends, ← all, artifact]

/-- A call that records what it sent leaves nothing owed, and no debt. -/
theorem nothingOwed_of_recorded (sound : world.Sound) (consistent : world.Consistent)
    (running : world.calls number = some call)
    (quiet : world.store.eventsOf call.effort.id = call.known)
    {stored : Option StoredRepositoryArtifact} {events : List OutboxEvent}
    (read : call.phase.batch? = some (stored, events)) {projected : RepositoryArtifact}
    (recorded : world.store.recordRepositoryProjection
      (receiptOf call.effort provider issue.repository stored events projected) = some later) :
    later.NothingOwed call.effort issue.visibility ∧
      later.debts.find? call.effort.id = none := by
  have kept := Outbox.recordRepositoryProjection_same recorded
  obtain ⟨clear, revision, artifact⟩ := Outbox.recorded_rows recorded
  -- The cursor moves to the last event.
  have read_all : Log.after OutboxEvent.sequence (later.eventsOf call.effort.id)
      (Log.advance OutboxEvent.sequence (cursorOf stored) events) = [] := by
    have logs : later.eventsOf call.effort.id = world.store.eventsOf call.effort.id := by
      rw [Outbox.eventsOf, Outbox.eventsOf, kept.1]
    rw [logs, events_of_quiet sound running quiet read]
    exact Log.after_advance_all (consistent.store.eventsOf call.effort.id)
  refine ⟨⟨fun debt owed => ?_, fun _ unopened => ?_, fun _ row found event unread => ?_,
    fun ended row found => ?_⟩, clear⟩
  · cases clear.symm.trans owed
  · cases artifact.symm.trans unopened
  · obtain rfl := Option.some_inj.mp (artifact.symm.trans found)
    have unread : event ∈ Log.after OutboxEvent.sequence (later.eventsOf call.effort.id)
      (Log.advance OutboxEvent.sequence (cursorOf stored) events) := unread
    rw [read_all] at unread
    cases unread
  · obtain rfl := Option.some_inj.mp (artifact.symm.trans found)
    exact if_pos ended

/-- A call that returns leaves nothing owed, and no debt. -/
theorem Projector.Returns.nothingOwed (returns : world.Returns number call)
    (consistent : world.Consistent) (sound : world.Sound)
    (issued : call.effort.stateRepository.issue? = some (provider, issue)) :
    (call.finish world.store).1.NothingOwed call.effort issue.visibility ∧
      (call.finish world.store).1.debts.find? call.effort.id = none := by
  have finished := returns.ok
  rcases call.finish_cases world.store issued with left | ⟨-, left⟩ |
    ⟨stored, events, read, silent, left⟩ |
    ⟨stored, events, projected, later, read, -, recorded, left⟩ <;> rw [left] at finished ⊢
  · cases finished
  · cases finished
  · have found := (consistent.calls number call returns.running).current returns.quiet.symm
    have same := sends_of_quiet sound returns.running returns.quiet issued read
    exact nothingOwed_of_silent (sound.rows call.effort.id) found issued (same ▸ silent)
  · exact nothingOwed_of_recorded sound consistent returns.running returns.quiet read recorded

/-- The end of a call changes no effort. -/
theorem efforts_finish (call : ProjectionCall) (store : Outbox) :
    (call.finish store).1.efforts = store.efforts := by
  unfold ProjectionCall.finish
  split
  · split
    · rfl
    · rfl
    · split
      · rfl
      · split
        · rfl
        · rename_i recorded
          exact (Outbox.recordRepositoryProjection_same recorded).2
  · rfl

/-- A call that returns settles its item. -/
theorem Projector.Returns.settles (returns : world.Returns number call)
    (consistent : world.Consistent) (sound : world.Sound) :
    (call.finish world.store).1.Settled call.effort.itemId := by
  obtain ⟨⟨provider, issue⟩, issued⟩ := Option.isSome_iff_exists.mp returns.bound
  have found := (consistent.calls number call returns.running).current returns.quiet.symm
  have mem : call.effort ∈ (call.finish world.store).1.efforts := by
    rw [efforts_finish]
    exact (Table.find?_eq_some.mp found).1
  exact Outbox.settled_of_nothingOwed (call.finish_extends consistent.store).1 mem issued
    (returns.nothingOwed consistent sound issued).1

end Returns

/-- In a run whose steps meet their conditions, every call that returns settles its item. -/
theorem converges_of_meets {start : Projector} {actions : List ProjectorAction}
    (initial : projector.Initial start)
    (meets : projector.Throughout Projector.Meets start actions) :
    Converges start actions := by
  intro earlier number rest call split returns
  rw [split] at meets
  have consistent := consistent_of_reachable ⟨start, earlier, initial, rfl⟩
  rw [returns.store_run]
  exact returns.settles consistent (Projector.sound_run initial meets.of_append)

/-! ## Calls that are not interrupted -/

/-- The steps of a whole call of `project_item`. -/
def projectItem (number : Nat) (itemId : String) (answers : ProviderAnswers) :
    List ProjectorAction :=
  [.fetch number itemId, .load number, .gather number, .project number answers, .finish number]

/-- A provider answers every request, and keeps the issue of an artifact. -/
structure ProviderAnswers.Working (answers : ProviderAnswers)
    (artifact : Option StoredRepositoryArtifact) : Prop where
  verified : answers.verified = true
  synced : ∃ projected, answers.synced = some projected ∧
    ∀ row, artifact = some row → projected.id = row.artifactId
  closed : answers.closed = true

/-- An effort with an issue repository can be projected: no call of it is in progress, one call can
read its unread events, and the provider works. -/
structure Projector.Ready (world : Projector) (effort : IntegrationEffort)
    (answers : ProviderAnswers) : Prop where
  stored : effort ∈ world.store.efforts
  issued : effort.stateRepository.issue?.isSome = true
  idle : ∀ number call, world.calls number = some call → call.effort.id ≠ effort.id
  few : (world.store.rowsOf effort.id).unread.length ≤ Outbox.projectionLimit
  working : answers.Working (world.store.artifacts.find? effort.id)

/-- The call before its last transaction. -/
def readyCall (store : Outbox) (effort : IntegrationEffort) (answers : ProviderAnswers) :
    ProjectionCall :=
  ⟨effort, store.eventsOf effort.id, .projected (store.artifacts.find? effort.id)
    (store.effortEventsAfter effort.id (cursorOf (store.artifacts.find? effort.id))
      Outbox.projectionLimit) answers⟩

section Ready

variable {world : Projector} {number : Nat} {answers : ProviderAnswers}

/-- The effort of an item is found by the item. -/
theorem effortForItem_of_mem (ordered : store.Ordered) (mem : effort ∈ store.efforts) :
    store.effortForItem effort.itemId = some effort := by
  cases found : store.effortForItem effort.itemId with
  | none =>
    have other := List.find?_eq_none.mp found effort mem
    simp at other
  | some other =>
    have same : other.itemId = effort.itemId := by simpa using List.find?_some found
    rw [ordered.distinct other (List.mem_of_find?_eq_some found) effort mem same]

/-- The world before the last transaction of a call that is not interrupted. -/
theorem run_projectItem (ordered : world.store.Ordered) (free : world.calls number = none)
    (mem : effort ∈ world.store.efforts) :
    projector.run world [.fetch number effort.itemId, .load number, .gather number,
        .project number answers] =
      world.setCall number (some (readyCall world.store effort answers)) := by
  have found := effortForItem_of_mem ordered mem
  have fetched : world.step (.fetch number effort.itemId) =
      world.setCall number (some ⟨effort, world.store.eventsOf effort.id, .fetched⟩) := by
    simp only [Projector.step, free, found]
  simp only [Machine.run_cons, Machine.run_nil, projector, fetched]
  simp only [Projector.step, Projector.setCall_calls, Projector.setCall_setCall]
  rfl

/-- The last transaction of a call leaves the rows of other efforts. -/
theorem rowsOf_finish_other (call : ProjectionCall) (store : Outbox) {other : String}
    (apart : other ≠ call.effort.id) :
    (call.finish store).1.rowsOf other = store.rowsOf other := by
  unfold ProjectionCall.finish
  split
  · split
    · exact (rowsOf_recordProjectionDebt other).trans (if_neg apart)
    · rfl
    · split
      · rfl
      · split
        · rfl
        · rename_i recorded
          exact (rowsOf_recorded recorded other).trans (if_neg apart)
  · rfl

/-- A call that has read everything is known to the projector. -/
theorem Projector.Ready.consistent (ready : world.Ready effort answers)
    (consistent : world.Consistent) :
    (world.setCall number (some (readyCall world.store effort answers))).Consistent := by
  have found : world.store.efforts.find? effort.id = some effort :=
    Table.find?_eq_some.mpr ⟨ready.stored, rfl⟩
  refine consistent.setCall ?_
  rintro call ⟨⟩
  refine ⟨List.prefix_rfl, ⟨effort, found, rfl⟩, fun _ => found, ?_⟩
  rintro _ _ ⟨⟩
  exact ⟨_, List.prefix_rfl, List.prefix_rfl, rfl⟩

/-- A call that has read everything follows its rows. -/
theorem Projector.Ready.sound (ready : world.Ready effort answers) (sound : world.Sound) :
    (world.setCall number (some (readyCall world.store effort answers))).Sound := by
  have found : (world.store.rowsOf effort.id).effort = some effort :=
    Table.find?_eq_some.mpr ⟨ready.stored, rfl⟩
  refine sound.setCall ?_ ?_
  swap
  · rintro call stored ⟨⟩ ⟨⟩
    exact Nat.lt_succ_iff.mp (sound.cursor_lt effort.id "" false)
  rintro call ⟨⟩
  refine ⟨fun row current => ?_, ?_, by rintro - ⟨⟩, ?_⟩
  · rw [Option.some_inj.mp (current.symm.trans found)]
    rfl
  · rintro - _ ⟨⟩
    rfl
  · rintro _ _ ⟨⟩
    refine ⟨world.store.eventsOf effort.id, [], List.prefix_rfl, (List.append_nil _).symm,
      List.take_of_length_le ready.few, fun _ => ?_⟩
    rintro ⟨row, current, ended⟩
    rw [Option.some_inj.mp (current.symm.trans found)] at ended
    exact .inl ⟨ended, rfl⟩

/-- A working provider does not fail a call. -/
theorem fails_readyCall (working : answers.Working (world.store.artifacts.find? effort.id))
    (visibility : IssueVisibility) :
    (readyCall world.store effort answers).fails visibility = false := by
  obtain ⟨projected, synced, -⟩ := working.synced
  simp [ProjectionCall.fails, readyCall, working.verified, working.closed, synced]

/-- A call with a working provider returns. -/
theorem Projector.Ready.returns (ready : world.Ready effort answers) (sound : world.Sound) :
    (world.setCall number (some (readyCall world.store effort answers))).Returns number
      (readyCall world.store effort answers) where
  running := Projector.setCall_calls ..
  quiet := rfl
  bound := ready.issued
  ok := by
    obtain ⟨⟨provider, issue⟩, issued⟩ := Option.isSome_iff_exists.mp ready.issued
    have found : (world.store.rowsOf effort.id).effort = some effort :=
      Table.find?_eq_some.mpr ⟨ready.stored, rfl⟩
    have issued : (readyCall world.store effort answers).effort.stateRepository.issue? =
        some (provider, issue) := issued
    show ((readyCall world.store effort answers).finish world.store).2 = true
    rcases (readyCall world.store effort answers).project_cases rfl issued with
      ⟨failed, -⟩ | ⟨-, -, outcome⟩ | ⟨-, -, projected, synced, outcome⟩
    · rw [fails_readyCall ready.working] at failed
      cases failed
    · simp only [ProjectionCall.finish, readyCall] at outcome ⊢
      simp only [outcome]
    · simp only [ProjectionCall.finish, readyCall] at outcome issued ⊢
      simp only [outcome, issued, Outbox.recordRepositoryProjection, receiptOf]
      cases stored : world.store.artifacts.find? effort.id with
      | none => rfl
      | some row =>
        obtain ⟨other, synced_other, kept⟩ := ready.working.synced
        obtain rfl := Option.some_inj.mp (synced_other.symm.trans synced)
        obtain ⟨same_provider, same_repository⟩ :=
          (sound.rows effort.id).bound effort provider issue row found issued stored
        simp only [same_provider, same_repository, kept row stored, and_self, if_true]

/-- What a call that is not interrupted leaves with a working provider. -/
structure Projector.DrainedBy (world last : Projector) (effort : IntegrationEffort) : Prop where
  consistent : last.Consistent
  sound : last.Sound
  calls : last.calls = world.calls
  efforts : last.store.efforts = world.store.efforts
  others : ∀ other, other ≠ effort.id → last.store.rowsOf other = world.store.rowsOf other
  nothing : ∀ provider issue, effort.stateRepository.issue? = some (provider, issue) →
    last.store.NothingOwed effort issue.visibility
  clear : last.store.debts.find? effort.id = none

/-- A call that is not interrupted drains its effort, with a working provider. -/
theorem Projector.Ready.drained (ready : world.Ready effort answers) (consistent : world.Consistent)
    (sound : world.Sound) (free : world.calls number = none) :
    world.DrainedBy (projector.run world (projectItem number effort.itemId answers)) effort := by
  have before_consistent := @Projector.Ready.consistent effort world number answers ready consistent
  have before_sound := @Projector.Ready.sound effort world number answers ready sound
  have returns := @Projector.Ready.returns effort world number answers ready sound
  obtain ⟨⟨provider, issue⟩, issued⟩ := Option.isSome_iff_exists.mp ready.issued
  generalize before : world.setCall number (some (readyCall world.store effort answers)) = reading
    at *
  have stepped : reading.step (.finish number) = { reading with store :=
      ((readyCall world.store effort answers).finish world.store).1 }.setCall number none := by
    subst before
    simp only [Projector.step, Projector.setCall_calls]
    rfl
  have left : projector.run world (projectItem number effort.itemId answers) =
      reading.step (.finish number) := by
    have steps : projectItem number effort.itemId answers = [.fetch number effort.itemId,
      .load number, .gather number, .project number answers] ++ [.finish number] := rfl
    rw [steps, Machine.run_append, run_projectItem consistent.store free ready.stored, before]
    rfl
  have meets : reading.Meets (.finish number) := by
    subst before
    intro call running _
    rw [Projector.setCall_calls] at running
    cases running
    rw [fails_readyCall ready.working]
    refine ⟨by rintro ⟨⟩, fun _ number_other called apart remains same => ?_⟩
    simp only [Projector.setCall, if_neg apart] at remains
    exact absurd same (ready.idle number_other called remains)
  have store : reading.store = world.store := by rw [← before]; rfl
  have owed := returns.nothingOwed before_consistent before_sound issued
  rw [left]
  refine ⟨before_consistent.step (.finish number), ?_, ?_, ?_, ?_, ?_, ?_⟩ <;> rw [stepped]
  · have finished := before_sound.finish before_consistent returns.running meets
    rwa [store] at finished
  · subst before
    funext other
    simp only [Projector.setCall]
    split
    · rename_i same
      rw [same, free]
    · rfl
  · exact efforts_finish _ _
  · exact fun other apart => rowsOf_finish_other _ _ apart
  · intro other snapshot bound
    obtain ⟨rfl, rfl⟩ := Prod.mk.inj (Option.some_inj.mp (bound.symm.trans issued))
    rw [store] at owed
    exact owed.1
  · rw [store] at owed
    exact owed.2

end Ready

/-! ## Draining -/

/-- Nothing is owed for an effort whose rows are the same. -/
theorem Outbox.NothingOwed.of_rowsOf {visibility : IssueVisibility}
    (nothing : store.NothingOwed effort visibility)
    (same : later.rowsOf effort.id = store.rowsOf effort.id) :
    later.NothingOwed effort visibility := by
  have debt : later.debts.find? effort.id = store.debts.find? effort.id :=
    congrArg EffortRows.debt same
  have artifact : later.artifacts.find? effort.id = store.artifacts.find? effort.id :=
    congrArg EffortRows.artifact same
  have events : later.eventsOf effort.id = store.eventsOf effort.id :=
    congrArg EffortRows.events same
  refine ⟨?_, ?_, ?_, ?_⟩ <;> simp only [debt, artifact, events]
  · exact nothing.debt
  · exact nothing.unopened
  · exact nothing.unread
  · exact nothing.closed

variable {world : Projector} {number : Nat}

/-- An effort stays ready while another is drained. -/
theorem Projector.Ready.of_drainedBy {last : Projector} {other : IntegrationEffort}
    {answers : ProviderAnswers} (ready : world.Ready effort answers)
    (drained : world.DrainedBy last other) (apart : effort.id ≠ other.id) :
    last.Ready effort answers where
  stored := by
    rw [drained.efforts]
    exact ready.stored
  issued := ready.issued
  idle := by
    rw [drained.calls]
    exact ready.idle
  few := by
    rw [drained.others effort.id apart]
    exact ready.few
  working := by
    have same := congrArg EffortRows.artifact (drained.others effort.id apart)
    rw [show last.store.artifacts.find? effort.id = world.store.artifacts.find? effort.id from same]
    exact ready.working

/-- Calls of `project_item` for efforts one after another. -/
def projectItems (number : Nat) (answers : IntegrationEffort → ProviderAnswers)
    (efforts : List IntegrationEffort) : List ProjectorAction :=
  efforts.flatMap fun effort => projectItem number effort.itemId (answers effort)

/-- Calls for efforts that are ready leave nothing owed for any of them. -/
theorem drained_of_ready (consistent : world.Consistent) (sound : world.Sound)
    (free : world.calls number = none) (answers : IntegrationEffort → ProviderAnswers)
    {efforts : List IntegrationEffort} (distinct : efforts.Nodup)
    (ready : ∀ effort ∈ efforts, world.Ready effort (answers effort)) :
    let last := projector.run world (projectItems number answers efforts)
    last.store.Ordered ∧ last.store.efforts = world.store.efforts ∧
      (∀ other, (∀ effort ∈ efforts, effort.id ≠ other) →
        last.store.rowsOf other = world.store.rowsOf other) ∧
      ∀ effort ∈ efforts, last.store.debts.find? effort.id = none ∧
        ∀ provider issue, effort.stateRepository.issue? = some (provider, issue) →
          last.store.NothingOwed effort issue.visibility := by
  induction efforts generalizing world with
  | nil =>
    exact ⟨consistent.store, rfl, fun _ _ => rfl, fun effort mem => absurd mem List.not_mem_nil⟩
  | cons first rest drained_rest =>
    obtain ⟨fresh, distinct⟩ := List.nodup_cons.mp distinct
    obtain ⟨ready_first, ready_rest⟩ := List.forall_mem_cons.mp ready
    have drained := ready_first.drained consistent sound free
    have apart : ∀ effort ∈ rest, effort.id ≠ first.id := by
      intro effort mem same
      have one := Table.eq_of_key (ready_rest effort mem).stored ready_first.stored same
      exact fresh (one ▸ mem)
    have steps : projectItems number answers (first :: rest) =
        projectItem number first.itemId (answers first) ++ projectItems number answers rest := rfl
    rw [steps, Machine.run_append]
    generalize projector.run world (projectItem number first.itemId (answers first)) = next at *
    obtain ⟨ordered, efforts, others, nothing⟩ := drained_rest drained.consistent drained.sound
      (by rw [drained.calls]; exact free) distinct
      fun effort mem => (ready_rest effort mem).of_drainedBy drained (apart effort mem)
    have kept := others first.id apart
    refine ⟨ordered, efforts.trans drained.efforts, fun other away => ?_, fun effort mem => ?_⟩
    · obtain ⟨away_first, away_rest⟩ := List.forall_mem_cons.mp away
      exact (others other away_rest).trans (drained.others other (Ne.symm away_first))
    · rcases List.mem_cons.mp mem with rfl | mem
      · have clear := (congrArg EffortRows.debt kept).trans drained.clear
        refine ⟨clear, fun provider issue issued => ?_⟩
        exact (drained.nothing provider issue issued).of_rowsOf kept
      · exact nothing effort mem

/-- Calls for efforts that are ready settle their items and clear their debts; when they are for all
efforts with an issue repository, the list is empty. -/
def Drains (world : Projector) : Prop :=
  ∀ (number : Nat) (answers : IntegrationEffort → ProviderAnswers)
    (efforts : List IntegrationEffort), world.calls number = none → efforts.Nodup →
    (∀ effort ∈ efforts, world.Ready effort (answers effort)) →
    let last := projector.run world (projectItems number answers efforts)
    (∀ effort ∈ efforts, last.store.Settled effort.itemId ∧
      last.store.debts.find? effort.id = none) ∧
    ((∀ effort ∈ world.store.efforts, effort.stateRepository.issue?.isSome = true →
      effort ∈ efforts) →
      ∀ limit now items, last.store.projectionItems limit now = some items → items = [])

/-- A projector that is sound drains. -/
theorem drains_of_sound (consistent : world.Consistent) (sound : world.Sound) : Drains world := by
  intro number answers efforts free distinct ready
  obtain ⟨ordered, kept, -, nothing⟩ :=
    drained_of_ready consistent sound free answers distinct ready
  have settled : ∀ effort ∈ efforts, (projector.run world
      (projectItems number answers efforts)).store.Settled effort.itemId := by
    intro effort mem
    obtain ⟨⟨provider, issue⟩, issued⟩ := Option.isSome_iff_exists.mp (ready effort mem).issued
    refine Outbox.settled_of_nothingOwed ordered ?_ issued
      ((nothing effort mem).2 provider issue issued)
    rw [kept]
    exact (ready effort mem).stored
  refine ⟨fun effort mem => ⟨settled effort mem, (nothing effort mem).1⟩, fun all limit now items
    returned => ?_⟩
  refine List.eq_nil_iff_forall_not_mem.mpr fun itemId listed => ?_
  obtain ⟨effort, stored, rfl, later, selected⟩ :=
    Outbox.lists_of_mem_projectionItems returned listed
  rw [kept] at stored
  have issued : effort.stateRepository.issue?.isSome = true := by
    cases bound : effort.stateRepository.issue? with
    | none =>
      simp only [Outbox.isListed, bound] at selected
      cases selected
    | some _ => rfl
  exact (settled effort (all effort stored issued)).unlisted limit now items returned listed

/-- In a run whose steps meet their conditions every call that returns with no event appended since
it read its effort settles its item, and calls with a working provider drain the outbox of the state
it leaves. -/
theorem projection_converges {start : Projector} {actions : List ProjectorAction}
    (initial : projector.Initial start)
    (meets : projector.Throughout Projector.Meets start actions) :
    Converges start actions ∧ Drains (projector.run start actions) :=
  ⟨converges_of_meets initial meets, drains_of_sound
    (consistent_of_reachable ⟨start, actions, initial, rfl⟩) (Projector.sound_run initial meets)⟩

namespace ProjectionSample

/-- No rows and no calls. -/
def idle : Projector := ⟨⟨.empty, [], .empty, .empty, 0⟩, fun _ => none⟩

/-- The idle sample is a first state. -/
theorem idle_initial : projector.Initial idle := ⟨rfl, rfl, rfl, rfl, rfl⟩

/-- An effort that reports to an issue with minimal visibility. -/
def reported (state : IntegrationEffortState) : IntegrationEffort :=
  { (Sample.newEffort "attempt" (.clean Sample.treeSha) .direct).row "effort" with
    state, stateRepository := .githubIssue ⟨"owner/repository", .minimal, []⟩ }

/-- The state of an effort whose runner is offline. -/
def unavailable : IntegrationEffortState :=
  .infrastructureBlocked ⟨.infrastructure ⟨.runner, "launch", .unavailable "offline"⟩,
    .agentReady ⟨1⟩⟩

/-- A provider that verifies, synchronizes and closes. -/
def posted : ProviderAnswers :=
  ⟨true, some ⟨"1", "https://github.com/owner/repository/issues/1"⟩, true⟩

/-- A provider that does not verify the destination. -/
def unverified : ProviderAnswers := ⟨false, none, false⟩

/-- A call of `project_item` before its last transaction. -/
def calling (number : Nat) (answers : ProviderAnswers) : List ProjectorAction :=
  (projectItem number "item" answers).dropLast

/-- An effort of the item. -/
def created : List ProjectorAction :=
  [.create (reported (.agentReady ⟨1⟩)) none "agent_ready" false]

/-- The runner fails. -/
def blocked : List ProjectorAction :=
  created ++ [.operate (reported unavailable) "infrastructure_blocked" true]

/-- The blocker is resolved. -/
def retried : ProjectorAction :=
  .operate (reported (.agentReady ⟨1⟩)) "infrastructure_retry_authorized" false

/-- A blocked effort is projected. -/
def projectedOnce : List ProjectorAction := blocked ++ projectItem 0 "item" posted

/-- The projection of a blocked effort fails, and the blocker is resolved before the next call. -/
def resolvedEarly : List ProjectorAction :=
  blocked ++ projectItem 0 "item" unverified ++ [retried] ++ calling 1 posted

/-- The effort is integrated after a call read it and before the call reads its events. -/
def endedBetween : List ProjectorAction :=
  blocked ++ projectItem 0 "item" posted ++ [retried, .fetch 1 "item",
    .operate (reported (.integrated ⟨Sample.candidateSha, Sample.candidateSha, "attempt", "event"⟩))
      "integrated" false,
    .load 1, .gather 1, .project 1 posted, .finish 1] ++ calling 2 posted

/-- A call fails while there is nothing to send. -/
def failedIdle : List ProjectorAction :=
  created ++ projectItem 0 "item" unverified ++ calling 1 posted

/-- A call that began before another one records what it read while a third one is in progress. -/
def overtaken : List ProjectorAction :=
  blocked ++ projectItem 0 "item" posted ++ [retried] ++ calling 1 posted ++
    [.operate (reported unavailable) "infrastructure_blocked" true] ++
    projectItem 2 "item" posted ++ calling 3 posted ++ [.finish 1]

/-- An item stays on the list though its last call returned and no event was appended. -/
def strands (actions : List ProjectorAction) (number : Nat) : Bool :=
  let world := projector.run idle actions
  (world.calls number).any fun call =>
    let (left, ok) := call.finish world.store
    ok && world.store.eventsOf call.effort.id == call.known &&
      call.effort.stateRepository.issue?.isSome &&
      (left.projectionItems 1000 (left.now + 3600)).any (·.contains call.effort.itemId)

/-- A stranded item refutes convergence. -/
theorem not_converges_of_strands {actions : List ProjectorAction} {number : Nat}
    (stranded : strands actions number = true) :
    ¬Converges idle (actions ++ [.finish number]) := by
  intro converges
  obtain ⟨call, running, facts⟩ := (Option.any_eq_true _ _).mp stranded
  simp only [Bool.and_eq_true, beq_iff_eq, and_assoc] at facts
  obtain ⟨ok, quiet, bound, listed⟩ := facts
  have returns : (projector.run idle actions).Returns number call := ⟨running, ok, quiet, bound⟩
  have settled := converges actions number [] call rfl returns
  rw [returns.store_run] at settled
  obtain ⟨items, returned, contained⟩ := (Option.any_eq_true _ _).mp listed
  exact settled.unlisted _ _ items returned (List.contains_iff_mem.mp contained)

/-- Without a step of another call, none is in progress. -/
theorem alone {actions : List ProjectorAction} {other : Nat}
    (apart : ∀ action ∈ actions, Projector.numberOf action ≠ some other) :
    (projector.run idle actions).calls other = none := by
  refine @Machine.run_keeps_while _ _ projector (fun world => world.calls other = none)
    (fun _ action => Projector.numberOf action ≠ some other) ?_ idle rfl actions ?_
  · intro world action free apart
    exact (Projector.calls_step_other apart).trans free
  · intro before action rest split
    exact apart action (by rw [split]; simp)

/-- Few events are read by one call. -/
theorem meets_gather {world : Projector} {number : Nat}
    (few : world.store.events.length ≤ Outbox.projectionLimit) : world.Meets (.gather number) :=
  fun _ _ _ _ => (List.length_filter_le _ _).trans ((List.length_filter_le _ _).trans few)

/-- Each step of the projection of a blocked effort meets its condition. -/
theorem projectedOnce_meets : projector.Throughout Projector.Meets idle projectedOnce := by
  have found : (projector.run idle created).store.efforts.find? "effort" =
      some (reported (.agentReady ⟨1⟩)) := rfl
  have working : ((projector.run idle (blocked ++ calling 0 posted)).calls 0).all (fun call =>
      !call.fails .minimal) = true := by decide +kernel
  simp only [projectedOnce, blocked, created, projectItem, List.cons_append, List.nil_append,
    Machine.throughout_cons]
  refine ⟨⟨by rintro _ _ _ _ ⟨⟩, fun _ => ?_⟩, fun old stored => ?_, trivial, trivial,
    meets_gather (by decide +kernel), trivial, ?_, Machine.throughout_nil⟩
  · refine ⟨fun owed => absurd rfl owed, fun _ asks => ?_, by rintro ⟨⟩⟩
    rcases asks with waits | review
    · exact absurd rfl waits
    · cases review
  · obtain rfl := Option.some_inj.mp (found.symm.trans stored)
    refine ⟨rfl, fun _ => ⟨⟨fun owed => absurd rfl owed, fun _ _ => .inl rfl, by rintro ⟨⟩⟩, ?_⟩⟩
    rintro ⟨⟩
  · intro call running _
    have running : (projector.run idle (blocked ++ calling 0 posted)).calls 0 = some call := running
    rw [running, Option.all_some, Bool.not_eq_true'] at working
    rw [working]
    refine ⟨by rintro ⟨⟩, fun _ other called apart remains _ => ?_⟩
    have numbers : ∀ action ∈ blocked ++ calling 0 posted,
        Projector.numberOf action = none ∨ Projector.numberOf action = some 0 := by decide
    have none : (projector.run idle (blocked ++ calling 0 posted)).calls other = none := by
      refine alone fun action mem same => ?_
      rcases numbers action mem with outside | first
      · cases outside.symm.trans same
      · exact apart (Option.some_inj.mp (same.symm.trans first))
    cases none.symm.trans remains

end ProjectionSample

/-- A blocked effort is projected, its item leaves the list, and so do the items that are projected
next. -/
theorem projection_converges_blocked :
    Converges ProjectionSample.idle ProjectionSample.projectedOnce ∧
      Drains (projector.run ProjectionSample.idle ProjectionSample.projectedOnce) :=
  projection_converges ProjectionSample.idle_initial ProjectionSample.projectedOnce_meets

/-- A debt stays when the blocker is resolved before the first projection or when a call fails with
nothing to send; the issue of an effort stays open when the effort ends while a call is between its
effort and its events; and a call that was overtaken puts back the cursor. -/
theorem projection_strands :
    ¬Converges ProjectionSample.idle (ProjectionSample.resolvedEarly ++ [.finish 1]) ∧
      ¬Converges ProjectionSample.idle (ProjectionSample.endedBetween ++ [.finish 2]) ∧
      ¬Converges ProjectionSample.idle (ProjectionSample.failedIdle ++ [.finish 1]) ∧
      ¬Converges ProjectionSample.idle (ProjectionSample.overtaken ++ [.finish 3]) :=
  ⟨ProjectionSample.not_converges_of_strands (by decide +kernel),
    ProjectionSample.not_converges_of_strands (by decide +kernel),
    ProjectionSample.not_converges_of_strands (by decide +kernel),
    ProjectionSample.not_converges_of_strands (by decide +kernel)⟩

end Iq

