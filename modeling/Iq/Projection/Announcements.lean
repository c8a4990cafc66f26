import Iq.Projection.EffortRows

/-!
# Announced operations

What a step is asked so that what is owed for an effort is also sent: operations announce what they
leave, and calls of one effort do not record under one another or fail with nothing to send. What
the rows of an effort and the calls in progress then keep.
-/

namespace Iq

open Library

variable {store later : Outbox} {effort : IntegrationEffort} {effortId : String}
  {rows : EffortRows} {state : IntegrationEffortState}

/-! ## What the steps are asked -/

/-- The reports of the effort go to an issue with minimal visibility. -/
def StateRepositorySnapshot.IsMinimal (snapshot : StateRepositorySnapshot) : Prop :=
  ∃ provider issue, snapshot.issue? = some (provider, issue) ∧ issue.visibility = .minimal

/-- An event of a type is reported with minimal visibility. -/
def isReported (eventType : String) (alert : Bool) : Bool :=
  alert || reportedTypes.contains eventType

/-- What an operation leaves is announced: while a failure is to be repeated the effort has an issue
or opens one, who is waited for is told by an event to report, and so is the end. -/
structure EffortRows.Announces (rows : EffortRows) (state : IntegrationEffortState)
    (reported : Bool) : Prop where
  owed : rows.debt ≠ none → rows.artifact = none →
    state.blocker ≠ none ∨ state.isProviderInputState = true
  opened : rows.artifact = none → state.blocker ≠ none ∨ state.name = .reviewRequired →
    reported = true ∨ rows.Reports
  ended : state.isTerminal = true → reported = true

/-- Whether a call, by what it has read, sends a projection. -/
def ProjectionCall.sends (call : ProjectionCall) (visibility : IssueVisibility) : Bool :=
  match call.phase.batch? with
  | none => false
  | some (stored, events) =>
    sendsProjection visibility call.effort.state events
      (stored.map StoredRepositoryArtifact.artifactId)

/-- Whether the provider fails a call: the destination is not verified, or what the call sends is
lost. -/
def ProjectionCall.fails (call : ProjectionCall) (visibility : IssueVisibility) : Bool :=
  match call.phase with
  | .projected _ _ answers =>
    !answers.verified || call.sends visibility &&
      (answers.synced.isNone || call.effort.state.isTerminal && !answers.closed)
  | _ => false

/-- What the provider part of a call comes to: it fails, or sends nothing, or reports the issue that
the provider synchronized. -/
theorem ProjectionCall.project_cases {call : ProjectionCall} {provider : IssueProvider}
    {issue : IssueRepositorySnapshot} {stored : Option StoredRepositoryArtifact}
    {events : List OutboxEvent} {answers : ProviderAnswers}
    (phase : call.phase = .projected stored events answers)
    (issued : call.effort.stateRepository.issue? = some (provider, issue)) :
    (call.fails issue.visibility = true ∧ call.effort.project events
        (stored.map StoredRepositoryArtifact.artifactId) answers = none) ∨
      (call.fails issue.visibility = false ∧ call.sends issue.visibility = false ∧
        call.effort.project events (stored.map StoredRepositoryArtifact.artifactId) answers =
          some none) ∨
      call.fails issue.visibility = false ∧ call.sends issue.visibility = true ∧
        ∃ projected, answers.synced = some projected ∧ call.effort.project events
          (stored.map StoredRepositoryArtifact.artifactId) answers = some (some projected) := by
  have reads : call.sends issue.visibility = sendsProjection issue.visibility call.effort.state
      events (stored.map StoredRepositoryArtifact.artifactId) := by
    rw [sends, phase]
    rfl
  rw [IntegrationEffort.project, issued, fails, phase, reads]
  dsimp only
  generalize sendsProjection issue.visibility call.effort.state events
    (stored.map StoredRepositoryArtifact.artifactId) = sent
  obtain ⟨verified, synced, closed⟩ := answers
  cases sent <;> cases verified <;> cases synced <;> cases call.effort.state.isTerminal <;>
    cases closed <;> simp

/-- What the last transaction of a call comes to: the store stays, or a failure of the provider is
recorded as a debt, or the issue that the provider synchronized is recorded. -/
theorem ProjectionCall.finish_cases {call : ProjectionCall} {provider : IssueProvider}
    {issue : IssueRepositorySnapshot} (store : Outbox)
    (issued : call.effort.stateRepository.issue? = some (provider, issue)) :
    call.finish store = (store, false) ∨
      (call.fails issue.visibility = true ∧
        call.finish store = (store.recordProjectionDebt call.effort.id, false)) ∨
      (∃ stored events, call.phase.batch? = some (stored, events) ∧
        call.sends issue.visibility = false ∧ call.finish store = (store, true)) ∨
      ∃ stored events projected later, call.phase.batch? = some (stored, events) ∧
        call.sends issue.visibility = true ∧
        store.recordRepositoryProjection
          (receiptOf call.effort provider issue.repository stored events projected) = some later ∧
        call.finish store = (later, true) := by
  cases phase : call.phase with
  | fetched | loaded | gathered =>
    left
    rw [finish, phase]
  | projected stored events answers =>
    have read : call.phase.batch? = some (stored, events) := by
      rw [phase]
      rfl
    rw [phase] at read
    rcases call.project_cases phase issued with ⟨failed, outcome⟩ | ⟨-, silent, outcome⟩ |
      ⟨-, sent, projected, -, outcome⟩
    · refine .inr (.inl ⟨failed, ?_⟩)
      rw [finish, phase]
      simp only [outcome]
    · refine .inr (.inr (.inl ⟨stored, events, read, silent, ?_⟩))
      rw [finish, phase]
      simp only [outcome]
    · cases recorded : store.recordRepositoryProjection
          (receiptOf call.effort provider issue.repository stored events projected) with
      | none =>
        left
        rw [finish, phase]
        simp only [outcome, issued, recorded]
      | some later =>
        refine .inr (.inr (.inr ⟨stored, events, projected, later, read, sent, recorded, ?_⟩))
        rw [finish, phase]
        simp only [outcome, issued, recorded]

/-- Without an issue repository a call leaves the store. -/
theorem ProjectionCall.finish_unbound {call : ProjectionCall} (store : Outbox)
    (unbound : call.effort.stateRepository.issue? = none) : (call.finish store).1 = store := by
  unfold finish
  split
  · rw [IntegrationEffort.project, unbound]
  · rfl

/-- What a step is asked, by the state before it. An operation keeps the state repository, and a
call reads all unread events. With minimal visibility an operation announces what it leaves and does
not end an effort while a call has yet to read its events; a call fails only while there is something
to send; and when it has something to record no other call of its effort has read the artifact. -/
def Projector.Meets (world : Projector) : ProjectorAction → Prop
  | .create effort reserved eventType alert =>
    (∀ provider issue row, effort.stateRepository.issue? = some (provider, issue) →
      reserved = some row → row.provider = provider ∧ row.repository = issue.repository) ∧
    (effort.stateRepository.IsMinimal → EffortRows.Announces ⟨none, [], reserved, none⟩ effort.state
      (isReported eventType alert))
  | .operate effort eventType alert =>
    ∀ old, world.store.efforts.find? effort.id = some old →
      effort.stateRepository = old.stateRepository ∧
      (effort.stateRepository.IsMinimal →
        (world.store.rowsOf effort.id).Announces effort.state (isReported eventType alert) ∧
        (effort.state.isTerminal = true → ∀ number call, world.calls number = some call →
          call.effort.id = effort.id → call.phase.batch? ≠ none))
  | .gather number =>
    ∀ effort known stored, world.calls number = some ⟨effort, known, .loaded stored⟩ →
      (Log.after OutboxEvent.sequence (world.store.eventsOf effort.id) (cursorOf stored)).length ≤
        Outbox.projectionLimit
  | .finish number =>
    ∀ call, world.calls number = some call → call.effort.stateRepository.IsMinimal →
      (call.fails .minimal = true → ∀ effort,
        world.store.efforts.find? call.effort.id = some effort →
        (world.store.rowsOf call.effort.id).sends .minimal effort.state = true) ∧
      (call.fails .minimal = true ∨ call.sends .minimal = true →
        ∀ other called, other ≠ number → world.calls other = some called →
          called.effort.id = call.effort.id → called.phase = .fetched)
  | _ => True

/-! ## What the steps keep -/

/-- With minimal visibility, what is owed for an effort is sent. -/
structure EffortRows.Awake (rows : EffortRows) (state : IntegrationEffortState) : Prop where
  debt : rows.debt ≠ none → rows.sends .minimal state = true
  opened : rows.artifact = none → state.blocker ≠ none ∨ state.name = .reviewRequired →
    rows.Reports
  ended : state.isTerminal = true → ∀ artifact, rows.artifact = some artifact →
    artifact.state ≠ .closed ∨ rows.unread ≠ [] → rows.Reports

/-- The rows belong to an effort, the artifact to its state repository, and what is owed is sent. -/
structure EffortRows.Sound (rows : EffortRows) : Prop where
  owned : rows.effort = none → rows.artifact = none ∧ rows.debt = none
  bound : ∀ effort provider issue artifact, rows.effort = some effort →
    effort.stateRepository.issue? = some (provider, issue) → rows.artifact = some artifact →
      artifact.provider = provider ∧ artifact.repository = issue.repository
  awake : ∀ effort, rows.effort = some effort → effort.stateRepository.IsMinimal →
    rows.Awake effort.state

/-- The effort has ended. -/
def EffortRows.Ended (rows : EffortRows) : Prop :=
  ∃ effort, rows.effort = some effort ∧ effort.state.isTerminal = true

/-- The artifact that a call has read, once it has. -/
def ProjectionPhase.stored? : ProjectionPhase → Option (Option StoredRepositoryArtifact)
  | .fetched => none
  | .loaded stored | .gathered stored _ | .projected stored _ _ => some stored

/-- A call has read the artifact before the events. -/
theorem ProjectionPhase.stored?_of_batch? {phase : ProjectionPhase}
    {stored : Option StoredRepositoryArtifact} {events : List OutboxEvent}
    (read : phase.batch? = some (stored, events)) : phase.stored? = some stored := by
  cases phase with
  | fetched => cases read
  | loaded => cases read
  | gathered =>
    cases read
    rfl
  | projected =>
    cases read
    rfl

/-- The effort of a call is stored. -/
theorem ProjectionCall.Consistent.rowsOf_effort {call : ProjectionCall}
    (consistent : call.Consistent store) : (store.rowsOf call.effort.id).effort ≠ none := by
  obtain ⟨row, stored, -⟩ := consistent.stored
  rw [show (store.rowsOf call.effort.id).effort = some row from stored]
  rintro ⟨⟩

/-- The events that a call in progress has read are those that there are, but for some that came
since. With minimal visibility the artifact that it has read is the one that there is, and an effort
that has ended was read so, or its end is among those events. -/
structure ProjectionCall.Follows (call : ProjectionCall) (rows : EffortRows) : Prop where
  bound : ∀ effort, rows.effort = some effort →
    effort.stateRepository = call.effort.stateRepository
  stored : call.effort.stateRepository.IsMinimal →
    ∀ stored, call.phase.stored? = some stored → rows.artifact = stored
  ended : call.effort.stateRepository.IsMinimal → call.phase.batch? = none → rows.Ended →
    call.effort.state.isTerminal = true
  gathered : ∀ stored events, call.phase.batch? = some (stored, events) → ∃ seen more,
    call.known <+: seen ∧ rows.events = seen ++ more ∧
      events = Log.after OutboxEvent.sequence seen (cursorOf stored) ∧
      (call.effort.stateRepository.IsMinimal → rows.Ended →
        call.effort.state.isTerminal = true ∧ more = [] ∨
          ∃ event ∈ more, isRelevant .minimal event = true ∧ cursorOf stored < event.sequence)

/-- What holds after every run of steps that meet the conditions. -/
structure Projector.Sound (world : Projector) : Prop where
  rows : ∀ effortId, (world.store.rowsOf effortId).Sound
  calls : ∀ number call, world.calls number = some call →
    call.Follows (world.store.rowsOf call.effort.id)
  cursors : ∀ effortId artifact, world.store.artifacts.find? effortId = some artifact →
    artifact.lastEventSequence ≤ world.store.events.length
  read : ∀ number call stored, world.calls number = some call →
    call.phase.stored? = some stored → cursorOf stored ≤ world.store.events.length

namespace EffortRows

variable {event : OutboxEvent}

/-- The rows with one more event. -/
def append (rows : EffortRows) (event : OutboxEvent) : EffortRows :=
  { rows with events := rows.events ++ [event] }

/-- An event after the cursor is unread. -/
theorem unread_append (later : cursorOf rows.artifact < event.sequence) :
    (rows.append event).unread = rows.unread ++ [event] := by
  unfold unread append Log.after
  rw [List.filter_append, List.filter_cons_of_pos (by simpa using later), List.filter_nil]

/-- What is to be reported stays so. -/
theorem Reports.append (reports : rows.Reports) : (rows.append event).Reports := by
  obtain ⟨reported, unread, relevant⟩ := reports
  obtain ⟨mem, after⟩ := Log.mem_after.mp unread
  exact ⟨reported, Log.mem_after.mpr ⟨List.mem_append_left _ mem, after⟩, relevant⟩

/-- An event that is reported is to be reported. -/
theorem reports_of_event (later : cursorOf rows.artifact < event.sequence)
    (relevant : isRelevant .minimal event = true) : (rows.append event).Reports := by
  refine ⟨event, ?_, relevant⟩
  rw [unread_append later]
  exact List.mem_append_right _ (List.mem_singleton_self _)

/-- Another event leaves something to send. -/
theorem sends_append (sent : rows.sends .minimal state = true) :
    (rows.append event).sends .minimal state = true := by
  obtain ⟨asked, reports⟩ := sends_minimal.mp sent
  exact sends_minimal.mpr ⟨asked, reports.append⟩

/-- Rows with a changed effort and one more event. -/
theorem Sound.operate {old next : IntegrationEffort} (sound : rows.Sound)
    (found : rows.effort = some old) (same : next.stateRepository = old.stateRepository)
    (announced : next.stateRepository.IsMinimal →
      rows.Announces next.state (isRelevant .minimal event))
    (later : cursorOf rows.artifact < event.sequence) :
    ({ rows with effort := some next }.append event).Sound where
  owned := by rintro ⟨⟩
  bound := by
    rintro _ provider issue artifact ⟨⟩ bound stored
    rw [same] at bound
    exact sound.bound old provider issue artifact found bound stored
  awake := by
    rintro _ ⟨⟩ minimal
    have announces := announced minimal
    have awake := sound.awake old found (same ▸ minimal)
    have reports : rows.Reports → ({ rows with effort := some next }.append event).Reports :=
      fun reports => @Reports.append { rows with effort := some next } event reports
    have reported : isRelevant .minimal event = true →
        ({ rows with effort := some next }.append event).Reports :=
      fun relevant => @reports_of_event { rows with effort := some next } event later relevant
    constructor
    · intro owed
      refine sends_minimal.mpr ⟨?_, reports (sends_minimal.mp (awake.debt owed)).2⟩
      by_cases unopened : rows.artifact = none
      · rcases announces.owed owed unopened with blocked | input
        · exact .inl blocked
        · exact .inr (.inl input)
      · exact .inr (.inr unopened)
    · intro unopened asks
      rcases announces.opened unopened asks with relevant | already
      · exact reported relevant
      · exact reports already
    · intro ended artifact stored _
      exact reported (announces.ended ended)

/-- Rows of a new effort. -/
theorem Sound.create {effort : IntegrationEffort} {artifact : Option StoredRepositoryArtifact}
    (bound : ∀ provider issue row, effort.stateRepository.issue? = some (provider, issue) →
      artifact = some row → row.provider = provider ∧ row.repository = issue.repository)
    (announced : effort.stateRepository.IsMinimal →
      EffortRows.Announces ⟨none, [], artifact, none⟩ effort.state (isRelevant .minimal event))
    (later : cursorOf artifact < event.sequence) (events : List OutboxEvent) :
    (append ⟨some effort, events, artifact, none⟩ event).Sound where
  owned := by rintro ⟨⟩
  bound := by
    rintro _ provider issue row ⟨⟩ issued stored
    exact bound provider issue row issued stored
  awake := by
    rintro _ ⟨⟩ minimal
    have announces := announced minimal
    have reported : isRelevant .minimal event = true →
        (append ⟨some effort, events, artifact, none⟩ event).Reports :=
      fun relevant => @reports_of_event ⟨some effort, events, artifact, none⟩ event later relevant
    refine ⟨fun owed => absurd rfl owed, fun unopened asks => ?_, fun ended row stored _ =>
      reported (announces.ended ended)⟩
    rcases announces.opened unopened asks with relevant | ⟨event, unread, -⟩
    · exact reported relevant
    · cases (Log.mem_after.mp unread).1

/-- Rows with a failure while there is something to send. -/
theorem Sound.fail {debt : ProjectionDebt} (sound : rows.Sound) (stored : rows.effort ≠ none)
    (sent : ∀ effort, rows.effort = some effort → effort.stateRepository.IsMinimal →
      rows.sends .minimal effort.state = true) :
    ({ rows with debt := some debt }.append event).Sound where
  owned none := absurd none stored
  bound := sound.bound
  awake effort found minimal := by
    have awake := sound.awake effort found minimal
    have sends := sent effort found minimal
    have reports := (sends_minimal.mp sends).2
    refine ⟨fun _ => ?_, fun unopened asks => ?_, fun _ _ _ _ => ?_⟩
    · exact @sends_append { rows with debt := some debt } _ event sends
    · exact @Reports.append { rows with debt := some debt } event reports
    · exact @Reports.append { rows with debt := some debt } event reports

end EffortRows

namespace ProjectionCall

variable {call : ProjectionCall} {event : OutboxEvent}

/-- A call follows an operation that does not end the effort before the call reads its events. -/
theorem Follows.operate {old next : IntegrationEffort} (follows : call.Follows rows)
    (found : rows.effort = some old) (same : next.stateRepository = old.stateRepository)
    (announced : next.stateRepository.IsMinimal → next.state.isTerminal = true →
      isRelevant .minimal event = true ∧ call.phase.batch? ≠ none)
    (later : cursorOf rows.artifact < event.sequence) :
    call.Follows ({ rows with effort := some next }.append event) where
  bound := by
    rintro _ ⟨⟩
    exact same.trans (follows.bound old found)
  stored := follows.stored
  ended minimal unread := by
    rintro ⟨_, ⟨⟩, ended⟩
    rw [← same.trans (follows.bound old found)] at minimal
    exact absurd unread (announced minimal ended).2
  gathered stored events read := by
    obtain ⟨seen, more, known, log, batch, -⟩ := follows.gathered stored events read
    refine ⟨seen, more ++ [event], known, ?_, batch, fun minimal => ?_⟩
    · show rows.events ++ [event] = _
      rw [log, List.append_assoc]
    · rintro ⟨_, ⟨⟩, ended⟩
      have current : rows.artifact = stored :=
        follows.stored minimal stored (ProjectionPhase.stored?_of_batch? read)
      rw [current] at later
      rw [← same.trans (follows.bound old found)] at minimal
      exact .inr ⟨event, by simp, (announced minimal ended).1, later⟩

/-- With full visibility a call follows any change that leaves the effort and keeps the events. -/
theorem Follows.full {others : EffortRows} (follows : call.Follows rows)
    (full : ¬call.effort.stateRepository.IsMinimal) (same : others.effort = rows.effort)
    (grown : rows.events <+: others.events) : call.Follows others where
  bound effort found := follows.bound effort (same ▸ found)
  stored minimal := absurd minimal full
  ended minimal := absurd minimal full
  gathered stored events read := by
    obtain ⟨seen, more, known, log, batch, -⟩ := follows.gathered stored events read
    obtain ⟨last, whole⟩ := grown
    refine ⟨seen, more ++ last, known, ?_, batch, fun minimal => absurd minimal full⟩
    rw [← whole, log, List.append_assoc]

/-- A call that has only read its effort follows any change that leaves the effort. -/
theorem Follows.fetched {others : EffortRows} (follows : call.Follows rows)
    (fetched : call.phase = .fetched) (same : others.effort = rows.effort) :
    call.Follows others where
  bound effort found := follows.bound effort (same ▸ found)
  stored _ := by
    rw [fetched]
    rintro _ ⟨⟩
  ended minimal unread ended := by
    obtain ⟨effort, found, terminal⟩ := ended
    exact follows.ended minimal unread ⟨effort, same ▸ found, terminal⟩
  gathered := by
    rw [fetched]
    rintro _ _ ⟨⟩

end ProjectionCall

namespace EffortRows

variable {call : ProjectionCall} {provider : IssueProvider} {issue : IssueRepositorySnapshot}

/-- The rows after a recorded projection. -/
def recorded (rows : EffortRows) (receipt : StoredRepositoryArtifact) : EffortRows :=
  { rows with artifact := some receipt, debt := none }

/-- Rows in which a call has recorded what it read. -/
theorem sound_recorded {stored : Option StoredRepositoryArtifact} {events : List OutboxEvent}
    {projected : RepositoryArtifact} {revision : Nat}
    (ordered : Log.Ordered OutboxEvent.sequence rows.events) (found : rows.effort ≠ none)
    (follows : call.Follows rows) (read : call.phase.batch? = some (stored, events))
    (issued : call.effort.stateRepository.issue? = some (provider, issue)) :
    (rows.recorded { receiptOf call.effort provider issue.repository stored events projected with
      projectionRevision := revision }).Sound where
  owned none := absurd none found
  bound := by
    rintro effort other snapshot _ current bound ⟨⟩
    rw [follows.bound effort current, issued] at bound
    obtain ⟨rfl, rfl⟩ := Prod.mk.inj (Option.some_inj.mp bound)
    exact ⟨rfl, rfl⟩
  awake effort current minimal := by
    refine ⟨fun owed => absurd rfl owed, fun unopened => ?_, ?_⟩
    · cases unopened
    rintro ended _ ⟨⟩ owed
    obtain ⟨seen, more, -, log, batch, ends⟩ := follows.gathered stored events read
    rw [log] at ordered
    rw [follows.bound effort current] at minimal
    rcases ends minimal ⟨effort, current, ended⟩ with
      ⟨terminal, rfl⟩ | ⟨event, mem, relevant, later⟩
    · -- The call closed the issue and read every event.
      rw [List.append_nil] at log ordered
      have closed : (receiptOf call.effort provider issue.repository stored events
          projected).state = .closed := if_pos terminal
      have nothing : (rows.recorded { receiptOf call.effort provider issue.repository stored events
          projected with projectionRevision := revision }).unread = [] := by
        show Log.after _ rows.events (Log.advance _ (cursorOf stored) events) = []
        rw [log, batch]
        exact Log.after_advance_all ordered
      rcases owed with opened | unread
      · exact absurd closed opened
      · exact absurd nothing unread
    · -- The end is announced behind what the call read.
      refine ⟨event, Log.mem_after.mpr ⟨?_, ?_⟩, relevant⟩
      · show event ∈ rows.events
        rw [log]
        exact List.mem_append_right _ mem
      · show Log.advance _ (cursorOf stored) events < event.sequence
        rw [batch]
        exact Log.advance_lt ordered mem later

end EffortRows

end Iq
