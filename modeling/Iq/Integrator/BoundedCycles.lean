import Iq.Integrator.AgentCycles

/-!
# Bounded agent work

Why the loop of agent cycles ends. A cycle ends without a failure, or it consumes its failure once;
the next cycle runs only after a committed consumption, which raises the count of the effort. So a
loop of as many turns as the count leaves is never cut off, and launches no more cycles than that.
When every cycle fails and every failure is accepted, the loop ends at the cycle limit.
-/

namespace Iq

open Library Library.Transaction

variable {db later : Database} {effort row : IntegrationEffort} {count : Nat} {turn : CycleTurn}
  {operation : Operation}

/-! ## One cycle of the loop -/

/-- Whether an operation neither launches a cycle nor consumes one as failed. -/
def Operation.isQuiet : Operation → Bool
  | .prepareCycleLaunch .. | .consumeCycleFailure .. => false
  | _ => true

/-- A session that is never cut off. -/
def Uncut {α : Type} (session : CycleSession α) : Prop :=
  ∀ db, (session db).1 ≠ .error .exhausted

/-- A session that performs steps of a launch, no launch among them, and is never cut off. -/
structure MidLaunch {α : Type} (session : CycleSession α) : Prop where
  steps : session.Performs fun label => label.isLaunchStep = true ∧ label.launches = false
  uncut : Uncut session

section Rules

variable {α β : Type} {first : CycleSession α} {next : α → CycleSession β}

/-- A sequence of parts that are never cut off is not cut off. -/
theorem uncut_bind (before : Uncut first) (rest : ∀ value, Uncut (next value)) :
    Uncut (first >>= next) := by
  intro db
  rcases first.yields_or_stops db with ⟨value, labels, yields⟩ | ⟨reason, labels, stops⟩
  · rw [Session.bind_of_yields yields]
    exact rest value _
  · rw [Session.bind_of_stops stops]
    have cut := before db
    rw [stops] at cut
    intro same
    cases same
    exact cut rfl

/-- A sequence of parts within a launch stays within it. -/
theorem midLaunch_bind (before : MidLaunch first) (rest : ∀ value, MidLaunch (next value)) :
    MidLaunch (first >>= next) :=
  ⟨Session.performs_bind before.steps fun value => (rest value).steps,
    uncut_bind before.uncut fun value => (rest value).uncut⟩

/-- A transaction is never cut off. -/
theorem uncut_transact : Uncut (transact operation) := by
  intro db
  show operation.reply db ≠ _
  unfold Operation.reply
  split <;> exact nofun

/-- A step of a launch that launches nothing is within it. -/
theorem midLaunch_transact (step : operation.isLaunchStep = true) (quiet : operation.launches = false) :
    MidLaunch (transact operation) :=
  ⟨Session.performs_perform ⟨step, quiet⟩, uncut_transact⟩

/-- Going on after an error that is never the cut. -/
theorem uncut_attempt_bind {follow : Except CycleStop α → CycleSession β} (before : Uncut first)
    (failed : ∀ reason, reason ≠ .exhausted → Uncut (follow (.error reason)))
    (went : ∀ value, Uncut (follow (.ok value))) : Uncut (first.attempt >>= follow) := by
  intro db
  have yields : first.attempt.Yields db (first db).1 (first db).2 := rfl
  rw [Session.bind_of_yields yields]
  cases result : (first db).1 with
  | ok value => exact went value _
  | error reason =>
    apply failed
    rintro rfl
    exact before db result

/-- An attempt of a part within a launch stays within it. -/
theorem midLaunch_attempt (middle : MidLaunch first) : MidLaunch first.attempt :=
  ⟨Session.performs_attempt middle.steps, fun _ => nofun⟩

/-- A value is within a launch. -/
theorem midLaunch_pure {value : α} : MidLaunch (pure value : CycleSession α) :=
  ⟨Session.performs_pure, fun _ => nofun⟩

/-- An error is within a launch. -/
theorem midLaunch_raise {reason : CycleStop} (uncut : reason ≠ .exhausted) :
    MidLaunch (Session.raise reason : CycleSession α) :=
  ⟨Session.performs_raise, fun _ same => uncut (by cases same; rfl)⟩

/-- A read is within a launch. -/
theorem midLaunch_read {look : Database → Except CycleStop α}
    (uncut : ∀ db, look db ≠ .error .exhausted) : MidLaunch (Session.read look : CycleSession α) :=
  ⟨Session.performs_read, uncut⟩

end Rules

/-- A failed spawn is acknowledged within the launch. -/
theorem midLaunch_acknowledge : MidLaunch (acknowledgeCycleSpawnFailed effort turn) := by
  refine midLaunch_bind (midLaunch_read fun db => ?_) fun unit => ?_
  · split <;> exact nofun
  · split
    · exact midLaunch_bind (midLaunch_transact rfl rfl) fun _ => midLaunch_pure
    · exact midLaunch_raise nofun

/-- What the runner answers is handled within the launch. -/
theorem midLaunch_runnerOutcome : MidLaunch (runnerOutcome effort turn) := by
  unfold runnerOutcome
  split
  · exact midLaunch_bind (midLaunch_attempt midLaunch_acknowledge) fun _ => midLaunch_raise nofun
  · exact midLaunch_raise nofun
  · exact midLaunch_pure
  · exact midLaunch_pure
  · exact midLaunch_pure
  · exact midLaunch_pure
  · exact midLaunch_pure
  · refine midLaunch_bind (midLaunch_attempt (midLaunch_transact rfl rfl)) fun recorded => ?_
    split <;> exact midLaunch_pure

/-- What the launcher answers is recorded within the launch. -/
theorem midLaunch_runnerLaunched {number : Nat} : MidLaunch (runnerLaunched effort number turn) := by
  refine midLaunch_bind (midLaunch_transact rfl rfl) fun surrendered => ?_
  split
  · exact midLaunch_pure
  refine midLaunch_bind (midLaunch_transact rfl rfl) fun authorized => ?_
  split
  · exact midLaunch_bind midLaunch_acknowledge fun _ => midLaunch_pure
  split
  · exact midLaunch_bind midLaunch_acknowledge fun _ => midLaunch_raise nofun
  have gated : ∀ outcome : Outcome, MidLaunch (if outcome.isFlag = false then do
      acknowledgeCycleSpawnFailed effort turn
      pure .authorityLost
    else runnerOutcome effort turn) := by
    intro outcome
    split
    · exact midLaunch_bind midLaunch_acknowledge fun _ => midLaunch_pure
    · exact midLaunch_runnerOutcome
  constructor
  · refine Session.performs_bind (midLaunch_attempt (midLaunch_transact rfl rfl)).steps fun started => ?_
    split
    · exact Session.performs_bind (midLaunch_attempt midLaunch_acknowledge).steps fun _ =>
        Session.performs_raise
    · exact (gated _).steps
  · refine uncut_attempt_bind uncut_transact (fun reason uncut => ?_) fun outcome => (gated _).uncut
    exact uncut_bind (midLaunch_attempt midLaunch_acknowledge).uncut fun _ =>
      (midLaunch_raise uncut).uncut

/-- What the rest of a cycle comes to, from a state in which the effort has a count: it ends without
a failed cycle, ends after consuming one, or consumes one and runs the next cycle. -/
inductive Ending (again : CycleSession Unit) (effort : IntegrationEffort) (count : Nat)
    (db : Database) : Except CycleStop Unit → List Operation → Prop where
  | stays {result : Except CycleStop Unit} {labels : List Operation}
      (quiet : ∀ label ∈ labels, label.isQuiet = true) (uncut : result ≠ .error .exhausted) :
      Ending again effort count db result labels
  | consumes {result : Except CycleStop Unit} {labels : List Operation} {cycleId : String}
      {failure : CycleFailure} {stamp : Stamp}
      (quiet : ∀ label ∈ labels, label.isQuiet = true)
      (counted : (store.run db labels).Counted effort count)
      (uncut : result ≠ .error .exhausted) :
      Ending again effort count db result
        (labels ++ [.consumeCycleFailure effort.id cycleId failure stamp])
  | repeats {result ending : Except CycleStop Unit} {labels more : List Operation}
      {cycleId : String} {failure : CycleFailure} {stamp : Stamp} {row : IntegrationEffort}
      {ready : AgentReady} {later : Database}
      (quiet : ∀ label ∈ labels, label.isQuiet = true)
      (counted : (store.run db labels).Counted effort count)
      (commits : (Operation.consumeCycleFailure effort.id cycleId failure
        stamp).transaction.Commits (store.run db labels) .done later)
      (found : later.effortOfItem effort.itemId = some row) (sameId : row.id = effort.id)
      (sameItem : row.itemId = effort.itemId)
      (is_ready : row.state = .agentReady ready) (raised : row.failedCycles = count + 1)
      (next : again later = (ending, more))
      (same : result = ending ∨ result ≠ .error .exhausted) :
      Ending again effort count db result
        (labels ++ .consumeCycleFailure effort.id cycleId failure stamp :: more)

variable {again : CycleSession Unit} {result : Except CycleStop Unit} {labels : List Operation}

namespace Ending

/-- The same ending, after steps before it. -/
theorem prepend {before : List Operation} (quiet : ∀ label ∈ before, label.isQuiet = true)
    (ending : Ending again effort count (store.run db before) result labels) :
    Ending again effort count db result (before ++ labels) := by
  have joined : ∀ {more : List Operation}, (∀ label ∈ more, label.isQuiet = true) →
      ∀ label ∈ before ++ more, label.isQuiet = true := by
    intro more all label mem
    rcases List.mem_append.mp mem with mem | mem
    · exact quiet label mem
    · exact all label mem
  cases ending with
  | stays all uncut => exact .stays (joined all) uncut
  | consumes all counted uncut =>
    rw [← List.append_assoc]
    rw [← Machine.run_append] at counted
    exact .consumes (joined all) counted uncut
  | repeats all counted commits found sameId sameItem ready raised next same =>
    rw [← List.append_assoc]
    rw [← Machine.run_append] at counted commits
    exact .repeats (joined all) counted commits found sameId sameItem ready raised next same

/-- The same ending, with an error that replaces its result. -/
theorem replace (ending : Ending again effort count db result labels)
    {other : Except CycleStop Unit} (same : other = result ∨ other ≠ .error .exhausted) :
    Ending again effort count db other labels := by
  rcases same with rfl | uncut
  · exact ending
  cases ending with
  | stays all _ => exact .stays all uncut
  | consumes all counted _ => exact .consumes all counted uncut
  | repeats all counted commits found sameId sameItem ready raised next _ =>
    exact .repeats all counted commits found sameId sameItem ready raised next (.inr uncut)

/-- The ending of a cycle whose failure is the only step left. -/
theorem consumed (counted : db.Counted effort count) {cycleId : String} {failure : CycleFailure}
    {stamp : Stamp} (uncut : result ≠ .error .exhausted) :
    Ending again effort count db result [.consumeCycleFailure effort.id cycleId failure stamp] :=
  have nothing : ∀ label ∈ ([] : List Operation), label.isQuiet = true :=
    List.forall_mem_nil _
  .consumes nothing counted uncut

end Ending

/-- A session that ends a cycle, from every state in which the effort has the count. -/
def Ends (again : CycleSession Unit) (effort : IntegrationEffort) (count : Nat)
    (session : CycleSession Unit) : Prop :=
  ∀ db : Database, db.Counted effort count →
    Ending again effort count db (session db).1 (session db).2

section EndRules

/-- What neither launches nor consumes ends within the bound. -/
theorem ends_quiet {session : CycleSession Unit}
    (performs : session.Performs fun label => label.isQuiet = true) (uncut : Uncut session) :
    Ends again effort count session :=
  fun db _ => .stays (performs db) (uncut db)

/-- A step of a launch that launches nothing is quiet. -/
theorem isQuiet_of_isLaunchStep (step : operation.isLaunchStep = true)
    (quiet : operation.launches = false) : operation.isQuiet = true := by
  cases operation with
  | prepareCycleLaunch => cases quiet
  | consumeCycleFailure => cases step
  | _ => rfl

/-- What is within a launch is quiet. -/
theorem MidLaunch.quiet {α : Type} {session : CycleSession α} (middle : MidLaunch session) :
    session.Performs fun label => label.isQuiet = true :=
  fun db label mem =>
    have step := middle.steps db label mem
    isQuiet_of_isLaunchStep step.1 step.2

/-- What is within a launch ends within the bound. -/
theorem ends_midLaunch {session : CycleSession Unit} (middle : MidLaunch session) :
    Ends again effort count session :=
  ends_quiet middle.quiet middle.uncut

/-- Steps of a launch before the end of a cycle. -/
theorem ends_bind {α : Type} {first : CycleSession α} {next : α → CycleSession Unit}
    (before : MidLaunch first) (rest : ∀ value, Ends again effort count (next value)) :
    Ends again effort count (first >>= next) := by
  intro db counted
  have quiet := before.quiet db
  rcases first.yields_or_stops db with ⟨value, labels, yields⟩ | ⟨reason, labels, stops⟩
  · rw [yields] at quiet
    rw [Session.bind_of_yields yields]
    have steps := before.steps db
    rw [yields] at steps
    have counted := counted.run fun label mem => (steps label mem).1
    exact Ending.prepend quiet (rest value _ counted)
  · rw [stops] at quiet
    rw [Session.bind_of_stops stops]
    refine .stays quiet fun same => ?_
    cases same
    exact before.uncut db (by rw [stops])

/-- The effort of the item, by the count of its stored row. -/
theorem Database.Counted.ofItem (counted : db.Counted effort count) :
    ∃ row, db.effortOfItem effort.itemId = some row ∧
      (row.id = effort.id ∧ row.itemId = effort.itemId ∧ row.failedCycles = count) ∧
        row.state.validateForCount row.failedCycles = .ok () := by
  obtain ⟨row, stored, sameItem, exact⟩ := counted.stored
  have linked := linked_of_reachable counted.reachable
  obtain ⟨mem, sameId⟩ := Table.find?_eq_some.mp stored
  refine ⟨row, ?_, ⟨sameId, sameItem, exact⟩, (linked.owned row mem).valid⟩
  rw [← sameItem]
  exact effortOfItem_eq_some linked.distinct mem

/-- A stored effort with a fitting count is read. -/
theorem effortForItem_yields {itemId missing : String} (found : db.effortOfItem itemId = some row)
    (valid : row.state.validateForCount row.failedCycles = .ok ()) :
    (effortForItem itemId missing).Yields db row [] :=
  Session.yields_read (by rw [found]; simp only [valid])

/-- A session follows a transaction that commits. -/
theorem transact_yields {outcome : Outcome}
    (commits : operation.transaction.Commits db outcome later) :
    (transact operation).Yields db outcome [operation] :=
  Session.yields_perform (by rw [Operation.reply, commits])

/-- A session stops with a transaction that aborts. -/
theorem transact_stops {refusal : Refusal} (aborts : operation.transaction.Aborts db refusal) :
    (transact operation).Stops db (.refused refusal) [operation] := by
  show (operation.reply db, [operation]) = _
  rw [Operation.reply, aborts]

/-- Below the limit, a consumed failure ends the cycle or runs the next one. -/
theorem ends_consume (below : count < automaticCycleLimit) {failure : CycleFailure} :
    Ends again effort count (consumeAgentFailure again effort turn failure) := by
  intro db counted
  have refused : ∀ {reason : String}, (Operation.consumeCycleFailure effort.id turn.cycleId failure
      turn.stamp).transaction.Aborts db (.refused reason) →
      Ending again effort count db (consumeAgentFailure again effort turn failure db).1
        (consumeAgentFailure again effort turn failure db).2 := by
    intro reason aborts
    have stops : (consumeAgentFailure again effort turn failure).Stops db (.refused (.refused reason))
        [.consumeCycleFailure effort.id turn.cycleId failure turn.stamp] :=
      Session.bind_of_stops (transact_stops aborts)
    rw [stops]
    exact Ending.consumed counted fun same => by cases same
  rcases counted.consume_cases below with ⟨later, commits⟩ | aborts | aborts
  · have stepped : store.run db [.consumeCycleFailure effort.id turn.cycleId failure turn.stamp] =
        later := by
      rw [Machine.run_cons, Machine.run_nil, store_step, settle_of_commits commits]
    obtain ⟨row, found, ⟨sameId, sameItem, raised⟩, valid⟩ := (counted.consume commits).ofItem
    have yields := transact_yields commits
    unfold consumeAgentFailure
    rw [Session.bind_of_yields yields, stepped, Session.bind_of_yields
      (effortForItem_yields found valid)]
    cases state : row.state with
    | agentReady value =>
      simp only [List.nil_append, List.singleton_append, Machine.run_nil]
      have nothing : ∀ label ∈ ([] : List Operation), label.isQuiet = true := List.forall_mem_nil _
      exact Ending.repeats nothing counted commits found sameId sameItem state raised rfl
        (.inl rfl)
    | _ => exact Ending.consumed counted fun same => by cases same
  · exact refused aborts
  · exact refused aborts

/-- The protocol files are removed within the launch. -/
theorem midLaunch_removeCycleProtocol : MidLaunch (removeCycleProtocol turn) := by
  unfold removeCycleProtocol
  split
  · exact midLaunch_pure
  · exact midLaunch_raise nofun

/-- The log is recorded within the launch. -/
theorem midLaunch_recordCycleLog : MidLaunch (recordCycleLog effort turn) := by
  refine midLaunch_read fun db => ?_
  split <;> exact nofun

/-- Removing the protocol after the failure leaves the ending of the failure. -/
theorem ends_consumeThenRemove (below : count < automaticCycleLimit) {failure : CycleFailure} :
    Ends again effort count (consumeThenRemove again effort turn failure) := by
  intro db counted
  let consume := consumeAgentFailure again effort turn failure
  have ending : Ending again effort count db (consume db).1 (consume db).2 :=
    ends_consume below db counted
  have yields : consume.attempt.Yields db (consume db).1 (consume db).2 := rfl
  unfold consumeThenRemove
  rw [Session.bind_of_yields yields]
  unfold removeCycleProtocol
  split
  · have removed : ((pure () : CycleSession Unit) >>= fun _ =>
        Session.read fun _ => (consume db).1) (store.run db (consume db).2) =
          ((consume db).1, []) := rfl
    rw [removed, List.append_nil]
    exact ending
  · have kept : ((Session.raise (.failed "remove cycle protocol") : CycleSession Unit) >>= fun _ =>
        Session.read fun _ => (consume db).1) (store.run db (consume db).2) =
          (.error (.failed "remove cycle protocol"), []) := rfl
    rw [kept, List.append_nil]
    exact ending.replace (.inr fun same => by cases same)

/-- A transaction whose result is dropped is not cut off. -/
theorem uncut_transact_unit : Uncut (do
    let _ ← transact operation
    pure ()) :=
  uncut_bind uncut_transact fun _ => midLaunch_pure.uncut

/-- A quiet operation whose result is dropped is quiet. -/
theorem performs_transact_unit (quiet : operation.isQuiet = true) : Session.Performs
    (fun label => label.isQuiet = true) (do
      let _ ← transact operation
      pure () : CycleSession Unit) :=
  Session.performs_bind (Session.performs_perform quiet) fun _ => Session.performs_pure

/-- The build of a candidate ends within the bound. -/
theorem ends_buildCandidate : Ends again effort count (buildCandidate effort turn) := by
  unfold buildCandidate
  split
  · exact ends_midLaunch (midLaunch_raise nofun)
  · have failed : ∀ {message : String},
        MidLaunch (Session.raise (.failed message) : CycleSession Unit) := midLaunch_raise nofun
    refine ends_quiet ?_ ?_
    · refine Session.performs_bind (Session.performs_perform rfl) fun _ => ?_
      split
      · exact Session.performs_raise
      · exact performs_transact_unit rfl
    · refine uncut_bind uncut_transact fun _ => ?_
      split
      · exact failed.uncut
      · exact uncut_transact_unit

/-- A classified result ends within the bound, with one consumption before another cycle. -/
theorem ends_classifyAgentResult (below : count < automaticCycleLimit)
    {identity : ExactEffortIdentity} {answer : AgentResult} :
    Ends again effort count (classifyAgentResult again effort identity turn answer) := by
  cases answer with
  | resolved =>
    unfold classifyAgentResult
    cases turn.imported with
    | error error => exact ends_bind midLaunch_removeCycleProtocol fun _ => ends_consume below
    | ok =>
      refine ends_bind midLaunch_removeCycleProtocol fun _ => ?_
      split
      · exact ends_consume below
      · exact ends_buildCandidate
  | guidanceRequired guidance =>
    refine ends_quiet ?_ ?_
    · exact Session.performs_bind (Session.performs_perform rfl) fun _ =>
        midLaunch_removeCycleProtocol.quiet
    · exact uncut_bind uncut_transact fun _ => midLaunch_removeCycleProtocol.uncut
  | mechanicalFailure failure => exact ends_consumeThenRemove below

/-- What is left of a cycle after its runner. -/
theorem ends_followOutcome (below : count < automaticCycleLimit) {outcome : RunnerOutcome} :
    Ends again effort count (followOutcome again effort turn outcome) := by
  cases outcome with
  | complete answer resultState =>
    refine ends_bind midLaunch_recordCycleLog fun _ => ?_
    exact ends_bind (midLaunch_transact rfl rfl) fun _ => ends_classifyAgentResult below
  | missingResult exitCode =>
    exact ends_bind midLaunch_recordCycleLog fun _ => ends_consumeThenRemove below
  | timedOut => exact ends_bind midLaunch_recordCycleLog fun _ => ends_consumeThenRemove below
  | authorityLost =>
    refine ends_bind (midLaunch_read fun _ => nofun) fun cancelled => ?_
    split
    · exact ends_midLaunch midLaunch_removeCycleProtocol
    · exact ends_bind midLaunch_recordCycleLog fun _ => ends_midLaunch (midLaunch_raise nofun)
  | invalidResult reason =>
    refine ends_bind midLaunch_recordCycleLog fun _ => ?_
    exact ends_bind midLaunch_removeCycleProtocol fun _ => ends_consume below

end EndRules

/-! ## The bound of the loop -/

/-- Where an operation stands that is not among the steps before another one. -/
theorem split_after {allowed : Operation → Prop} {quiet before more rest : List Operation}
    {mark chosen : Operation} (all : ∀ label ∈ quiet, allowed label) (other : ¬allowed chosen)
    (same : quiet ++ mark :: more = before ++ chosen :: rest) :
    (before = quiet ∧ mark = chosen) ∨
      ∃ between, before = quiet ++ mark :: between ∧ more = between ++ chosen :: rest := by
  induction quiet generalizing before with
  | nil =>
    cases before with
    | nil =>
      obtain ⟨rfl, -⟩ := List.cons.inj same
      exact .inl ⟨rfl, rfl⟩
    | cons first between =>
      obtain ⟨rfl, rest⟩ := List.cons.inj same
      exact .inr ⟨between, rfl, rest⟩
  | cons step quiet split_quiet =>
    cases before with
    | nil =>
      obtain ⟨rfl, -⟩ := List.cons.inj same
      exact absurd (all _ List.mem_cons_self) other
    | cons first before =>
      obtain ⟨rfl, rest⟩ := List.cons.inj same
      rcases split_quiet (fun label mem => all label (List.mem_cons_of_mem _ mem)) rest with
        ⟨rfl, marked⟩ | ⟨between, rfl, follows⟩
      · exact .inl ⟨rfl, marked⟩
      · exact .inr ⟨between, rfl, follows⟩

/-- A step that is not quiet is no part of quiet ones. -/
theorem not_mem_of_quiet {quiet : List Operation} (all : ∀ label ∈ quiet, label.isQuiet = true)
    {chosen : Operation} (other : ¬chosen.isQuiet = true) {before rest : List Operation} :
    quiet ≠ before ++ chosen :: rest := by
  rintro rfl
  exact other (all chosen (List.mem_append_right _ List.mem_cons_self))

/-- A launch is not quiet. -/
theorem not_isQuiet_of_launches (launches : operation.launches = true) :
    ¬operation.isQuiet = true := by
  cases operation with
  | prepareCycleLaunch => exact nofun
  | _ => cases launches

/-- A consumption is not quiet. -/
theorem not_isQuiet_consume {effortId cycleId : String} {failure : CycleFailure} {stamp : Stamp} :
    ¬(Operation.consumeCycleFailure effortId cycleId failure stamp).isQuiet = true :=
  Bool.false_ne_true

/-- A committed failure of a cycle that raises the stored count of the effort by one. -/
def RaisesCount (effortId : String) (failure : Operation) (db : Database) : Prop :=
  (∃ cycleId cause stamp, failure = .consumeCycleFailure effortId cycleId cause stamp) ∧
    (failure.transaction.Commits db .done (store.step db failure)) ∧
      ∃ row next, db.efforts.find? effortId = some row ∧
        (store.step db failure).efforts.find? effortId = some next ∧
          next.failedCycles = row.failedCycles + 1

/-- What the loop does from a database in which its effort has a count: it is not cut off, it
launches no more cycles than the count leaves, every launch after the first follows directly on a
committed failure that raises the count, and no failure meets the limit. -/
structure BoundedWork (effortId : String) (count : Nat) (db : Database)
    (result : Except CycleStop Unit) (labels : List Operation) : Prop where
  ends : result ≠ .error .exhausted
  launches : labels.countP Operation.launches ≤ automaticCycleLimit - count
  preceded : ∀ before launch rest, labels = before ++ launch :: rest → launch.launches = true →
    before = [] ∨ ∃ earlier failure, before = earlier ++ [failure] ∧
      RaisesCount effortId failure (store.run db earlier)
  unlimited : ∀ before cycleId failure stamp rest,
    labels = before ++ .consumeCycleFailure effortId cycleId failure stamp :: rest →
      ¬(Operation.consumeCycleFailure effortId cycleId failure stamp).transaction.Aborts
        (store.run db before) (.refused "automatic cycle limit is already reached")

namespace BoundedWork

variable {effortId : String}

/-- Work without a launch and without a failure. -/
theorem idle (quiet : ∀ label ∈ labels, label.isQuiet = true) (uncut : result ≠ .error .exhausted) :
    BoundedWork effortId count db result labels where
  ends := uncut
  launches := by
    have none : labels.countP Operation.launches = 0 := by
      refine List.countP_eq_zero.mpr fun label mem launches => ?_
      exact not_isQuiet_of_launches launches (quiet label mem)
    omega
  preceded before launch rest same launches :=
    absurd same (not_mem_of_quiet quiet (not_isQuiet_of_launches launches))
  unlimited before cycleId failure stamp rest same :=
    absurd same (not_mem_of_quiet quiet not_isQuiet_consume)

/-- What is quiet launches nothing. -/
theorem not_launches_of_quiet {label : Operation} (quiet : label.isQuiet = true) :
    ¬label.launches = true :=
  fun launches => not_isQuiet_of_launches launches quiet

/-- A launch that is followed by neither a failure nor a launch. -/
theorem alone {prepare : Operation} (launch : prepare.launches = true)
    (below : count < automaticCycleLimit) (quiet : ∀ label ∈ labels, label.isQuiet = true)
    (uncut : result ≠ .error .exhausted) :
    BoundedWork effortId count db result (prepare :: labels) where
  ends := uncut
  launches := by
    have none : labels.countP Operation.launches = 0 :=
      List.countP_eq_zero.mpr fun label mem => not_launches_of_quiet (quiet label mem)
    rw [List.countP_cons_of_pos launch, none]
    omega
  preceded before other rest same launches := by
    cases before with
    | nil => exact .inl rfl
    | cons first before =>
      obtain ⟨-, same⟩ := List.cons.inj same
      exact absurd same (not_mem_of_quiet quiet (not_isQuiet_of_launches launches))
  unlimited before cycleId failure stamp rest same := by
    cases before with
    | nil =>
      obtain ⟨rfl, -⟩ := List.cons.inj same
      cases launch
    | cons first before =>
      obtain ⟨-, same⟩ := List.cons.inj same
      exact absurd same (not_mem_of_quiet quiet not_isQuiet_consume)

/-- A launch whose cycle is consumed as failed, before the work that is left then. -/
theorem next {prepare consume : Operation} {quiet more : List Operation}
    {ending : Except CycleStop Unit} (launch : prepare.launches = true)
    (below : count < automaticCycleLimit)
    (fails : ∃ cycleId failure stamp, consume = .consumeCycleFailure effort.id cycleId failure stamp)
    (all : ∀ label ∈ quiet, label.isQuiet = true)
    (counted : (store.run db (prepare :: quiet)).Counted effort count)
    (raises : more ≠ [] → RaisesCount effort.id consume (store.run db (prepare :: quiet)))
    (rest : BoundedWork effort.id (count + 1)
      (store.step (store.run db (prepare :: quiet)) consume) ending more)
    (uncut : result ≠ .error .exhausted) :
    BoundedWork effort.id count db result (prepare :: (quiet ++ consume :: more)) where
  ends := uncut
  launches := by
    obtain ⟨cycleId, failure, stamp, rfl⟩ := fails
    have none : quiet.countP Operation.launches = 0 :=
      List.countP_eq_zero.mpr fun label mem => not_launches_of_quiet (all label mem)
    have left := rest.launches
    rw [List.countP_cons_of_pos launch, List.countP_append, none,
      List.countP_cons_of_neg Bool.false_ne_true]
    omega
  preceded before chosen after same launches := by
    cases before with
    | nil => exact .inl rfl
    | cons first before =>
      right
      obtain ⟨rfl, -⟩ := List.cons.inj same
      have tail : quiet ++ consume :: more = before ++ chosen :: after := (List.cons.inj same).2
      rcases split_after all (not_isQuiet_of_launches launches) tail with
        ⟨-, rfl⟩ | ⟨between, rfl, follows⟩
      · obtain ⟨cycleId, failure, stamp, rfl⟩ := fails
        cases launches
      · rcases rest.preceded between chosen after follows launches with
          rfl | ⟨earlier, failure, rfl, raising⟩
        · refine ⟨prepare :: quiet, consume, rfl, raises ?_⟩
          rw [follows]
          exact List.cons_ne_nil _ _
        · refine ⟨prepare :: (quiet ++ consume :: earlier), failure, by simp, ?_⟩
          rw [← List.cons_append, Machine.run_append, Machine.run_cons]
          exact raising
  unlimited before cycleId failure stamp after same := by
    cases before with
    | nil =>
      obtain ⟨rfl, -⟩ := List.cons.inj same
      cases launch
    | cons first before =>
      obtain ⟨rfl, -⟩ := List.cons.inj same
      have tail : quiet ++ consume :: more = before ++
          .consumeCycleFailure effort.id cycleId failure stamp :: after := (List.cons.inj same).2
      rcases split_after all not_isQuiet_consume tail with ⟨rfl, rfl⟩ | ⟨between, rfl, follows⟩
      · exact counted.consume_unlimited below
      · rw [← List.cons_append, Machine.run_append, Machine.run_cons]
        exact rest.unlimited between cycleId failure stamp after follows

end BoundedWork

/-- What a recursive call has to keep to: it is bounded when the count was raised by one. -/
def GoesOn (again : CycleSession Unit) (effort : IntegrationEffort) (count : Nat) : Prop :=
  ∀ later row ready, store.Reachable later → later.effortOfItem effort.itemId = some row →
    row.id = effort.id → row.itemId = effort.itemId → row.state = .agentReady ready →
      row.failedCycles = count + 1 →
        BoundedWork effort.id (count + 1) later (again later).1 (again later).2

/-- A launched cycle ends, and the loop goes on below the bound when its next call does. -/
theorem BoundedWork.of_ending {prepare : Operation} (launch : prepare.launches = true)
    (below : count < automaticCycleLimit)
    (ending : Ending again effort count (store.step db prepare) result labels)
    (goes : GoesOn again effort count) : BoundedWork effort.id count db result (prepare :: labels) := by
  cases ending with
  | stays quiet uncut => exact .alone launch below quiet uncut
  | consumes quiet consumed uncut =>
    have rest : ∀ later, BoundedWork effort.id (count + 1) later result [] :=
      fun later => .idle (List.forall_mem_nil _) uncut
    exact .next launch below ⟨_, _, _, rfl⟩ quiet consumed (absurd rfl) (rest _) uncut
  | @repeats ending quiet more cycleId failure stamp row ready later all consumed commits found
      sameId sameItem is_ready raised next_call same =>
    have stepped : store.step (store.run db (prepare :: quiet))
        (.consumeCycleFailure effort.id cycleId failure stamp) = later := by
      rw [Machine.run_cons, store_step, settle_of_commits commits]
    have reachable : store.Reachable later := by
      have stays := consumed.reachable.step (.consumeCycleFailure effort.id cycleId failure stamp)
      rw [store_step, settle_of_commits commits] at stays
      exact stays
    have rest := goes later row ready reachable found sameId sameItem is_ready raised
    rw [next_call] at rest
    have uncut : result ≠ .error .exhausted := by
      rcases same with rfl | uncut
      · exact rest.ends
      · exact uncut
    have raises : RaisesCount effort.id (.consumeCycleFailure effort.id cycleId failure stamp)
        (store.run db (prepare :: quiet)) := by
      obtain ⟨before, stored, -, exact_before⟩ := consumed.stored
      obtain ⟨written, holds, -, exact_after⟩ := (consumed.consume commits).stored
      refine ⟨⟨_, _, _, rfl⟩, ?_, before, written, stored, ?_, ?_⟩
      · rw [stepped]
        exact commits
      · rw [stepped]
        exact holds
      · rw [exact_after, exact_before]
    rw [← stepped] at rest
    exact .next launch below ⟨_, _, _, rfl⟩ all consumed (fun _ => raises) rest uncut

/-- The work of a cycle from the launch that its runner prepares. -/
theorem bounded_runnerRun (counted : db.Counted effort count) (below : count < automaticCycleLimit)
    (goes : GoesOn again effort count) {number : Nat} :
    let cycle := runnerRun effort number turn >>= followOutcome again effort turn
    BoundedWork effort.id count db (cycle db).1 (cycle db).2 := by
  intro cycle
  let prepare : Operation := .prepareCycleLaunch effort.id (turn.launch number) turn.stamp
  have apart : cycle = transact prepare >>= fun _ =>
      runnerLaunched effort number turn >>= followOutcome again effort turn := Session.bind_assoc
  rw [apart]
  rcases (transact prepare).yields_or_stops db with
    ⟨outcome, labels, yields⟩ | ⟨reason, labels, stops⟩
  · obtain rfl : [prepare] = labels := congrArg Prod.snd yields
    rw [Session.bind_of_yields yields]
    have follows : Ends again effort count
        (runnerLaunched effort number turn >>= followOutcome again effort turn) :=
      ends_bind midLaunch_runnerLaunched fun outcome => ends_followOutcome below
    exact .of_ending rfl below (follows _ (counted.step rfl)) goes
  · obtain rfl : [prepare] = labels := congrArg Prod.snd stops
    rw [Session.bind_of_stops stops]
    refine .alone rfl below (List.forall_mem_nil _) fun same => ?_
    have cut : (transact prepare db).1 ≠ .error .exhausted := uncut_transact db
    rw [stops] at cut
    cases same
    exact cut rfl

/-- A loop with a turn for every cycle that the count leaves, and one more, is bounded. -/
theorem runAgentCycle_bounded {itemId : String} {depth : Nat} {turns : Nat → CycleTurn}
    (reachable : store.Reachable db) (owned : db.effortOfItem itemId = some effort)
    (enough : automaticCycleLimit - effort.failedCycles < depth) :
    BoundedWork effort.id effort.failedCycles db (runAgentCycle itemId depth turns db).1
      (runAgentCycle itemId depth turns db).2 := by
  induction depth generalizing turns db effort with
  | zero => omega
  | succ depth bounded =>
    have linked := linked_of_reachable reachable
    have mem : effort ∈ db.efforts := List.mem_of_find?_eq_some owned
    have sameItem : effort.itemId = itemId := by simpa using List.find?_some owned
    have stored := Table.find?_eq_some.mpr ⟨mem, rfl⟩
    have valid := (linked.owned effort mem).valid
    unfold runAgentCycle
    rw [Session.bind_of_yields (effortForItem_yields owned valid)]
    rw [Machine.run_nil, List.nil_append]
    cases state : effort.state with
    | agentReady ready =>
      have stage := CycleStage.of_stored reachable stored
      have below := stage.below (by rw [state]; exact nofun)
      have waits : (candidatePublicationWaitsForCleanup effort).Yields db
          (db.landingCleanupPending effort.attemptId) [] := Session.yields_read rfl
      simp only
      rw [Session.bind_of_yields waits, Machine.run_nil, List.nil_append]
      split
      · exact .idle (List.forall_mem_nil _) nofun
      rcases (turns 0).admission with message | _ | blocker
      · exact .idle (List.forall_mem_nil _) fun same => by cases same
      · have counted : db.Counted effort effort.failedCycles := ⟨reachable, effort, stored, rfl, rfl⟩
        refine bounded_runnerRun counted below fun later row next reached found sameId _ _ raised => ?_
        rw [sameItem] at found
        have rest := @bounded later row (fun index => turns (index + 1)) reached found (by omega)
        rw [sameId, raised] at rest
        exact rest
      · exact .idle (performs_transact_unit rfl db) (uncut_transact_unit db)
    | _ => exact .idle (List.forall_mem_nil _) fun same => by cases same

end Iq
