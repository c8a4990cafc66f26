import Iq.Projection.Reservation

/-!
# The daemon's cycles

`run_daemon_config` as a pass over its cycles, in which the answers of the issue provider, what
others do to the outbox and the success of every other step are arbitrary. What is recorded are the
reservation passes, with the outbox that each one meets, and the calls of `run_once`.
-/

namespace Iq.Daemon

open Library

/-- One cycle of one repository: the round of the loop and the repository's key. -/
structure Cycle where
  round : Nat
  repoKey : String
  deriving DecidableEq, Repr

/-- The places where the daemon passes over the reservation outbox: at startup, and in a cycle. -/
inductive Pass where
  | startup
  | cycle (cycle : Cycle)
  deriving DecidableEq, Repr

/-- How the steps of a cycle other than its reservation pass end: the checks of the API task before
and after it, the steps between the pass and `run_once`, `run_once`, and what follows it. -/
structure Outcome where
  apiBefore : Bool
  prepared : Bool
  integrated : Bool
  dispatched : Bool
  apiAfter : Bool
  deriving DecidableEq, Repr

/-- `run_once` is called when the pass and the steps after it succeed. -/
def Outcome.calls (outcome : Outcome) (passed : Bool) : Bool := passed && outcome.prepared

/-- The loop goes on to the next cycle: a daemon that runs once ends with the first failed cycle. -/
def Outcome.goesOn (outcome : Outcome) (passed once : Bool) : Bool :=
  (outcome.calls passed && outcome.integrated && outcome.dispatched || !once) && outcome.apiAfter

/-- The surroundings of the daemon. -/
structure World where
  /-- What the provider answers in a pass. -/
  provider : Pass → String → IssueAnswers
  /-- The outbox that a pass meets, from the one that the pass before it left. -/
  changed : Pass → ReservationOutbox → ReservationOutbox
  /-- The local steps before the first pass succeed. -/
  started : Bool
  /-- The local steps between the first pass and the loop succeed. -/
  configured : Bool
  outcome : Cycle → Outcome

/-- The provider reserves an issue for every item it is asked for. -/
def World.working (world : World) : World :=
  { world with provider := fun _ itemId => ⟨true, some (itemId, itemId)⟩ }

/-- The passes of a run, with the outbox that each one met, and its calls of `run_once`. -/
structure Report where
  passes : List (Pass × ReservationOutbox)
  calls : List Cycle

/-- A report of what came first, before a report of the rest. -/
def Report.append (first rest : Report) : Report :=
  ⟨first.passes ++ rest.passes, first.calls ++ rest.calls⟩

/-- The outbox that the pass of a cycle meets. -/
def World.meets (world : World) (cycle : Cycle) (outbox : ReservationOutbox) : ReservationOutbox :=
  world.changed (.cycle cycle) outbox

/-- The pass of a cycle: the outbox that it leaves, and whether it is `Ok`. -/
def World.pass (world : World) (cycle : Cycle) (outbox : ReservationOutbox) :
    ReservationOutbox × Bool :=
  (world.meets cycle outbox).processIssueReservationOutbox (world.provider (.cycle cycle))
    ReservationOutbox.passLimit

/-- What is recorded of a cycle. -/
def World.report (world : World) (cycle : Cycle) (outbox : ReservationOutbox) : Report where
  passes := [(.cycle cycle, world.meets cycle outbox)]
  calls := if (world.outcome cycle).calls (world.pass cycle outbox).2 then [cycle] else []

/-- The loop of the daemon over the cycles that are left. -/
def runCycles (world : World) (once : Bool) : ReservationOutbox → List Cycle → Report
  | _, [] => ⟨[], []⟩
  | outbox, cycle :: rest =>
    if (world.outcome cycle).apiBefore then
      if (world.outcome cycle).goesOn (world.pass cycle outbox).2 once then
        (world.report cycle outbox).append
          (runCycles world once (world.pass cycle outbox).1 rest)
      else world.report cycle outbox
    else ⟨[], []⟩

/-- `ValidatedRuntimeDaemonConfig`: no repository is listed twice. -/
structure Config where
  repoKeys : List String
  distinct : repoKeys.Nodup

/-- The cycles of a number of rounds; a daemon that runs once has one round. -/
def Config.cycles (config : Config) (once : Bool) (rounds : Nat) : List Cycle :=
  (List.range (if once then min rounds 1 else rounds)).flatMap fun round =>
    config.repoKeys.map fun repoKey => ⟨round, repoKey⟩

/-- `run_daemon_config`, up to a number of rounds of its loop. -/
def runDaemonConfig (world : World) (outbox : ReservationOutbox) (config : Config)
    (once : Bool) (rounds : Nat) : Report :=
  if !world.started then ⟨[], []⟩
  else
    let met := world.changed .startup outbox
    let passed := met.processIssueReservationOutbox (world.provider .startup)
      ReservationOutbox.passLimit
    let report : Report := ⟨[(.startup, met)], []⟩
    if !passed.2 || !world.configured then report
    else report.append (runCycles world once passed.1 (config.cycles once rounds))

/-! ## Calls with and without the provider -/

/-- The provider accepts each item that the pass asks for. -/
def Accepted (world : World) (made : Pass × ReservationOutbox) : Prop :=
  ∀ itemId ∈ made.2.pending.take ReservationOutbox.passLimit,
    (world.provider made.1 itemId).accepts = true

/-- The pass comes before one of the calls: the first pass before each of them, the pass of a cycle
before the call of its cycle. -/
def Pass.Precedes (calls : List Cycle) : Pass → Prop
  | .startup => calls ≠ []
  | .cycle place => place ∈ calls

variable {world : World} {once : Bool} {outbox other : ReservationOutbox} {config : Config}
  {schedule : List Cycle}

/-- A pass returns when its answers are accepted. -/
theorem passed_iff {made : Pass × ReservationOutbox} :
    (made.2.processIssueReservationOutbox (world.provider made.1)
      ReservationOutbox.passLimit).2 = true ↔ Accepted world made :=
  (ReservationOutbox.process_spec made.2 _).1

/-- With a working provider every pass is `Ok`. -/
theorem working_passed (cycle : Cycle) : (world.working.pass cycle outbox).2 = true :=
  (ReservationOutbox.process_spec _ _).1.mpr fun _ _ => rfl

/-- Calls are made in cycles of the schedule. -/
theorem mem_of_mem_calls {cycle : Cycle}
    (called : cycle ∈ (runCycles world once outbox schedule).calls) : cycle ∈ schedule := by
  induction schedule generalizing outbox with
  | nil => cases called
  | cons first rest mem_rest =>
    have first_only (mem : cycle ∈ (world.report first outbox).calls) : cycle ∈ first :: rest := by
      simp only [World.report] at mem
      split at mem
      · rw [List.mem_singleton.mp mem]
        exact List.mem_cons_self ..
      · cases mem
    rw [runCycles] at called
    split at called
    · split at called
      · rcases List.mem_append.mp called with now | later
        · exact first_only now
        · exact List.mem_cons_of_mem _ (mem_rest later)
      · exact first_only called
    · cases called

/-- Passes of the loop are made in cycles of the schedule. -/
theorem mem_of_mem_passes {made : Pass × ReservationOutbox}
    (passed : made ∈ (runCycles world once outbox schedule).passes) :
    ∃ cycle ∈ schedule, made.1 = .cycle cycle := by
  induction schedule generalizing outbox with
  | nil => cases passed
  | cons first rest mem_rest =>
    have first_only (mem : made ∈ (world.report first outbox).passes) :
        ∃ cycle ∈ first :: rest, made.1 = .cycle cycle :=
      ⟨first, List.mem_cons_self .., congrArg Prod.fst (List.mem_singleton.mp mem)⟩
    rw [runCycles] at passed
    split at passed
    · split at passed
      · rcases List.mem_append.mp passed with now | later
        · exact first_only now
        · obtain ⟨cycle, mem, named⟩ := mem_rest later
          exact ⟨cycle, List.mem_cons_of_mem _ mem, named⟩
      · exact first_only passed
    · cases passed

/-- A pass of another cycle comes before a call of this cycle only when it comes before a later
one. -/
theorem precedes_cons {cycle : Cycle} {calls : List Cycle} (apart : cycle ∉ schedule)
    {made : Pass × ReservationOutbox}
    (passed : made ∈ (runCycles world once outbox schedule).passes) :
    made.1.Precedes (cycle :: calls) ↔ made.1.Precedes calls := by
  obtain ⟨place, mem, named⟩ := mem_of_mem_passes passed
  have place_ne : place ≠ cycle := fun same => apart (same ▸ mem)
  rw [named]
  simp [Pass.Precedes, place_ne]

/-- The loop makes the calls that it makes with a working provider exactly when the provider accepts
the items of each pass that comes before one of these calls. -/
theorem runCycles_calls_eq_iff (distinct : schedule.Nodup) :
    (runCycles world once outbox schedule).calls =
        (runCycles world.working once other schedule).calls ↔
      ∀ made ∈ (runCycles world once outbox schedule).passes,
        made.1.Precedes (runCycles world.working once other schedule).calls →
          Accepted world made := by
  induction schedule generalizing outbox other with
  | nil => simp [runCycles]
  | cons cycle rest calls_iff =>
    obtain ⟨apart, distinct⟩ := List.nodup_cons.mp distinct
    have rest_iff := @calls_iff (world.pass cycle outbox).1 (world.working.pass cycle other).1
      distinct
    have missed {world : World} {later : ReservationOutbox} :
        cycle ∉ (runCycles world once later rest).calls :=
      fun called => apart (mem_of_mem_calls called)
    have same_outcome : world.working.outcome = world.outcome := rfl
    cases before : (world.outcome cycle).apiBefore with
    | false => simp [runCycles, same_outcome, before]
    | true =>
      simp only [runCycles, World.report, working_passed, same_outcome, before, ↓reduceIte]
      cases prepared : (world.outcome cycle).prepared with
      | false =>
        -- Neither run calls `run_once` here, so both go on or both end.
        have quiet (passed : Bool) : (world.outcome cycle).calls passed = false := by
          simp [Outcome.calls, prepared]
        have same_way (passed : Bool) : (world.outcome cycle).goesOn passed once =
            (world.outcome cycle).goesOn true once := by
          simp [Outcome.goesOn, quiet]
        rw [same_way (world.pass cycle outbox).2]
        simp only [quiet]
        cases (world.outcome cycle).goesOn true once with
        | false => simp [Pass.Precedes]
        | true =>
          simp only [Report.append, ↓reduceIte, Bool.false_eq_true, List.nil_append,
            List.cons_append, List.forall_mem_cons, rest_iff]
          simp [Pass.Precedes, missed]
      | true =>
        have called (passed : Bool) : (world.outcome cycle).calls passed = passed := by
          simp [Outcome.calls, prepared]
        cases passed : (world.pass cycle outbox).2 with
        | true =>
          have accepted : Accepted world (.cycle cycle, world.meets cycle outbox) :=
            passed_iff.mp passed
          simp only [called]
          cases (world.outcome cycle).goesOn true once with
          | false => simp [accepted]
          | true =>
            simp only [Report.append, ↓reduceIte, List.cons_append, List.nil_append,
              List.forall_mem_cons, List.cons.injEq, true_and, rest_iff, accepted, implies_true]
            exact forall₂_congr fun made mem => by rw [precedes_cons apart mem]
        | false =>
          have refused : ¬Accepted world (.cycle cycle, world.meets cycle outbox) := by
            intro accepted
            rw [World.pass, passed_iff.mpr accepted] at passed
            cases passed
          -- The call of this cycle is missing.
          simp only [called]
          constructor
          · intro same
            exfalso
            have mem : cycle ∈ (if (world.outcome cycle).goesOn true once then
                (Report.append ⟨[(.cycle cycle, world.working.meets cycle other)], [cycle]⟩
                  (runCycles world.working once (world.working.pass cycle other).1 rest))
                else ⟨[(.cycle cycle, world.working.meets cycle other)], [cycle]⟩).calls := by
              split <;> simp [Report.append]
            simp only [↓reduceIte] at same
            rw [← same] at mem
            split at mem <;> simp [Report.append, missed] at mem
          · intro all
            exfalso
            apply refused
            apply all
            · split <;> simp [Report.append]
            · split <;> simp [Report.append, Pass.Precedes]

/-- The cycles of a run are distinct. -/
theorem Config.cycles_nodup (config : Config) (once : Bool) (rounds : Nat) :
    (config.cycles once rounds).Nodup := by
  apply List.nodup_flatMap.mpr
  constructor
  · intro round _
    apply config.distinct.map
    intro first second same
    exact (Cycle.mk.inj same).2
  · refine List.Pairwise.imp ?_ List.nodup_range
    intro first second apart cycle mem later
    obtain ⟨_, -, rfl⟩ := List.mem_map.mp mem
    obtain ⟨_, -, same⟩ := List.mem_map.mp later
    exact apart (congrArg Cycle.round same).symm

/-- A daemon makes the calls that it makes with a working provider exactly when the provider accepts
the items of each pass that comes before one of these calls. -/
theorem runDaemonConfig_calls_eq_iff {rounds : Nat} :
    (runDaemonConfig world outbox config once rounds).calls =
        (runDaemonConfig world.working outbox config once rounds).calls ↔
      ∀ made ∈ (runDaemonConfig world outbox config once rounds).passes,
        made.1.Precedes (runDaemonConfig world.working outbox config once rounds).calls →
          Accepted world made := by
  have same_start : world.working.started = world.started := rfl
  have same_configured : world.working.configured = world.configured := rfl
  have same_change : world.working.changed = world.changed := rfl
  let met := world.changed .startup outbox
  have working_start : (met.processIssueReservationOutbox (world.working.provider .startup)
      ReservationOutbox.passLimit).2 = true :=
    (ReservationOutbox.process_spec met _).1.mpr fun _ _ => rfl
  have started_iff : (met.processIssueReservationOutbox (world.provider .startup)
      ReservationOutbox.passLimit).2 = true ↔ Accepted world (.startup, met) :=
    (ReservationOutbox.process_spec met _).1
  simp only [runDaemonConfig, same_start, same_configured, same_change, working_start, met]
  cases world.started with
  | false => simp
  | true =>
    cases world.configured with
    | false => simp [Pass.Precedes]
    | true =>
      by_cases passed : (met.processIssueReservationOutbox (world.provider .startup)
          ReservationOutbox.passLimit).2 = true
      · have accepted := started_iff.mp passed
        simp only [met] at passed accepted
        simp only [passed, Bool.not_true, Bool.or_false, Bool.false_eq_true, ↓reduceIte,
          Report.append, List.nil_append, List.cons_append, List.forall_mem_cons, accepted,
          implies_true, true_and]
        exact runCycles_calls_eq_iff (config.cycles_nodup once rounds)
      · have refused := fun accepted => passed (started_iff.mpr accepted)
        simp only [met] at passed refused
        simp only [passed, Bool.not_false, ↓reduceIte, Bool.not_true, Bool.or_false,
          Bool.false_eq_true, Report.append, List.nil_append, List.forall_mem_singleton,
          Pass.Precedes]
        constructor
        · exact fun same calls => absurd same.symm calls
        · intro all
          by_contra differ
          exact refused (all (Ne.symm differ))

/-- An outage of the provider changes no call of `run_once` and holds back no item that the provider
accepts. -/
def OutageHarmless (world : World) (outbox : ReservationOutbox) (config : Config) (once : Bool)
    (rounds : Nat) : Prop :=
  (runDaemonConfig world outbox config once rounds).calls =
      (runDaemonConfig world.working outbox config once rounds).calls ∧
    ∀ made ∈ (runDaemonConfig world outbox config once rounds).passes,
      made.2.Isolates (world.provider made.1)

/-- An outage is harmless exactly when the provider accepts the items of each pass that comes before
a call, and no pass has an accepted item behind a refused one or behind a thousand others. -/
theorem outageHarmless_iff (world : World) (outbox : ReservationOutbox) (config : Config)
    (once : Bool) (rounds : Nat) :
    OutageHarmless world outbox config once rounds ↔
      (∀ made ∈ (runDaemonConfig world outbox config once rounds).passes,
        made.1.Precedes (runDaemonConfig world.working outbox config once rounds).calls →
          Accepted world made) ∧
      ∀ made ∈ (runDaemonConfig world outbox config once rounds).passes,
        made.2.Unobstructed (world.provider made.1) := by
  unfold OutageHarmless
  rw [runDaemonConfig_calls_eq_iff]
  exact and_congr Iff.rfl (forall₂_congr fun made _ => ReservationOutbox.isolates_iff)

namespace Sample

/-- An issue repository with full visibility. -/
def snapshot : StateRepositorySnapshot := .githubIssue ⟨"owner/issues", .full, ["owner"]⟩

/-- Two items wait for their issues. -/
def enqueued : ReservationOutbox :=
  (ReservationOutbox.empty.enqueue "first" snapshot "2026-01-01" rfl).enqueue "second" snapshot
    "2026-01-02" rfl

/-- The provider refuses the first item in every pass. -/
def refusing : World where
  provider _ itemId := ⟨true, if itemId = "first" then none else some ("2", "url")⟩
  changed _ outbox := outbox
  started := true
  configured := true
  outcome _ := ⟨true, true, true, true, true⟩

/-- One repository. -/
def single : Config := ⟨["repository"], List.nodup_singleton _⟩

end Sample

/-- One refused item keeps the daemon from integrating at all. -/
theorem outage_not_harmless :
    ¬OutageHarmless Sample.refusing Sample.enqueued Sample.single false 1 := by
  rintro ⟨same, -⟩
  have none : (runDaemonConfig Sample.refusing Sample.enqueued Sample.single false 1).calls = [] := by
    decide +kernel
  have one : (runDaemonConfig Sample.refusing.working Sample.enqueued Sample.single false 1).calls =
      [⟨0, "repository"⟩] := by
    decide +kernel
  rw [none, one] at same
  cases same

end Iq.Daemon
