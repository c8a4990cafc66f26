import Iq.Lifecycle.Runs

/-!
# Cycle numbers

The number that a ready effort gives its next cycle, against the numbers of the cycles it already
stored. Every operation but one reads the number off the stored cycles. A rejection below the limit
counts failed cycles instead; the two agree only while every stored cycle but the rejected one is a
counted failure, which a launch that was taken back or a retry after the limit undoes.
-/

namespace Iq

open Library Library.Transaction

/-- The number of the next cycle of a ready state, suspended or not. -/
def IntegrationEffortState.readyCycle? : IntegrationEffortState → Option Nat
  | .agentReady value => some value.nextCycle
  | .infrastructureBlocked ⟨_, .agentReady value⟩ => some value.nextCycle
  | .providerBlocked ⟨_, .agentReady value⟩ => some value.nextCycle
  | _ => none

/-- The next cycle of a ready view follows its stored cycles. -/
structure EffortView.Numbered (view : EffortView) : Prop where
  absent : view.effort = none → view.cycles = []
  next : ∀ effort number, view.effort = some effort → effort.state.readyCycle? = some number →
    number = view.maxCycle + 1

/-- An accepted rejection below the limit finds its cycle numbered by the failed count. -/
def EffortView.RejectsInStep (view : EffortView) (operation : Operation) : Prop :=
  ∀ effort evidence stamp, view.effort = some effort →
    operation = .rejectCandidate effort.id evidence stamp →
    effort.failedCycles + 1 < automaticCycleLimit → view.maxCycle = effort.failedCycles + 1

open EffortView

variable {view before after : EffortView} {row effort : IntegrationEffort} {effortId : String}
  {rejection : Option DefiniteLandingRejection} {state : IntegrationEffortState}
  {failedCycles : Nat} {db later : Database}

/-- A written state leaves the cycle numbers. -/
theorem Writes.maxCycle (writes : Writes rejection before row state failedCycles after) :
    after.maxCycle = before.maxCycle := by
  rw [EffortView.maxCycle, EffortView.maxCycle, writes.cycles]

/-- A write numbers its view when the state it writes does. -/
theorem Writes.numbered (writes : Writes rejection before row state failedCycles after)
    (next : ∀ number, state.readyCycle? = some number → number = before.maxCycle + 1) :
    after.Numbered where
  absent missing := by cases writes.effort.symm.trans missing
  next effort number stored ready := by
    cases writes.effort.symm.trans stored
    rw [writes.maxCycle]
    exact next number ready

/-- A write of a state that is not ready numbers its view. -/
theorem Writes.numbered_of_unready (writes : Writes rejection before row state failedCycles after)
    (unready : state.readyCycle? = none) : after.Numbered := by
  apply writes.numbered
  intro number ready
  cases unready.symm.trans ready

/-- A suspended state is ready for the cycle of the state it restores. -/
theorem ResumeState.readyCycle?_restore (resume : ResumeState) {blocker : IntegrationBlocker} :
    (IntegrationEffortState.infrastructureBlocked ⟨blocker, resume⟩).readyCycle? =
        resume.restore.readyCycle? ∧
      (IntegrationEffortState.providerBlocked ⟨blocker, resume⟩).readyCycle? =
        resume.restore.readyCycle? := by
  cases resume <;> exact ⟨rfl, rfl⟩

/-- After a failed launch the next number follows. -/
theorem LaunchFails.numbered {cycleId : String} {status : CycleStatus}
    (fails : LaunchFails view effort cycleId status after) : after.Numbered := by
  apply fails.writes.numbered
  rintro number ⟨⟩
  rw [EffortView.maxCycle_setCycles]

/-- A step that is no rejection out of step numbers its view. -/
theorem EffortStep.numbered {operation : Operation} (step : EffortStep operation view after)
    (numbered : view.Numbered) (inStep : view.RejectsInStep operation) : after.Numbered := by
  cases step with
  | create absent idle composed =>
    refine ⟨(by rintro ⟨⟩), ?_⟩
    rintro effort number ⟨⟩ ⟨⟩
    rw [EffortView.maxCycle, numbered.absent absent]
    rfl
  | replace stored waiting another composed =>
    refine ⟨(by rintro ⟨⟩), ?_⟩
    rintro effort number ⟨⟩ ⟨⟩
    rfl
  | prepare fresh ready within unused writes => exact writes.numbered_of_unready rfl
  | surrender launching opened writes => exact writes.numbered_of_unready rfl
  | surrenderCancelled | acknowledgeCancelled | deleteDebt =>
    exact ⟨numbered.absent, numbered.next⟩
  | acknowledgeLaunching launching surrendered fails => exact fails.numbered
  | acknowledgeRunning started fails => exact fails.numbered
  | reset launching fails => exact fails.numbered
  | started launching surrendered sameLaunch sameCycle sameUnit presented active writes =>
    exact writes.numbered_of_unready rfl
  | result started writes => exact writes.numbered_of_unready rfl
  | accept started same writes =>
    have next := writes.numbered_of_unready rfl
    exact ⟨next.absent, next.next⟩
  | @record _ _ _ building _ _ _ built same opened unopened writes =>
    apply writes.numbered_of_unready
    unfold CandidateBuilding.candidateState
    split <;> rfl
  | resetBuild built writes =>
    apply writes.numbered
    rintro number ⟨⟩
    rfl
  | startValidation ready writes => exact writes.numbered_of_unready rfl
  | completeValidation validated writes => exact writes.numbered_of_unready rfl
  | requireGuidance started same unopened writes => exact writes.numbered_of_unready rfl
  | answer waiting applies writes =>
    apply writes.numbered
    rintro number ⟨⟩
    rfl
  | blockInfrastructure captured writes =>
    apply writes.numbered
    intro number ready
    rw [(ResumeState.readyCycle?_restore _).1, ← captured] at ready
    exact numbered.next _ number writes.stored ready
  | blockProvider captured writes =>
    apply writes.numbered
    intro number ready
    rw [(ResumeState.readyCycle?_restore _).2, ← captured] at ready
    exact numbered.next _ number writes.stored ready
  | consume active writes =>
    apply writes.numbered
    intro number ready
    rw [EffortView.maxCycle_setCycles]
    unfold EffortView.failedState at ready
    split at ready
    · cases ready
    · cases ready
      rfl
  | @reject _ _ effort cycleId evidence stamp candidate exact active writes =>
    apply writes.numbered
    intro number ready
    have kept : ∀ rows, EffortView.maxCycle { view.setCycles
        (isCycleOf effort.id cycleId .resolved) .failed
          (some (.candidateDefect evidence)) with evidence := rows } = view.maxCycle :=
      fun _ => EffortView.maxCycle_setCycles
    rw [kept]
    unfold EffortView.failedState at ready
    split at ready
    · cases ready
    · rename_i below
      cases ready
      have range : effort.failedCycles + 1 ≤ 10 := writes.range
      have limit : automaticCycleLimit = 10 := rfl
      have counted : view.maxCycle = effort.failedCycles + 1 :=
        inStep effort evidence stamp writes.stored rfl (by omega)
      show effort.failedCycles + 2 = view.maxCycle + 1
      omega
  | retryLimit limited writes =>
    apply writes.numbered
    rintro number ⟨⟩
    rfl
  | @retry _ _ _ blocked _ _ _ suspended writes =>
    apply writes.numbered
    intro number ready
    rcases blocked with ⟨blocker, resume⟩
    have restored := @ResumeState.readyCycle?_restore resume blocker
    rcases suspended with suspended | suspended
    · exact numbered.next _ number writes.stored (by rw [suspended, restored.1]; exact ready)
    · exact numbered.next _ number writes.stored (by rw [suspended, restored.2]; exact ready)
  | @resumeProvider _ _ _ blocked _ suspended writes =>
    apply writes.numbered
    intro number ready
    rcases blocked with ⟨blocker, resume⟩
    have restored := @ResumeState.readyCycle?_restore resume blocker
    exact numbered.next _ number writes.stored (by rw [suspended, restored.2]; exact ready)
  | beginLanding validated writes => exact writes.numbered_of_unready rfl
  | release prepared writes => exact writes.numbered_of_unready rfl
  | integrate landed writes => exact writes.numbered_of_unready rfl
  | moveTarget movable captured writes => exact writes.numbered_of_unready rfl
  | recompose stored moving composed writes =>
    apply writes.numbered
    rintro number ⟨⟩
    exact congrArg (· + 1) EffortView.maxCycle_setCycles.symm
  | approve decides decision writes => exact writes.numbered_of_unready rfl
  | requestChanges decides decision writes =>
    apply writes.numbered
    rintro number ⟨⟩
    rfl
  | cancel free active owed writes => exact writes.numbered_of_unready rfl
  | markReplacement limited writes => exact writes.numbered_of_unready rfl

/-! ## Runs -/

namespace Database

/-- The next cycle of every ready effort follows its stored cycles. -/
def ReadyCyclesFollow (db : Database) : Prop :=
  ∀ effort ∈ db.efforts, ∀ ready, effort.state = .agentReady ready →
    ready.nextCycle = db.maxCycleNumber effort.id + 1

/-- Every view is numbered. -/
def Numbered (db : Database) : Prop := ∀ effortId, (db.view effortId).Numbered

/-- A rejection that the store accepts below the limit rejects the candidate of a cycle whose
number is one past the failed cycles: the stored cycles of the effort are its counted failures and
the rejected cycle, no more. -/
def RejectsInStep (db : Database) (operation : Operation) : Prop :=
  ∀ effortId evidence stamp effort, operation = .rejectCandidate effortId evidence stamp →
    db.efforts.find? effortId = some effort →
    (∃ outcome later, operation.transaction.Commits db outcome later) →
    effort.failedCycles + 1 < automaticCycleLimit →
    db.maxCycleNumber effortId = effort.failedCycles + 1

/-- A ready agent starts the cycle after the last one. -/
theorem ReadyCyclesFollow.next {ready : AgentReady} (follow : db.ReadyCyclesFollow)
    (stored : db.efforts.find? effortId = some effort) (is_ready : effort.state = .agentReady ready) :
    ready.nextCycle = db.maxCycleNumber effortId + 1 := by
  have found := Table.find?_eq_some.mp stored
  rw [← found.2]
  exact follow effort found.1 ready is_ready

/-- In a numbered database ready cycles follow. -/
theorem Numbered.readyCyclesFollow (numbered : db.Numbered) : db.ReadyCyclesFollow := by
  intro effort mem ready is_ready
  have stored : (db.view effort.id).effort = some effort := view_effort_eq_some.mpr ⟨mem, rfl⟩
  exact (numbered effort.id).next effort _ stored (by rw [is_ready]; rfl)

/-- At first the cycles are numbered. -/
theorem Initial.numbered (initial : db.Initial) : db.Numbered := by
  intro effortId
  rw [initial.view_eq_blank]
  exact ⟨fun _ => rfl, fun _ _ stored => by cases stored⟩

/-- A step that rejects in step, if it rejects, keeps every view numbered. -/
theorem Numbered.step (reachable : store.Reachable db) (numbered : db.Numbered)
    {operation : Operation} (inStep : db.RejectsInStep operation) :
    (store.step db operation).Numbered := by
  intro effortId
  rcases settle_cases operation.transaction db with same | ⟨outcome, commits⟩
  · rw [store_step, same]
    exact numbered effortId
  · rcases operation.stepped (sound_of_reachable reachable) commits effortId with same | step
    · rw [store_step, same]
      exact numbered effortId
    · apply step.numbered (numbered effortId)
      intro effort evidence stamp stored is_reject below
      have owned : effort.id = effortId := id_of_view_effort stored
      rw [owned] at is_reject
      exact inStep effortId evidence stamp effort is_reject stored ⟨outcome, _, commits⟩ below

end Database

/-- What an accepted rejection below the limit writes: the failed count numbers the next cycle. -/
theorem EffortStep.ready_of_reject {evidence : String} {stamp : Stamp}
    (step : EffortStep (.rejectCandidate effortId evidence stamp) view after)
    (stored : view.effort = some effort)
    (below : effort.failedCycles + 1 < automaticCycleLimit) :
    after.maxCycle = view.maxCycle ∧ ∃ row, after.effort = some row ∧
      row.state = .agentReady ⟨effort.failedCycles + 2⟩ := by
  cases step with
  | @reject _ _ found cycleId _ _ candidate exact active writes =>
    have same : found = effort := Option.some_inj.mp (writes.stored.symm.trans stored)
    subst same
    have apart : ¬found.failedCycles + 1 = automaticCycleLimit := by omega
    refine ⟨writes.maxCycle.trans EffortView.maxCycle_setCycles, _, writes.effort, ?_⟩
    show view.failedState _ _ _ _ _ = _
    rw [EffortView.failedState, if_neg apart, if_neg apart]

/-- An accepted rejection after which ready cycles follow rejects in step. -/
theorem maxCycle_of_reject {evidence : String} {stamp : Stamp} {outcome : Outcome}
    (stored : db.efforts.find? effortId = some effort)
    (commits : (Operation.rejectCandidate effortId evidence stamp).transaction.Commits db outcome
      later)
    (below : effort.failedCycles + 1 < automaticCycleLimit) (follow : later.ReadyCyclesFollow) :
    db.maxCycleNumber effortId = effort.failedCycles + 1 := by
  simp only [Operation.transaction, commits_map] at commits
  rcases commits with ⟨_, commits, -⟩
  have step := (rejectCandidate_steps commits).2
  rcases step.ready_of_reject stored below with ⟨number, row, written, ready⟩
  have next : effort.failedCycles + 2 = later.maxCycleNumber effortId + 1 :=
    follow.next written ready
  rw [Database.maxCycleNumber_eq, number, ← Database.maxCycleNumber_eq] at next
  omega

/-- Over a run from an initial database, the next cycle of every ready effort follows its stored
cycles in every state exactly when every rejection that the run accepts below the limit is in
step. -/
theorem ready_cycles_follow_iff {start : Database} (initial : start.Initial)
    (operations : List Operation) :
    (∀ earlier rest, operations = earlier ++ rest →
        (store.run start earlier).ReadyCyclesFollow) ↔
      ∀ earlier operation rest, operations = earlier ++ operation :: rest →
        (store.run start earlier).RejectsInStep operation := by
  constructor
  · intro follow earlier operation rest split effortId evidence stamp effort is_reject stored
      accepted below
    rcases accepted with ⟨outcome, later, commits⟩
    have next : (store.run start (earlier ++ [operation])).ReadyCyclesFollow :=
      follow (earlier ++ [operation]) rest (by rw [split, List.append_assoc]; rfl)
    rw [Machine.run_append, Machine.run_cons, Machine.run_nil, store_step,
      settle_of_commits commits] at next
    subst is_reject
    exact maxCycle_of_reject stored commits below next
  · intro inStep earlier rest split
    have rule := @Machine.run_keeps_while _ _ store
      (fun now => store.Reachable now ∧ now.Numbered) Database.RejectsInStep
    have holds : store.Reachable (store.run start earlier) ∧
        (store.run start earlier).Numbered := by
      apply rule ?_ ⟨.initial initial, initial.numbered⟩ earlier
      · intro before operation after within
        exact inStep before operation (after ++ rest) (by rw [split, within]; simp)
      · intro now operation now_holds allowed
        exact ⟨now_holds.1.step operation, now_holds.2.step now_holds.1 allowed⟩
    exact holds.2.readyCyclesFollow

/-- A run that rejects nothing keeps every ready cycle after the stored ones. -/
theorem ready_cycles_follow_iff_built :
    (Sample.after (Sample.created (.clean Sample.treeSha) .direct ++
        Sample.built 1)).ReadyCyclesFollow ∧
      ∀ earlier rest, Sample.created (.clean Sample.treeSha) .direct ++ Sample.built 1 =
          earlier ++ rest →
        (store.run Sample.database earlier).ReadyCyclesFollow := by
  have follow : ∀ earlier rest, Sample.created (.clean Sample.treeSha) .direct ++ Sample.built 1 =
      earlier ++ rest → (store.run Sample.database earlier).ReadyCyclesFollow := by
    apply (ready_cycles_follow_iff Sample.database_initial _).mpr
    intro earlier operation rest split effortId evidence stamp effort is_reject
    have mem : operation ∈ Sample.created (.clean Sample.treeSha) .direct ++ Sample.built 1 := by
      rw [split]
      exact List.mem_append_right _ List.mem_cons_self
    simp [is_reject, Sample.created, Sample.built, Sample.started] at mem
  exact ⟨follow _ [] (List.append_nil _).symm, follow⟩

/-- A launch that was taken back uses up cycle 1 without a failed count, so the rejection of the
candidate of cycle 2 names cycle 2 again, and no launch of that number can be prepared. -/
theorem ready_cycle_collides :
    let db := Sample.after (Sample.created (.clean Sample.treeSha) .direct ++
      [.prepareCycleLaunch "effort" (Sample.launch 1) (Sample.stampOf "prepare"),
        .resetPreparedLaunch "effort" (Sample.cycleId 1) false (Sample.stampOf "reset")] ++
      Sample.built 2 ++ [.rejectCandidate "effort" "defect" (Sample.stampOf "reject")])
    store.Reachable db ∧ ¬db.ReadyCyclesFollow ∧
      (∃ effort, db.efforts.find? "effort" = some effort ∧ effort.state = .agentReady ⟨2⟩) ∧
      db.maxCycleNumber "effort" = 2 ∧
      (Operation.prepareCycleLaunch "effort" { Sample.launch 3 with cycleNumber := 2 }
        (Sample.stampOf "again")).transaction.Aborts db
          (.constraint (.unique "integration_cycles(effort_id,cycle_number)")) := by
  intro db
  have shape : (db.efforts.find? "effort").map IntegrationEffort.state =
      some (.agentReady ⟨2⟩) := by decide +kernel
  have number : db.maxCycleNumber "effort" = 2 := by decide +kernel
  rcases Option.map_eq_some_iff.mp shape with ⟨effort, stored, ready⟩
  refine ⟨Sample.reachable _, ?_, ⟨effort, stored, ready⟩, number, ?_⟩
  · intro follow
    have next : 2 = db.maxCycleNumber "effort" + 1 := follow.next stored ready
    rw [number] at next
    exact absurd next (by decide)
  · apply reason?_eq_some.mp
    decide +kernel

end Iq
