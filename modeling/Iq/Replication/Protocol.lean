import Iq.Replication.Commands

/-!
# The steps of a reconciliation

What each program of a reconciliation keeps after every effect and how it ends, first for the single
effects and then along the structure of the programs. The same rules serve two readings: with faults
on every command they say what holds wherever a reconciliation is interrupted, and with faults on
the replicas only they say that no reconciliation in turn ends in an error.
-/

namespace Iq.Replication

open Library

variable {now later before : World} {debt other : ReplicationDebt} {debtId : String}

/-! ## Pins and events -/

/-- A pin that its debt allows keeps the invariant. -/
theorem Sound.withPin {pin : Option String} (sound : Sound now)
    (row : now.store.debts.find? debt.id = some debt) (allowed : PinSound debt pin) :
    Sound (now.withPin debt.id pin) := by
  refine ⟨fun other mem => ?_, fun otherId absent => ?_, sound.covered, sound.orderly⟩
  · have kept := sound.debts other mem
    refine ⟨kept.checked, kept.real, kept.phase, kept.bound, kept.obliged, ?_, kept.inTurn,
      kept.reported⟩
    by_cases own : other.id = debt.id
    · have same := Table.eq_of_key mem (Table.find?_eq_some.mp row).1 own
      subst same
      simp only [World.withPin, ↓reduceIte]
      exact allowed
    · simp only [World.withPin, own, ↓reduceIte]
      exact kept.pin
  · have apart : otherId ≠ debt.id := by
      intro same
      rw [same] at absent
      exact nomatch row.symm.trans absent
    simp only [World.withPin, apart, ↓reduceIte]
    exact sound.unpinned otherId absent

/-- An event keeps the invariant, unless it is a push after a newer debt had its turn. -/
theorem Sound.record {event : DestinationEvent} (sound : Sound now)
    (orderly : ∀ debtId, event ≠ .pushed debtId false) : Sound (now.record event) := by
  refine ⟨fun other mem => ?_, sound.unpinned, sound.covered, fun debtId mem => ?_⟩
  · have kept := sound.debts other mem
    exact ⟨kept.checked, kept.real, kept.phase, kept.bound, kept.obliged, kept.pin, kept.inTurn,
      fun reported => List.mem_cons_of_mem _ (kept.reported reported)⟩
  · rcases List.mem_cons.mp mem with same | mem
    · exact orderly debtId same.symm
    · exact sound.orderly debtId mem

/-- No newer debt of the target had its turn before an unfinished one. -/
theorem Sound.isNewest (sound : Sound now) (stored : debt ∈ now.store.debts)
    (unfinished : debt.outcome.isFinished = false) : now.isNewest debt = true := by
  rw [World.isNewest, Bool.not_eq_true', Table.any_eq_false]
  intro newer mem
  rw [Bool.and_eq_false_iff, Bool.and_eq_false_iff]
  by_cases turned : newer.outcome ∈ turnOutcomes
  · by_cases same : newer.sameTarget debt = true
    · by_cases less : debt.sequence < newer.sequence
      · have target : debt.sameTarget newer = true := by
          simp only [ReplicationDebt.sameTarget, Bool.and_eq_true, beq_iff_eq] at same ⊢
          exact ⟨same.1.symm, same.2.symm⟩
        have finished := (sound.debts newer mem).inTurn turned debt stored target less
        rw [unfinished] at finished
        cases finished
      · exact .inl (.inr (decide_eq_false less))
    · exact .inl (.inl (Bool.eq_false_of_not_eq_true same))
  · exact .inr (by simpa using turned)

/-! ## What a reconciliation leaves alone -/

/-- The policy and the items stay, no event is lost, and only unfinished debts of a list are
rewritten, which keep what identifies them. -/
structure Advances (worked : List String) (before later : World) : Prop where
  policy : later.store.policy = before.store.policy
  items : later.store.items = before.store.items
  rows : ∀ debt ∈ later.store.debts, ∃ old ∈ before.store.debts, SameDebt old debt ∧
    (debt = old ∨ old.id ∈ worked ∧ old.outcome.isFinished = false)
  stays : ∀ old ∈ before.store.debts, ∃ debt ∈ later.store.debts, SameDebt old debt

namespace Advances

variable {worked : List String}

/-- A world advances to itself. -/
theorem refl : Advances worked now now where
  policy := rfl
  items := rfl
  rows debt mem := ⟨debt, mem, .refl, .inl rfl⟩
  stays old mem := ⟨old, mem, .refl⟩

/-- Advances go on. -/
theorem trans (first : Advances worked before now) (second : Advances worked now later) :
    Advances worked before later where
  policy := second.policy.trans first.policy
  items := second.items.trans first.items
  rows debt mem := by
    obtain ⟨middle, middle_mem, same, kept⟩ := second.rows debt mem
    obtain ⟨old, old_mem, same_old, kept_old⟩ := first.rows middle middle_mem
    refine ⟨old, old_mem, same_old.trans same, ?_⟩
    rcases kept_old with rfl | rewritten
    · exact kept
    · exact .inr rewritten
  stays old mem := by
    obtain ⟨middle, middle_mem, same⟩ := first.stays old mem
    obtain ⟨debt, debt_mem, same_debt⟩ := second.stays middle middle_mem
    exact ⟨debt, debt_mem, same.trans same_debt⟩

/-- More debts may have been worked on. -/
theorem mono {more : List String} (advances : Advances worked before later)
    (subset : worked ⊆ more) : Advances more before later where
  policy := advances.policy
  items := advances.items
  rows debt mem := by
    obtain ⟨old, old_mem, same, kept⟩ := advances.rows debt mem
    exact ⟨old, old_mem, same, kept.imp_right fun rewritten => ⟨subset rewritten.1, rewritten.2⟩⟩
  stays := advances.stays

/-- A debt that is not worked on keeps its row. -/
theorem find?_of_not_mem (advances : Advances worked before later) (apart : debtId ∉ worked)
    (row : before.store.debts.find? debtId = some debt) :
    later.store.debts.find? debtId = some debt := by
  obtain ⟨mem, named⟩ := Table.find?_eq_some.mp row
  obtain ⟨found, found_mem, same⟩ := advances.stays debt mem
  obtain ⟨old, old_mem, same_old, kept⟩ := advances.rows found found_mem
  have old_id : old.id = debt.id := same_old.id.symm.trans same.id
  have itself : old = debt := Table.eq_of_key old_mem mem old_id
  rcases kept with rfl | rewritten
  · exact Table.find?_eq_some.mpr ⟨itself ▸ found_mem, named⟩
  · exact absurd (named ▸ old_id ▸ rewritten.1) apart

/-- A debt in its turn stays so. -/
theorem inTurn (advances : Advances worked before later) {new : ReplicationDebt}
    (same : SameDebt debt new) (turn : before.InTurn debt) : later.InTurn new := by
  intro older mem target less
  obtain ⟨old, old_mem, same_old, kept⟩ := advances.rows older mem
  have old_target : old.sameTarget debt = true := by
    simpa [ReplicationDebt.sameTarget, same.destination, same.target, same_old.destination,
      same_old.target] using target
  have old_less : old.sequence < debt.sequence := by
    rw [← same_old.sequence, ← same.sequence]
    exact less
  have finished := turn old old_mem old_target old_less
  rcases kept with rfl | ⟨_, unfinished⟩
  · exact finished
  · rw [finished] at unfinished
    cases unfinished

end Advances

/-- The state of a reconciliation at work on a debt. -/
structure Working (before : World) (debt : ReplicationDebt) (now : World) : Prop where
  sound : Sound now
  advances : Advances [debt.id] before now
  row : now.store.debts.find? debt.id = some debt

namespace Working

/-- The debt that is worked on is sound. -/
theorem debtSound (working : Working before debt now) : DebtSound now debt :=
  working.sound.find working.row

/-- The debt that is worked on is stored. -/
theorem stored (working : Working before debt now) : debt ∈ now.store.debts :=
  (Table.find?_eq_some.mp working.row).1

/-- The debt as it was before. -/
theorem old (working : Working before debt now) :
    ∃ old ∈ before.store.debts, SameDebt old debt := by
  obtain ⟨old, mem, same, _⟩ := working.advances.rows debt working.stored
  exact ⟨old, mem, same⟩

/-- A transaction on the debt. -/
theorem update {update : DebtUpdate} {store : ReplicationStore} (working : Working before debt now)
    (committed : now.store.update debt.id update = some store)
    (supported : Supported now debt update) :
    Working before (update.change debt) { now with store } := by
  have same := @sameDebt_change debt update
  have rewrites := rewrites_of_update working.row committed
  obtain ⟨_, found, _, admitted, _, _⟩ := update_eq_some committed
  cases Option.some.inj (working.row.symm.trans found)
  have step : Advances [debt.id] now { now with store } := by
    refine ⟨rewrites.policy, rewrites.items, fun row mem => ?_, fun old mem => ?_⟩
    · rcases (rewrites.rows row).mp mem with rfl | ⟨stored, _⟩
      · exact ⟨debt, working.stored, same, .inr ⟨List.mem_singleton_self _,
          unfinished_of_admits admitted⟩⟩
      · exact ⟨row, stored, .refl, .inl rfl⟩
    · by_cases own : old.id = debt.id
      · have itself := Table.eq_of_key mem working.stored own
        subst itself
        exact ⟨update.change old, (rewrites.rows _).mpr (.inl rfl), same⟩
      · exact ⟨old, (rewrites.rows _).mpr (.inr ⟨mem, own⟩),
          .refl⟩
  refine ⟨working.sound.update working.row committed supported, ?_, ?_⟩
  · rw [same.id]
    exact working.advances.trans step
  · rw [same.id]
    apply Table.find?_eq_some.mpr
    exact ⟨(rewrites.rows _).mpr (.inl rfl), same.id⟩

/-- A Git command leaves the tables. -/
theorem of_store (working : Working before debt now) (sound : Sound later)
    (same : later.store = now.store) : Working before debt later := by
  refine ⟨sound, ?_, same ▸ working.row⟩
  obtain ⟨policy, items, rows, stays⟩ := working.advances
  constructor <;> rw [same] <;> assumption

end Working

/-! ## Effects -/

section Effects

variable {localFaults : Bool} {stop : ReconcileError → World → Prop}

/-- A reconciliation may end in any error but a refused transaction when its own commands fail. -/
def Tolerates (localFaults : Bool) (stop : ReconcileError → World → Prop) : Prop :=
  localFaults = true → ∀ reason now, reason ≠ .refused → stop reason now

/-- The effects of the world are those of the process. -/
theorem world_perform (effect : Effect) (choice : Choice) :
    (world localFaults).perform now effect choice = now.perform effect choice := rfl

/-- The debt is read. -/
theorem upholds_readDebt {ok : ReplicationDebt → World → Prop} (sound : Sound now)
    (row : now.store.debts.find? debtId = some debt) (next : ok debt now) :
    (readDebt debtId).Upholds (world localFaults) Sound ok stop now := by
  rw [readDebt, Program.upholds_bind, findDebt]
  apply Program.upholds_ask.mpr
  intro _ _
  refine ⟨sound, ?_⟩
  simp only [world_perform, World.perform, row]
  exact next

/-- A transaction that the outcome admits is accepted, and its row is read back. -/
theorem upholds_update {ok : ReplicationDebt → World → Prop} {change : DebtUpdate}
    (working : Working before debt now) (admitted : change.admits now.store debt = true)
    (supported : Supported now debt change) (format : now.store.requiresOid change = true)
    (next : ∀ later, Working before (change.change debt) later → later.pins = now.pins →
      later.log = now.log → ok (change.change debt) later) :
    (update debt.id change).Upholds (world localFaults) Sound ok stop now := by
  obtain ⟨store, committed⟩ := working.sound.accepts working.row admitted supported format
  have worked := working.update committed supported
  rw [update, Program.upholds_bind, commit]
  apply Program.upholds_ask.mpr
  intro choice _
  simp only [world_perform, World.perform, committed]
  refine ⟨worked.sound, ?_⟩
  rw [Program.upholds_bind, Program.upholds_require]
  refine ⟨fun _ => ?_, fun refused => absurd trivial refused⟩
  apply upholds_readDebt worked.sound _ (next _ worked rfl rfl)
  have row := worked.row
  rw [DebtUpdate.id_change] at row
  exact row

/-- The pin is read; only a fault of the command keeps its object from the program. -/
theorem upholds_inspectPin {ok : Option String → World → Prop}
    (tolerates : Tolerates localFaults stop) (sound : Sound now) (next : ok (now.pins debtId) now) :
    (inspectPin debtId).Upholds (world localFaults) Sound ok stop now := by
  rw [inspectPin, Program.upholds_bind, revParse]
  apply Program.upholds_ask.mpr
  intro choice permitted
  refine ⟨sound, ?_⟩
  simp only [world_perform, World.perform]
  by_cases answered : choice.answered = true
  · simp only [answered, ↓reduceIte]
    exact next
  · have faults : localFaults = true := by
      simpa [world, Choice.sparesLocal, answered] using permitted
    simp only [answered, Bool.false_eq_true, ↓reduceIte]
    exact tolerates faults _ _ (fun refused => nomatch refused)

/-- What a Git command on the debt does, when it is refused or not run and when it is run. -/
theorem upholds_runGit {ok : GitAnswer → World → Prop} {command : GitCommand}
    (working : Working before debt now)
    (refused : ∀ choice : Choice, (world localFaults).permits now (.git debt.id command) choice →
      (∃ checksPin, now.authorizes debt command checksPin = false) ∨ choice.ran = false →
      ok (.error choice.text) now)
    (ran : ∀ choice : Choice, (world localFaults).permits now (.git debt.id command) choice →
      now.authorizes debt command choice.checksPin = true →
      Sound (now.runCommand debt choice command).2 ∧
        ok (now.runCommand debt choice command).1 (now.runCommand debt choice command).2) :
    (runGit debt.id command).Upholds (world localFaults) Sound ok stop now := by
  rw [runGit]
  apply Program.upholds_ask.mpr
  intro choice permitted
  simp only [world_perform, World.perform, World.runGit, working.row]
  by_cases authorized : now.authorizes debt command choice.checksPin = true
  · by_cases was_run : choice.ran = true
    · simp only [authorized, was_run, Bool.and_self, ↓reduceIte]
      exact ran choice permitted authorized
    · simp only [was_run, Bool.and_false, Bool.false_eq_true, ↓reduceIte]
      exact ⟨working.sound, refused choice permitted (.inr (Bool.eq_false_of_not_eq_true was_run))⟩
  · simp only [authorized, Bool.false_and, Bool.false_eq_true, ↓reduceIte]
    exact ⟨working.sound, refused choice permitted
      (.inl ⟨choice.checksPin, Bool.eq_false_of_not_eq_true authorized⟩)⟩

/-- An unfinished debt is bound and obliged. -/
theorem Working.requiresReplication (working : Working before debt now)
    (unfinished : debt.outcome.isFinished = false) :
    now.store.requiresReplication debt = true := by
  rw [ReplicationStore.requiresReplication, working.debtSound.bound,
    working.debtSound.obliged unfinished]
  rfl

/-- The destination is observed: the report is an object of the replica's format, and there is none
while the source is not pinned. -/
theorem upholds_observe {ok : GitAnswer → World → Prop} (working : Working before debt now)
    (failed : ∀ error, ok (.error error) now)
    (reported : ∀ observed later, Working before debt later → debt.operation ≠ .pinSource →
      observed.all debt.replica.objectFormat.isOid = true →
      .reported debt.id observed (now.store.olderUnfinished debt).isNone ∈ later.log →
      later.store = now.store → ok (.ok observed) later) :
    (runGit debt.id .observe).Upholds (world localFaults) Sound ok stop now := by
  apply upholds_runGit working
  · exact fun choice _ _ => failed choice.text
  · intro choice _ authorized
    simp only [World.runCommand]
    split
    · rename_i arrives
      rw [Bool.and_eq_true] at arrives
      have sound : Sound (now.record
          (.reported debt.id choice.observed (now.store.olderUnfinished debt).isNone)) :=
        working.sound.record fun _ => nofun
      have pinned : debt.operation ≠ .pinSource := by
        intro pinning
        simp [World.authorizes, pinning, GitCommand.isPinning] at authorized
      exact ⟨sound, reported choice.observed _ (working.of_store sound rfl) pinned arrives.2
        List.mem_cons_self rfl⟩
    · exact ⟨working.sound, failed choice.text⟩

/-- The push of an unfinished debt is orderly. -/
theorem upholds_push {ok : GitAnswer → World → Prop} (working : Working before debt now)
    (unfinished : debt.outcome.isFinished = false)
    (next : ∀ answer later, Working before debt later → later.store = now.store →
      ok answer later) :
    (runGit debt.id .push).Upholds (world localFaults) Sound ok stop now := by
  apply upholds_runGit working
  · exact fun _ _ _ => next _ now working rfl
  · intro choice _ _
    have orderly := working.sound.isNewest working.stored unfinished
    have sound : Sound (now.record (.pushed debt.id (now.isNewest debt))) := by
      refine working.sound.record fun _ same => ?_
      rw [orderly] at same
      cases same
    exact ⟨sound, next _ _ (working.of_store sound rfl) rfl⟩

/-! ## The source pin -/

/-- The commands that publish a pin are authorised until it is published. -/
theorem Working.authorizes_pinning {command : GitCommand} {checksPin : Bool}
    (working : Working before debt now) (unfinished : debt.outcome.isFinished = false)
    (pinning : debt.operation = .pinSource) (publishes : command.isPinning = true) :
    now.authorizes debt command checksPin = true := by
  rw [World.authorizes, working.requiresReplication unfinished, if_pos pinning, publishes]
  rfl

/-- Every command is authorised while an exact pin is there. -/
theorem Working.authorizes_pinned {command : GitCommand} {checksPin : Bool}
    (working : Working before debt now) (unfinished : debt.outcome.isFinished = false)
    (pinned : debt.operation ≠ .pinSource)
    (exact_pin : now.pins debt.id = some debt.canonicalSourceSha) :
    now.authorizes debt command checksPin = true := by
  rw [World.authorizes, working.requiresReplication unfinished, if_neg pinned, exact_pin,
    beq_self_eq_true, Bool.or_true]
  rfl

/-- The source is looked up before it is pinned. -/
theorem upholds_verifySource {ok : GitAnswer → World → Prop} (working : Working before debt now)
    (next : ∀ answer, ok answer now) :
    (runGit debt.id .verifySource).Upholds (world localFaults) Sound ok stop now := by
  apply upholds_runGit working
  · exact fun _ _ _ => next _
  · intro choice _ _
    simp only [World.runCommand]
    exact ⟨working.sound, next _⟩

/-- The pin is published: without faults it is there afterwards, whoever published it. -/
theorem upholds_publishPin {ok : GitAnswer → World → Prop} (working : Working before debt now)
    (unfinished : debt.outcome.isFinished = false) (pinning : debt.operation = .pinSource)
    (failed : ∀ error later, Working before debt later →
      (localFaults = true ∨ later.pins debt.id = some debt.canonicalSourceSha) →
      ok (.error error) later)
    (published : ∀ later, Working before debt later →
      later.pins debt.id = some debt.canonicalSourceSha → ok (.ok none) later) :
    (runGit debt.id .publishPin).Upholds (world localFaults) Sound ok stop now := by
  have allowed : PinSound debt (some debt.canonicalSourceSha) := ⟨.inr rfl, fun _ _ => rfl⟩
  have exact_pin := working.debtSound.pin.exact
  apply upholds_runGit working
  · intro choice permitted missed
    apply failed _ _ working
    rcases missed with ⟨_, unauthorized⟩ | not_run
    · rw [working.authorizes_pinning unfinished pinning rfl] at unauthorized
      cases unauthorized
    · simp only [world, Choice.sparesLocal, not_run] at permitted
      exact .inl (by simpa [GitCommand.isExternal] using permitted)
  · intro choice permitted _
    simp only [World.runCommand]
    by_cases absent : now.pins debt.id = none
    · have sound := working.sound.withPin working.row allowed
      have worked := working.of_store sound rfl
      have there : (now.withPin debt.id (some debt.canonicalSourceSha)).pins debt.id =
          some debt.canonicalSourceSha := if_pos rfl
      simp only [absent, ↓reduceIte, Choice.answer]
      refine ⟨sound, ?_⟩
      split
      · exact published _ worked there
      · exact failed _ _ worked (.inr there)
    · simp only [absent, ↓reduceIte]
      exact ⟨working.sound, failed _ _ working (.inr (exact_pin.resolve_left absent))⟩

/-- The pin is confirmed exactly when it is there. -/
theorem upholds_confirmPin {ok : GitAnswer → World → Prop} (working : Working before debt now)
    (unfinished : debt.outcome.isFinished = false) (pinning : debt.operation = .pinSource)
    (there : localFaults = true ∨ now.pins debt.id = some debt.canonicalSourceSha)
    (failed : localFaults = true → ∀ error, ok (.error error) now)
    (confirmed : now.pins debt.id = some debt.canonicalSourceSha → ok (.ok none) now) :
    (runGit debt.id .confirmPin).Upholds (world localFaults) Sound ok stop now := by
  apply upholds_runGit working
  · intro choice permitted missed
    apply failed
    rcases missed with ⟨_, unauthorized⟩ | not_run
    · rw [working.authorizes_pinning unfinished pinning rfl] at unauthorized
      cases unauthorized
    · simp only [world, Choice.sparesLocal, not_run] at permitted
      simpa [GitCommand.isExternal] using permitted
  · intro choice permitted _
    refine ⟨?_, ?_⟩
    · simp only [World.runCommand]
      split <;> exact working.sound
    · simp only [World.runCommand]
      by_cases exact_pin : now.pins debt.id = some debt.canonicalSourceSha
      · simp only [exact_pin, ↓reduceIte, Choice.answer]
        by_cases answered : choice.answered = true
        · simp only [answered, ↓reduceIte]
          exact confirmed exact_pin
        · simp only [answered, Bool.false_eq_true, ↓reduceIte]
          apply failed
          simp only [world, Choice.sparesLocal, answered] at permitted
          simpa [GitCommand.isExternal] using permitted
      · simp only [exact_pin, ↓reduceIte]
        exact failed (there.resolve_right exact_pin) _

/-- `publish_replication_source_pin` ends with a pinned source or with the failure in the debt. -/
theorem upholds_publishSourcePin {ok : ReplicationDebt → World → Prop}
    (tolerates : Tolerates localFaults stop) (working : Working before debt now)
    (pinning : debt.operation = .pinSource)
    (next : ∀ row later, Working before row later → SameDebt debt row →
      row.outcome = .failed ∨ row.outcome = .pending → ok row later) :
    (publishSourcePin debt).Upholds (world localFaults) Sound ok stop now := by
  have phase := working.debtSound.phase
  rw [pinning] at phase
  have unfinished : debt.outcome.isFinished = false := by
    revert phase
    cases debt.outcome <;> decide
  -- The pin is there: the debt leaves its first operation.
  have pinned (later : World) (worked : Working before debt later)
      (there : later.pins debt.id = some debt.canonicalSourceSha) :
      (update debt.id .completeSourcePin).Upholds (world localFaults) Sound ok stop later := by
    refine upholds_update worked ?_ there rfl fun later ended _ _ =>
      next _ later ended (sameDebt_change _) (.inr rfl)
    revert phase
    simp only [DebtUpdate.admits, pinning]
    cases debt.outcome <;> decide
  rw [publishSourcePin, Program.upholds_bind]
  apply upholds_verifySource working
  intro answer
  cases answer with
  | error error =>
    refine upholds_update working ?_ trivial rfl fun later ended _ _ =>
      next _ later ended (sameDebt_change _) (.inl rfl)
    revert phase
    simp only [DebtUpdate.admits]
    cases debt.outcome <;> decide
  | ok _ =>
    rw [Program.upholds_bind]
    apply upholds_publishPin working unfinished pinning
    · intro error later worked there
      simp only [Program.upholds_bind]
      apply upholds_confirmPin worked unfinished pinning there
      · exact fun faults error => tolerates faults _ _ (by rintro ⟨⟩)
      · exact pinned later worked
    · exact pinned

/-- The pin of an applied debt is deleted. -/
theorem upholds_runDelete {ok : GitAnswer → World → Prop} (working : Working before debt now)
    (applied : debt.outcome = .applied)
    (there : now.pins debt.id = some debt.canonicalSourceSha)
    (failed : localFaults = true → ∀ error later, Working before debt later →
      ok (.error error) later)
    (deleted : ∀ later, Working before debt later → later.pins debt.id = none →
      ok (.ok none) later) :
    (runGit debt.id .deletePin).Upholds (world localFaults) Sound ok stop now := by
  have unfinished : debt.outcome.isFinished = false := by
    rw [applied]
    rfl
  have pinned : debt.operation ≠ .pinSource := by
    have phase := working.debtSound.phase
    rw [applied] at phase
    revert phase
    cases debt.operation <;> decide
  have allowed : PinSound debt none := by
    refine ⟨.inl rfl, fun _ unreported => absurd ?_ unreported⟩
    rw [applied]
    decide
  apply upholds_runGit working
  · intro choice permitted missed
    apply failed _ _ _ working
    rcases missed with ⟨_, unauthorized⟩ | not_run
    · rw [working.authorizes_pinned unfinished pinned there] at unauthorized
      cases unauthorized
    · simp only [world, Choice.sparesLocal, not_run] at permitted
      simpa [GitCommand.isExternal] using permitted
  · intro choice permitted _
    have sound := working.sound.withPin working.row allowed
    have worked := working.of_store sound rfl
    simp only [World.runCommand, there, ↓reduceIte, Choice.answer]
    refine ⟨sound, ?_⟩
    by_cases answered : choice.answered = true
    · simp only [answered, ↓reduceIte]
      exact deleted _ worked (if_pos rfl)
    · simp only [answered, Bool.false_eq_true, ↓reduceIte]
      apply failed _ _ _ worked
      simp only [world, Choice.sparesLocal, answered] at permitted
      simpa [GitCommand.isExternal] using permitted

/-- The last look at a pin that was deleted. -/
def confirmPinDeleted (debt : ReplicationDebt) : Routine Unit := do
  match ← inspectPin debt.id with
  | none => pure ()
  | some remaining =>
    if remaining ≠ debt.canonicalSourceSha then .raise .pinDrifted else .raise .pinRemains

/-- `compare_and_delete_replication_source_pin` on an applied debt. -/
theorem upholds_compareAndDeletePin {ok : Unit → World → Prop}
    (tolerates : Tolerates localFaults stop) (working : Working before debt now)
    (applied : debt.outcome = .applied)
    (next : ∀ later, Working before debt later → ok () later) :
    (compareAndDeletePin debt).Upholds (world localFaults) Sound ok stop now := by
  have confirmed (later : World) (worked : Working before debt later)
      (gone : localFaults = true ∨ later.pins debt.id = none) :
      (confirmPinDeleted debt).Upholds (world localFaults) Sound ok stop later := by
    rw [confirmPinDeleted, Program.upholds_bind]
    apply upholds_inspectPin tolerates worked.sound
    rcases gone with faults | gone
    · split
      · exact next later worked
      · rw [Program.upholds_ite]
        exact ⟨fun _ => tolerates faults _ _ (by rintro ⟨⟩),
          fun _ => tolerates faults _ _ (by rintro ⟨⟩)⟩
    · rw [gone]
      exact next later worked
  rw [compareAndDeletePin, Program.upholds_bind]
  apply upholds_inspectPin tolerates working.sound
  cases there : now.pins debt.id with
  | none => exact confirmed now working (.inr there)
  | some existing =>
    have exact_pin : existing = debt.canonicalSourceSha := by
      have exact_pin := working.debtSound.pin.exact
      rw [there] at exact_pin
      exact Option.some.inj (exact_pin.resolve_left (by rintro ⟨⟩))
    subst exact_pin
    simp only [Program.upholds_bind, Program.upholds_require]
    refine ⟨fun _ => ?_, fun drifted => absurd trivial drifted⟩
    rw [deletePin, Program.upholds_bind]
    apply upholds_runDelete working applied there
    · intro faults error later worked
      simp only [Program.upholds_bind]
      apply upholds_inspectPin tolerates worked.sound
      split
      · exact confirmed later worked (.inl faults)
      · rw [Program.upholds_ite]
        exact ⟨fun _ => tolerates faults _ _ (by rintro ⟨⟩),
          fun _ => tolerates faults _ _ (by rintro ⟨⟩)⟩
    · exact fun later worked gone => confirmed later worked (.inr gone)

end Effects

end Iq.Replication
