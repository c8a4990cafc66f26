import Iq.Domain.Lines
import Iq.Library.Split
import Iq.Lifecycle.Acceptance

/-!
# Definite landing rejections

How the integrator recognises that the remote rejected a landing push for its stale lease, and what
it makes of such a rejection. The report of `git push --porcelain` is read as bytes; a recognised
rejection moves a direct effort to the target that the next fetch observes. An effort of another
landing variant, and an effort whose fetch fails, are not moved, then or later.
-/

namespace Iq

open Library Library.Transaction Database

/-! ## The report of a push -/

/-- The output of a finished command. -/
structure CommandOutput where
  success : Bool
  stdout : ByteArray

/-- Whether a line begins with the flag of a porcelain status. -/
def isStatusLine (line : List Char) : Bool :=
  line.head?.any [' ', '+', '-', '*', '!', '='].contains

/-- The text after the last colon: the second part of `rsplit_once(':')`. -/
def afterLastColon (mapping : List Char) : Option (List Char) :=
  if mapping.contains ':' then some (mapping.reverse.takeWhile (· != ':')).reverse else none

/-- `definite_force_with_lease_rejection`. -/
def definiteForceWithLeaseRejection (output : CommandOutput) (expectedTargetRef : String) : Bool :=
  if output.success then
    false
  else
    match String.fromUTF8? output.stdout with
    | none => false
    | some report =>
      match (linesOf report).filter isStatusLine with
      | [status] =>
        match status.splitOn '\t' with
        | [flag, mapping, summary] =>
          flag == ['!'] && afterLastColon mapping == some expectedTargetRef.toList &&
            summary == "[rejected] (stale info)".toList
        | _ => false
      | _ => false

/-- A failed push whose report is text with one status line: the stale-lease rejection of the
reference. -/
structure ReportsStaleLease (output : CommandOutput) (targetRef : String) : Prop where
  failed : output.success = false
  reported : ∃ report source, String.fromUTF8? output.stdout = some report ∧ '\t' ∉ source ∧
    (linesOf report).filter isStatusLine =
      ['!' :: '\t' :: (source ++ ':' :: targetRef.toList ++
        '\t' :: "[rejected] (stale info)".toList)]
  plain : '\t' ∉ targetRef.toList ∧ ':' ∉ targetRef.toList

/-- A text splits into three pieces exactly when it joins them and they hold no separator. -/
theorem splitOn_eq_three {separator : Char} {text first second third : List Char} :
    text.splitOn separator = [first, second, third] ↔
      text = first ++ separator :: (second ++ separator :: third) ∧
        separator ∉ first ∧ separator ∉ second ∧ separator ∉ third := by
  have joined : [separator].intercalate [first, second, third] =
      first ++ separator :: (second ++ separator :: third) := by
    simp [List.intercalate, List.intersperse]
  rw [splitOn_eq_iff, joined]
  simp

/-- The text after the last colon is what follows a colon and holds none. -/
theorem afterLastColon_eq_some {mapping target : List Char} :
    afterLastColon mapping = some target ↔
      ':' ∉ target ∧ ∃ source, mapping = source ++ ':' :: target := by
  unfold afterLastColon
  constructor
  · intro found
    split at found
    · rename_i colon
      cases found
      refine ⟨fun mem => ?_, ?_⟩
      · have free := List.mem_takeWhile_imp (List.mem_reverse.mp mem)
        simp at free
      · have present : ':' ∈ mapping.reverse := by simpa using colon
        have parts := @List.takeWhile_append_dropWhile _ (· != ':') mapping.reverse
        cases rest : mapping.reverse.dropWhile (· != ':') with
        | nil =>
          have missing := List.dropWhile_eq_nil_iff.mp rest ':' present
          simp at missing
        | cons head before =>
          have stops := List.head?_dropWhile_not (· != ':') mapping.reverse
          rw [rest] at stops parts
          obtain rfl : head = ':' := by simpa using stops
          have turned := congrArg List.reverse parts
          rw [List.reverse_append, List.reverse_cons, List.reverse_reverse] at turned
          exact ⟨before.reverse, turned.symm.trans (by simp)⟩
    · cases found
  · rintro ⟨free, source, rfl⟩
    rw [if_pos (by simp), Option.some_inj]
    have stops : (target.reverse ++ ':' :: source.reverse).takeWhile (· != ':') =
        target.reverse := by
      rw [List.takeWhile_append_of_pos]
      · simp
      · intro character mem
        have distinct : character ≠ ':' := by
          rintro rfl
          exact free (List.mem_reverse.mp mem)
        simpa using distinct
    have reversed : (source ++ ':' :: target).reverse =
        target.reverse ++ ':' :: source.reverse := by simp
    rw [reversed, stops, List.reverse_reverse]

/-- A rejection is recognised exactly when the failed push reports it. -/
theorem definiteForceWithLeaseRejection_eq_true {output : CommandOutput} {targetRef : String} :
    definiteForceWithLeaseRejection output targetRef = true ↔
      ReportsStaleLease output targetRef := by
  have summary : '\t' ∉ "[rejected] (stale info)".toList := by decide
  unfold definiteForceWithLeaseRejection
  constructor
  · intro recognised
    split at recognised
    · cases recognised
    · rename_i failed
      split at recognised
      · cases recognised
      · rename_i report text
        split at recognised
        · rename_i status statuses
          split at recognised
          · rename_i flag mapping summary fields
            simp only [Bool.and_eq_true, beq_iff_eq] at recognised
            rcases recognised with ⟨⟨rfl, target⟩, rfl⟩
            rcases afterLastColon_eq_some.mp target with ⟨colon, source, rfl⟩
            rcases splitOn_eq_three.mp fields with ⟨joined, -, tab, -⟩
            simp only [List.mem_append, List.mem_cons, not_or] at tab
            refine ⟨Bool.eq_false_iff.mpr failed, ⟨report, source, text, tab.1, ?_⟩, tab.2.2, colon⟩
            rw [statuses, joined]
            rfl
          · cases recognised
        · cases recognised
  · rintro ⟨failed, ⟨report, source, text, tab, statuses⟩, plain, colon⟩
    have fields : ('!' :: '\t' :: (source ++ ':' :: targetRef.toList ++
        '\t' :: "[rejected] (stale info)".toList)).splitOn '\t' =
          [['!'], source ++ ':' :: targetRef.toList, "[rejected] (stale info)".toList] := by
      refine splitOn_eq_three.mpr ⟨rfl, by decide, ?_, summary⟩
      simp [tab, plain]
    have target : afterLastColon (source ++ ':' :: targetRef.toList) = some targetRef.toList :=
      afterLastColon_eq_some.mpr ⟨colon, source, rfl⟩
    simp only [failed, text, statuses, fields, target]
    simp

/-! ## The effort of a rejected push -/

/-- What fetching and reading the target gives after a rejection. -/
inductive TargetFetch where
  | failed (error : String)
  | unread
  | moved (targetSha : String)

/-- The blocker of `block_and_get` for a fetch that failed while integrating. -/
def fetchBlocker (error : String) : InfrastructureBlocker where
  component := .filesystem
  operation := "integrating"
  cause := .unavailable s!"fetch after definite compare-and-set rejection failed: {error}"

/-- `recover_definite_cas_rejection` up to the target move of `merge_moved_base`. -/
def recoverDefiniteCasRejection (effortId commandId expectedTargetSha : String)
    (fetched : TargetFetch) (stamp : Stamp) (db : Database) : Database :=
  match fetched with
  | .failed error => store.step db (.blockInfrastructure effortId (fetchBlocker error) stamp)
  | .unread => db
  | .moved targetSha =>
    match authorizeDefiniteLandingRejection effortId commandId expectedTargetSha db with
    | .ok (rejection, later) =>
      store.step later (.beginTargetMove effortId targetSha (some rejection) stamp)
    | .error _ => db

/-- The operation begins a target move with a landing rejection. -/
def Operation.movesAfterRejection : Operation → Bool
  | .beginTargetMove _ _ (some _) _ => true
  | _ => false

variable {db : Database} {effort : IntegrationEffort} {landing : LandingUncertain}
  {effortId commandId expectedTargetSha : String} {fetched : TargetFetch} {stamp : Stamp}

/-- An effort of a reachable database whose landing command was released. -/
structure Database.Released (db : Database) (effort : IntegrationEffort)
    (landing : LandingUncertain) : Prop where
  reachable : store.Reachable db
  stored : db.efforts.find? effort.id = some effort
  uncertain : effort.state = .landingUncertain landing

/-- The pending target move of a view that a rejected command caused. -/
def EffortView.MovesAfterRejection (view : EffortView) (commandId expectedTargetSha : String) :
    Prop :=
  ∃ effort pending, view.effort = some effort ∧ effort.state = .targetMovePending pending ∧
    pending.cause = .staleLandingLease commandId expectedTargetSha

/-- A suspended state is never a target move. -/
theorem ResumeState.restore_ne_targetMovePending (resume : ResumeState)
    (pending : TargetMovePending) : resume.restore ≠ .targetMovePending pending := by
  cases resume <;> nofun

/-- Only a target move with a rejection makes the pending move of a rejected command. -/
theorem EffortStep.movesAfterRejection {operation : Operation} {view after : EffortView}
    (step : EffortStep operation view after) (moves : operation.movesAfterRejection = false)
    (waits : after.MovesAfterRejection commandId expectedTargetSha) :
    view.MovesAfterRejection commandId expectedTargetSha := by
  rcases waits with ⟨row, pending, stored, moving, cause⟩
  have written : ∀ {rejection before effort state failedCycles},
      Writes rejection before effort state failedCycles after →
        state = .targetMovePending pending := by
    intro rejection before effort state failedCycles writes
    rw [writes.row_eq stored] at moving
    exact moving
  cases step with
  | create | replace =>
    cases stored
    cases moving
  | surrenderCancelled | acknowledgeCancelled | deleteDebt =>
    exact ⟨row, pending, stored, moving, cause⟩
  | acknowledgeLaunching _ _ fails | acknowledgeRunning _ fails | reset _ fails =>
    cases written fails.writes
  | accept _ _ writes =>
    rw [writes.row_eq stored] at moving
    cases moving
  | @moveTarget _ _ _ _ _ rejection _ movable captured writes =>
    cases rejection with
    | none =>
      obtain rfl := IntegrationEffortState.targetMovePending.inj (written writes)
      cases cause
    | some rejection => cases moves
  | retry _ writes | resumeProvider _ writes =>
    exact absurd (written writes) (ResumeState.restore_ne_targetMovePending _ _)
  | @record _ _ _ building _ _ _ _ _ _ _ writes =>
    have state := written writes
    unfold CandidateBuilding.candidateState at state
    split at state <;> cases state
  | consume _ writes | reject _ _ _ writes =>
    have state := written writes
    unfold EffortView.failedState at state
    split at state <;> cases state
  | _ => cases written ‹_›

/-- A run without such target moves leaves no pending move of a rejected command. -/
theorem not_movesAfterRejection_of_run (reachable : store.Reachable db)
    (unmoved : ¬(db.view effortId).MovesAfterRejection commandId expectedTargetSha)
    (operations : List Operation)
    (others : ∀ operation ∈ operations, operation.movesAfterRejection = false) :
    ¬((store.run db operations).view effortId).MovesAfterRejection commandId
      expectedTargetSha := by
  have rule := @Machine.run_keeps_while _ _ store
    (fun now => store.Reachable now ∧
      ¬(now.view effortId).MovesAfterRejection commandId expectedTargetSha)
    (fun _ operation => operation.movesAfterRejection = false)
  refine (rule ?_ ⟨reachable, unmoved⟩ operations ?_).2
  · rintro now operation ⟨reached, still⟩ moves
    refine ⟨reached.step operation, ?_⟩
    rcases settle_cases operation.transaction now with aborted | ⟨outcome, commits⟩
    · rw [store_step, aborted]
      exact still
    · rcases operation.stepped (sound_of_reachable reached) commits effortId with same | step
      · rw [store_step, same]
        exact still
      · exact fun waits => still (step.movesAfterRejection moves waits)
  · intro before operation rest split
    exact others operation (by rw [split]; simp)

section Recovery

variable (released : db.Released effort landing)
include released

/-- The command of a direct effort is authorised as the one that was rejected. -/
theorem authorizeDefiniteLandingRejection_commits (direct : effort.landingVariant = .direct) :
    (authorizeDefiniteLandingRejection effort.id landing.commandId
      landing.expectedTargetSha).Commits db
        ⟨effort.id, landing.commandId, landing.expectedTargetSha⟩ db := by
  rcases released with ⟨reachable, stored, uncertain⟩
  have mem := (Table.find?_eq_some.mp stored).1
  rcases identified_of_reachable reachable effort mem with ⟨format, of_item, identified⟩
  have command : isExactText landing.commandId = true :=
    identified.command _ (by rw [uncertain]; rfl)
  have expected : format.isOid landing.expectedTargetSha = true := by
    refine identified.landing _ ?_
    rw [uncertain]
    exact List.mem_cons_of_mem _ (List.mem_singleton_self _)
  have valid := ((linked_of_reachable reachable).owned effort mem).valid
  rcases (linked_of_reachable reachable).serves mem (by rw [uncertain]; rfl) with ⟨item, serves⟩
  rcases serves.admitted with ⟨policy, policyOf, -⟩
  have same := Option.some_inj.mp ((formatOf_eq_some policyOf).symm.trans of_item)
  simp only [authorizeDefiniteLandingRejection, effortObjectFormat, commits_ensure_bind,
    commits_requiredEffort_bind, commits_itemObjectFormat_bind]
  refine ⟨(), check_eq_ok.mpr command, effort, stored, valid, policy, policyOf, (), ?_, (), ?_,
    commits_pure.mpr ⟨rfl, rfl⟩⟩
  · rw [same]
    exact check_eq_ok.mpr expected
  · have held : effort.state.containsExternalLandingAuthority = true := by rw [uncertain]; rfl
    exact (requireTargetMoveAuthority_eq_ok held).mpr
      ⟨_, landing, rfl, uncertain, direct, rfl, rfl, rfl⟩

/-- The command of any other effort is not. -/
theorem direct_of_authorized {rejection : DefiniteLandingRejection} {later : Database}
    (commits : (authorizeDefiniteLandingRejection effort.id commandId expectedTargetSha).Commits db
      rejection later) : effort.landingVariant = .direct := by
  simp only [authorizeDefiniteLandingRejection, effortObjectFormat, commits_ensure_bind,
    commits_requiredEffort_bind, commits_itemObjectFormat_bind] at commits
  rcases commits with ⟨_, -, row, stored, -, _, -, _, -, _, authority, -⟩
  obtain rfl : effort = row := Option.some_inj.mp (released.stored.symm.trans stored)
  have held : effort.state.containsExternalLandingAuthority = true := by
    rw [released.uncertain]
    rfl
  rcases (requireTargetMoveAuthority_eq_ok held).mp authority with ⟨_, _, -, names⟩
  exact names.direct

/-- Nothing waits for a target move while the landing is uncertain. -/
theorem not_movesAfterRejection_released :
    ¬(db.view effort.id).MovesAfterRejection commandId expectedTargetSha := by
  rintro ⟨row, pending, stored, moving, -⟩
  obtain rfl : effort = row := Option.some_inj.mp (released.stored.symm.trans stored)
  rw [released.uncertain] at moving
  cases moving

/-- A direct effort whose target was fetched waits for the move of the rejected command. -/
theorem movesAfterRejection_of_direct (direct : effort.landingVariant = .direct)
    {format : GitObjectFormat} {targetSha : String}
    (of_item : db.formatOf effort.itemId = some format) (observed : format.isOid targetSha = true) :
    ((recoverDefiniteCasRejection effort.id landing.commandId landing.expectedTargetSha
      (.moved targetSha) stamp db).view effort.id).MovesAfterRejection landing.commandId
        landing.expectedTargetSha := by
  have authorized := authorizeDefiniteLandingRejection_commits released direct
  rcases released with ⟨reachable, stored, uncertain⟩
  have held : effort.state.containsExternalLandingAuthority = true := by rw [uncertain]; rfl
  have authority : requireTargetMoveAuthority effort
      (some ⟨effort.id, landing.commandId, landing.expectedTargetSha⟩) = .ok () :=
    (requireTargetMoveAuthority_eq_ok held).mpr ⟨_, landing, rfl, uncertain, direct, rfl, rfl, rfl⟩
  rcases @beginTargetMove_accepted db effort
    (some ⟨effort.id, landing.commandId, landing.expectedTargetSha⟩) effort.id targetSha stamp
    format reachable stored (.landingUncertain landing) uncertain (by rw [uncertain]; rfl)
    (by rw [uncertain]; nofun) of_item observed authority with ⟨later, commits, moved⟩
  have settled : recoverDefiniteCasRejection effort.id landing.commandId landing.expectedTargetSha
      (.moved targetSha) stamp db = later := by
    simp only [recoverDefiniteCasRejection]
    rw [show authorizeDefiniteLandingRejection effort.id landing.commandId
      landing.expectedTargetSha db = _ from authorized]
    exact settle_of_commits (commits_map.mpr ⟨(), commits, rfl⟩)
  rw [settled]
  exact ⟨_, _, moved, rfl, rfl⟩

/-- The recovery of a rejection as a run, unless the effort is direct and its target was fetched. -/
theorem recoverDefiniteCasRejection_run
    (unmoved : ¬(effort.landingVariant = .direct ∧ ∃ targetSha, fetched = .moved targetSha)) :
    ∃ operations : List Operation,
      (∀ operation ∈ operations, operation.movesAfterRejection = false) ∧
        recoverDefiniteCasRejection effort.id landing.commandId landing.expectedTargetSha fetched
          stamp db = store.run db operations := by
  cases fetched with
  | failed error =>
    refine ⟨[.blockInfrastructure effort.id (fetchBlocker error) stamp], ?_, rfl⟩
    exact fun operation mem => by rw [List.mem_singleton.mp mem]; rfl
  | unread => exact ⟨[], List.forall_mem_nil _, rfl⟩
  | moved targetSha =>
    refine ⟨[], List.forall_mem_nil _, ?_⟩
    simp only [recoverDefiniteCasRejection]
    split
    · rename_i rejection later commits
      exact absurd ⟨direct_of_authorized released commits, targetSha, rfl⟩ unmoved
    · rfl

end Recovery

/-- A stale-lease rejection is recognised exactly, and its command is authorised exactly for a
direct effort. The effort comes to the pending target move of that command if it is direct and the
fetch gives the target; otherwise it does not, and no later run without a rejection brings it
there. -/
theorem rejection_recovered_iff (output : CommandOutput) (targetRef : String)
    (released : db.Released effort landing)
    (observed : ∀ targetSha, fetched = .moved targetSha →
      ∃ format, db.formatOf effort.itemId = some format ∧ format.isOid targetSha = true) :
    (definiteForceWithLeaseRejection output targetRef = true ↔
        ReportsStaleLease output targetRef) ∧
      ((∃ rejection later, (authorizeDefiniteLandingRejection effort.id landing.commandId
          landing.expectedTargetSha).Commits db rejection later) ↔
        effort.landingVariant = .direct) ∧
      let recovered := recoverDefiniteCasRejection effort.id landing.commandId
        landing.expectedTargetSha fetched stamp db
      ((recovered.view effort.id).MovesAfterRejection landing.commandId landing.expectedTargetSha ↔
          effort.landingVariant = .direct ∧ ∃ targetSha, fetched = .moved targetSha) ∧
        (¬(effort.landingVariant = .direct ∧ ∃ targetSha, fetched = .moved targetSha) →
          ∀ operations : List Operation,
            (∀ operation ∈ operations, operation.movesAfterRejection = false) →
            ¬((store.run recovered operations).view effort.id).MovesAfterRejection
              landing.commandId landing.expectedTargetSha) := by
  have never : ¬(effort.landingVariant = .direct ∧ ∃ targetSha, fetched = .moved targetSha) →
      ∀ operations : List Operation,
        (∀ operation ∈ operations, operation.movesAfterRejection = false) →
        ¬((store.run (recoverDefiniteCasRejection effort.id landing.commandId
          landing.expectedTargetSha fetched stamp db) operations).view
            effort.id).MovesAfterRejection landing.commandId landing.expectedTargetSha := by
    intro unmoved operations others
    rcases recoverDefiniteCasRejection_run released unmoved with ⟨first, first_others, same⟩
    rw [same, ← Machine.run_append]
    refine not_movesAfterRejection_of_run released.reachable
      (not_movesAfterRejection_released released) _ fun operation mem => ?_
    rcases List.mem_append.mp mem with mem | mem
    · exact first_others operation mem
    · exact others operation mem
  refine ⟨definiteForceWithLeaseRejection_eq_true, ⟨?_, fun direct => ?_⟩, ⟨fun waits => ?_, ?_⟩,
    never⟩
  · rintro ⟨rejection, later, commits⟩
    exact direct_of_authorized released commits
  · exact ⟨_, _, authorizeDefiniteLandingRejection_commits released direct⟩
  · by_contra unmoved
    exact never unmoved [] (List.forall_mem_nil _) waits
  · rintro ⟨direct, targetSha, rfl⟩
    rcases observed targetSha rfl with ⟨format, of_item, oid⟩
    exact movesAfterRejection_of_direct released direct of_item oid

namespace Sample

/-- The commit to which the target moved. -/
def movedSha : String := "6666666666666666666666666666666666666666"

/-- The report of a push that the remote rejected for its stale lease. -/
def staleLease : CommandOutput where
  success := false
  stdout := "To /canonical\n!\t444:refs/heads/main\t[rejected] (stale info)\nDone\n".toUTF8

/-- The release of a direct landing, and of the squash of a submission. -/
def directRelease : Database := after (candidate ++ released)

/-- The release of the squash of a submission. -/
def squashRelease : Database := afterSubmission squashed

/-- The effort whose direct landing was released. -/
def directEffort : IntegrationEffort := (effortOf directRelease).get (by decide +kernel)

/-- The effort whose squash was released. -/
def squashEffort : IntegrationEffort := (effortOf squashRelease).get (by decide +kernel)

/-- The state of a landing that was released. -/
def releasedLanding : LandingUncertain :=
  ⟨candidateSha, targetSha, "command", "command_gate_released"⟩

/-- The sample's direct landing was released. -/
theorem directRelease_released : directRelease.Released directEffort releasedLanding where
  reachable := reachable _
  stored := by
    have named : directEffort.id = "effort" := by decide +kernel
    rw [named]
    exact (Option.some_get _).symm
  uncertain := by decide +kernel

/-- The sample's squash landing was released. -/
theorem squashRelease_released : squashRelease.Released squashEffort releasedLanding where
  reachable := reachable_submission _
  stored := by
    have named : squashEffort.id = "effort" := by decide +kernel
    rw [named]
    exact (Option.some_get _).symm
  uncertain := by decide +kernel

end Sample

/-- The rejected push of a direct sample effort is recognised and recovered. -/
theorem rejection_recovered_iff_direct :
    definiteForceWithLeaseRejection Sample.staleLease "refs/heads/main" = true ∧
      ((recoverDefiniteCasRejection Sample.directEffort.id "command" Sample.targetSha
        (.moved Sample.movedSha) (Sample.stampOf "moved") Sample.directRelease).view
          Sample.directEffort.id).MovesAfterRejection "command" Sample.targetSha := by
  have recovered := @rejection_recovered_iff _ _ _ (.moved Sample.movedSha) (Sample.stampOf "moved")
    Sample.staleLease "refs/heads/main" Sample.directRelease_released fun targetSha same => by
      cases same
      exact ⟨.sha1, by decide +kernel, by decide +kernel⟩
  refine ⟨by decide +kernel, recovered.2.2.1.mpr ⟨by decide +kernel, _, rfl⟩⟩

/-- The rejected push of a squash is recognised, yet nothing brings its effort to a target move:
the authorisation of its own command is refused. -/
theorem squash_rejection_stranded :
    Sample.squashRelease.Released Sample.squashEffort Sample.releasedLanding ∧
      definiteForceWithLeaseRejection Sample.staleLease "refs/heads/main" = true ∧
      (authorizeDefiniteLandingRejection Sample.squashEffort.id "command"
        Sample.targetSha).Aborts Sample.squashRelease
          (.refused "definite landing rejection differs from released landing authority") ∧
      ¬((recoverDefiniteCasRejection Sample.squashEffort.id "command" Sample.targetSha
        (.moved Sample.movedSha) (Sample.stampOf "moved") Sample.squashRelease).view
          Sample.squashEffort.id).MovesAfterRejection "command" Sample.targetSha := by
  have squash : Sample.squashEffort.landingVariant ≠ .direct := by decide +kernel
  refine ⟨Sample.squashRelease_released, by decide +kernel,
    reason?_eq_some.mp (by decide +kernel), ?_⟩
  rcases @recoverDefiniteCasRejection_run _ _ _ (.moved Sample.movedSha) (Sample.stampOf "moved")
    Sample.squashRelease_released (fun direct => squash direct.1) with ⟨operations, others, same⟩
  rw [show recoverDefiniteCasRejection Sample.squashEffort.id "command" Sample.targetSha _ _ _ = _
    from same]
  exact not_movesAfterRejection_of_run Sample.squashRelease_released.reachable
    (not_movesAfterRejection_released Sample.squashRelease_released) operations others

end Iq
