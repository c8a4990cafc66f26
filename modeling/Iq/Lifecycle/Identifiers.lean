import Mathlib.Data.List.TakeWhile
import Iq.Library.Sql
import Iq.Library.Trim
import Iq.Lifecycle.Footprint
import Iq.Lifecycle.LandingEvidence

/-!
# Identifiers of an effort

The object identifiers of an effort are full identifiers in the format of its repository, and the
command that released its landing is exact text. The format of an item never changes, the columns
of an effort change only when it is created, replaced or recomposed, and the operations that bring
an identifier into its state check it first.
-/

namespace Iq

open Library Library.Sql Library.Transaction

variable {view before after : EffortView} {effort row : IntegrationEffort} {operation : Operation}
  {objectId : String} {db later : Database} {rejection : Option DefiniteLandingRejection}
  {state : IntegrationEffortState} {failedCycles : Nat} {candidateSha : String}

/-! ## Hexadecimal text -/

/-- A character whose bytes are hexadecimal digits is one, and has one byte. -/
theorem isHexDigit_of_bytes {character : Char}
    (digits : ∀ byte ∈ String.utf8EncodeChar character, isAsciiHexDigit byte = true) :
    isHexDigit character = true ∧ (String.utf8EncodeChar character).length = 1 := by
  unfold String.utf8EncodeChar at digits ⊢
  by_cases ascii : character.val.toNat ≤ 0x7f
  · simp only [ascii, if_true] at digits ⊢
    have digit := digits _ (List.mem_singleton.mpr rfl)
    refine ⟨?_, rfl⟩
    have small : character.val.toNat % 256 = character.val.toNat := by omega
    simp only [isAsciiHexDigit, isAsciiDigit, UInt8.toNat_ofNat', small, Nat.reducePow, 
      Bool.or_eq_true, Bool.and_eq_true, decide_eq_true_eq] at digit
    simp only [isHexDigit, Bool.or_eq_true, Bool.and_eq_true, decide_eq_true_eq, Char.le_def,
      UInt32.le_iff_toNat_le]
    have same : character.toNat = character.val.toNat := rfl
    simp
    omega
  · exfalso
    simp only [ascii, if_false] at digits
    split at digits
    · have digit := digits _ List.mem_cons_self
      simp only [isAsciiHexDigit, isAsciiDigit, UInt8.toNat_ofNat', Nat.reducePow,
        Bool.or_eq_true, Bool.and_eq_true, decide_eq_true_eq] at digit
      omega
    · split at digits
      · have digit := digits _ List.mem_cons_self
        simp only [isAsciiHexDigit, isAsciiDigit, UInt8.toNat_ofNat', Nat.reducePow,
          Bool.or_eq_true, Bool.and_eq_true, decide_eq_true_eq] at digit
        omega
      · have digit := digits _ List.mem_cons_self
        simp only [isAsciiHexDigit, isAsciiDigit, UInt8.toNat_ofNat', Nat.reducePow,
          Bool.or_eq_true, Bool.and_eq_true, decide_eq_true_eq] at digit
        omega


/-- A hexadecimal text consists of that many digits. -/
theorem isHexDigit_of_isHexadecimal {digits : Nat} {value : String}
    (hexadecimal : isHexadecimal digits value = true) :
    (∀ character ∈ value.toList, isHexDigit character = true) ∧ value.toList.length = digits := by
  rcases Bool.and_eq_true_iff.mp hexadecimal with ⟨size, bytes⟩
  have hex : ∀ character ∈ value.toList, isHexDigit character = true ∧
      (String.utf8EncodeChar character).length = 1 := by
    intro character mem
    apply isHexDigit_of_bytes
    intro byte encoded
    apply List.all_eq_true.mp bytes
    rw [bytesOf_eq_flatMap]
    exact List.mem_flatMap.mpr ⟨character, mem, encoded⟩
  refine ⟨fun character mem => (hex character mem).1, ?_⟩
  have sizes : (bytesOf value).length = digits := by
    rw [← beq_iff_eq.mp size]
    rfl
  rw [← sizes, bytesOf_eq_flatMap, List.length_flatMap,
    List.map_congr_left fun character mem => (hex character mem).2, List.map_const',
    List.sum_replicate_nat, Nat.mul_one]

/-- No hexadecimal digit is white space. -/
theorem isWhiteSpace_of_isHexDigit {character : Char} (digit : isHexDigit character = true) :
    isWhiteSpace character = false := by
  simp only [isHexDigit, Bool.or_eq_true, Bool.and_eq_true, decide_eq_true_eq, Char.le_def,
    UInt32.le_iff_toNat_le] at digit
  have same : character.toNat = character.val.toNat := rfl
  simp at digit
  simp only [isWhiteSpace, same, Bool.or_eq_false_iff, Bool.and_eq_false_iff, decide_eq_false_iff_not,
    beq_eq_false_iff_ne]
  omega

/-- Nothing is dropped when all stays. -/
theorem dropWhile_of_all {α : Type} {drops : α → Bool} {values : List α}
    (stays : ∀ value ∈ values, drops value = false) : values.dropWhile drops = values := by
  cases values with
  | nil => rfl
  | cons first rest => simp [stays first List.mem_cons_self]

/-- A text of hexadecimal digits is exact text. -/
theorem isExactText_of_isHexadecimal {digits : Nat} {value : String} (some_digits : digits ≠ 0)
    (hexadecimal : isHexadecimal digits value = true) : isExactText value = true := by
  rcases isHexDigit_of_isHexadecimal hexadecimal with ⟨hex, size⟩
  have black : ∀ character ∈ value.toList, isWhiteSpace character = false :=
    fun character mem => isWhiteSpace_of_isHexDigit (hex character mem)
  have there : value.toList ≠ [] := by
    intro empty
    rw [empty] at size
    exact some_digits size.symm
  have trimmed : trimCharacters value.toList = value.toList := by
    unfold trimCharacters
    rw [dropWhile_of_all black, dropWhile_of_all fun character mem => black character (by simpa using mem),
      List.reverse_reverse]
  simp [isExactText, isTrimmed, trimmed, there]

/-- A full object identifier is exact text. -/
theorem isExactText_of_isOid {format : GitObjectFormat} {value : String}
    (oid : format.isOid value = true) : isExactText value = true :=
  isExactText_of_isHexadecimal (by cases format <;> nofun) oid

/-- The line of an exact text is trimmed to the text. -/
theorem trimCharacters_line {value : String} (exact_text : isExactText value = true) :
    trimCharacters (value ++ "\n").toList = value.toList := by
  have same : trimCharacters value.toList = value.toList := by
    simp only [isExactText, isTrimmed, Bool.and_eq_true, beq_iff_eq] at exact_text
    exact exact_text.2
  rw [String.toList_append]
  exact (Library.trim_concat (by decide)).trans same

/-! ## Object formats -/

/-- The object format of the repository of an item. -/
def Database.formatOf (db : Database) (itemId : String) : Option GitObjectFormat :=
  (db.policyOf itemId).map RepositoryPolicy.objectFormat

/-- An item has an object format. -/
def Database.HasFormat (itemId : String) (format : GitObjectFormat) (db : Database) : Prop :=
  db.formatOf itemId = some format

variable {itemId : String} {format : GitObjectFormat}

instance : FramesItems (Database.HasFormat itemId format) where
  items db chosen change kept same holds := by
    unfold Database.HasFormat Database.formatOf Database.policyOf at holds ⊢
    rw [Table.find?_update]
    cases found : db.items.find? itemId with
    | none =>
      rw [found] at holds
      cases holds
    | some item =>
      have repository : (Table.rewrite chosen change item).repoKey = item.repoKey := by
        unfold Table.rewrite
        split
        · exact congrArg Prod.fst (same item).admission
        · rfl
      rw [found] at holds
      simpa only [Option.map_some, Option.bind_some, repository] using holds

instance : FramesPolicies (Database.HasFormat itemId format) where
  policies db chosen state holds := by
    unfold Database.HasFormat Database.formatOf Database.policyOf at holds ⊢
    cases found : db.items.find? itemId with
    | none =>
      rw [found] at holds
      cases holds
    | some item =>
      rw [found, Option.bind_some] at holds
      have rewritten : ∀ row : RepositoryPolicy, (Table.rewrite chosen (fun row =>
          { row with operationState := state }) row).objectFormat = row.objectFormat := by
        intro row
        unfold Table.rewrite
        split <;> rfl
      rw [Option.bind_some, Table.find?_update, Option.map_map, ← holds]
      exact congrArg (fun read => Option.map read _) (funext rewritten)

/-- The format of an item tolerates changes of other tables. -/
theorem Database.HasFormat.tolerates (table : TableName) :
    Tolerates (Database.HasFormat itemId format) table := by
  by_cases items : table = .items
  · subst items
    exact inferInstanceAs (FramesItems _)
  by_cases policies : table = .policies
  · subst policies
    exact inferInstanceAs (FramesPolicies _)
  refine .of_ignores ⟨fun db later same holds => ?_⟩
  have elsewhere : ∀ now : Database, (now.without table).formatOf itemId = now.formatOf itemId := by
    cases table <;> first | exact absurd rfl items | exact absurd rfl policies | exact fun _ => rfl
  have read : later.formatOf itemId = db.formatOf itemId :=
    @Database.read_of_without _ (Database.formatOf · itemId) _ _ _ elsewhere same
  exact read.trans holds

/-- The object format of an item never changes. -/
theorem Operation.keepsFormat {outcome : Outcome}
    (commits : operation.transaction.Commits db outcome later)
    (holds : db.formatOf itemId = some format) : later.formatOf itemId = some format := by
  have kept : operation.transaction.Preserves (Database.HasFormat itemId format) :=
    Operation.preserves fun table _ => Database.HasFormat.tolerates table
  exact kept.of_commits holds commits

/-! ## Object identifiers of landing states -/

/-- A full object identifier of one of the two formats. -/
def IsObjectId (value : String) : Prop := ∃ format : GitObjectFormat, format.isOid value = true

/-- The object identifiers that a suspended state would land with. -/
def ResumeState.landingIds : ResumeState → List String
  | .reviewRequired value => [value.candidateSha]
  | .candidateReady value => [value.candidateSha]
  | .validating value => [value.candidateSha]
  | .landing value => [value.candidateSha, value.expectedTargetSha]
  | .landingUncertain value => [value.candidateSha, value.expectedTargetSha]
  | .agentReady _ | .candidateBuilding _ => []

/-- The object identifiers that a state lands with or would land with. -/
def IntegrationEffortState.landingIds : IntegrationEffortState → List String
  | .reviewRequired value => [value.candidateSha]
  | .candidateReady value => [value.candidateSha]
  | .validating value => [value.candidateSha]
  | .landing value => [value.candidateSha, value.expectedTargetSha]
  | .landingUncertain value => [value.candidateSha, value.expectedTargetSha]
  | .infrastructureBlocked value | .providerBlocked value => value.resume.landingIds
  | .integrated value => [value.candidateSha]
  | _ => []

/-- A suspended state has the landing ids of the state it restores. -/
theorem ResumeState.landingIds_restore (resume : ResumeState) :
    resume.restore.landingIds = resume.landingIds := by
  cases resume <;> rfl

/-- The object identifier that an operation brings into a state. -/
def Operation.Brings (objectId : String) : Operation → Prop
  | .recordCandidate _ observation _ => observation.candidateSha = objectId
  | .beginLanding _ expectedTargetSha _ _ _ _ => expectedTargetSha = objectId
  | _ => False

/-- Where the object identifiers of a written state come from. -/
def FollowsIds (operation : Operation) (view : EffortView) (row : IntegrationEffort) : Prop :=
  ∀ objectId ∈ row.state.landingIds, operation.Brings objectId ∨
    ∃ effort, view.effort = some effort ∧ objectId ∈ effort.state.landingIds

/-- A state with the identifiers of the state before it, or fewer. -/
theorem followsIds_of_subset (stored : view.effort = some effort)
    (subset : row.state.landingIds ⊆ effort.state.landingIds) : FollowsIds operation view row :=
  fun _ mem => .inr ⟨effort, stored, subset mem⟩

/-- A state without landing ids follows. -/
theorem followsIds_of_free (free : row.state.landingIds = []) : FollowsIds operation view row := by
  intro objectId mem
  rw [free] at mem
  cases mem

/-- The state after a failure has no landing ids. -/
theorem EffortView.landingIds_failedState {cycleId eventId : String} {failure : CycleFailure}
    {count next : Nat} : (view.failedState cycleId failure count next eventId).landingIds = [] := by
  unfold EffortView.failedState
  split <;> rfl

/-- The state of a built candidate has no landing ids. -/
theorem CandidateBuilding.landingIds_candidateState (building : CandidateBuilding)
    {reviewId : String} :
    (building.candidateState candidateSha reviewId).landingIds = [candidateSha] := by
  unfold candidateState
  split <;> rfl

/-- Every step takes the identifiers of its state from the state before, or brings them. -/
theorem EffortStep.followsIds (step : EffortStep operation view after)
    (stored : after.effort = some row) : FollowsIds operation view row := by
  cases step with
  | create | replace =>
    cases stored
    exact followsIds_of_free rfl
  | surrenderCancelled found | acknowledgeCancelled found =>
    obtain rfl := Option.some_inj.mp (found.symm.trans stored)
    exact followsIds_of_subset found (List.Subset.refl _)
  | deleteDebt => exact followsIds_of_subset stored (List.Subset.refl _)
  | prepare _ _ _ _ writes | surrender _ _ writes | started _ _ _ _ _ _ _ writes
  | result _ writes | resetBuild _ writes | requireGuidance _ _ _ writes | answer _ _ writes
  | retryLimit _ writes | moveTarget _ _ writes | requestChanges _ _ writes | cancel _ _ _ writes
  | markReplacement _ writes | accept _ _ writes | recompose _ _ _ writes =>
    rw [writes.row_eq stored]
    exact followsIds_of_free rfl
  | acknowledgeLaunching _ _ fails | acknowledgeRunning _ fails | reset _ fails =>
    rw [fails.writes.row_eq stored]
    exact followsIds_of_free rfl
  | consume _ writes | reject _ _ _ writes =>
    rw [writes.row_eq stored]
    exact followsIds_of_free EffortView.landingIds_failedState
  | record built same opened unopened writes =>
    rw [writes.row_eq stored]
    intro objectId mem
    rw [CandidateBuilding.landingIds_candidateState, List.mem_singleton] at mem
    exact .inl mem.symm
  | startValidation before writes | completeValidation before writes | release before writes =>
    rw [writes.row_eq stored]
    refine followsIds_of_subset writes.stored ?_
    rw [before]
    exact List.Subset.refl _
  | blockInfrastructure captured writes | blockProvider captured writes =>
    rw [writes.row_eq stored]
    refine followsIds_of_subset writes.stored ?_
    rw [captured, ResumeState.landingIds_restore]
    exact List.Subset.refl _
  | retry suspended writes =>
    rw [writes.row_eq stored]
    refine followsIds_of_subset writes.stored ?_
    rw [ResumeState.landingIds_restore]
    rcases suspended with is_blocked | is_blocked <;> rw [is_blocked] <;> exact List.Subset.refl _
  | resumeProvider suspended writes =>
    rw [writes.row_eq stored]
    refine followsIds_of_subset writes.stored ?_
    rw [ResumeState.landingIds_restore, suspended]
    exact List.Subset.refl _
  | beginLanding validated writes =>
    rw [writes.row_eq stored]
    intro objectId mem
    rcases List.mem_pair.mp mem with rfl | rfl
    · refine .inr ⟨_, writes.stored, ?_⟩
      rw [validated]
      exact List.mem_singleton_self _
    · exact .inl rfl
  | @integrate _ _ effort candidateSha _ _ _ landed writes =>
    rw [writes.row_eq stored]
    refine followsIds_of_subset writes.stored ?_
    rintro objectId mem
    rw [List.mem_singleton.mp mem]
    cases state : effort.state with
    | landing | landingUncertain =>
      rw [state] at landed
      obtain rfl := Option.some_inj.mp landed
      exact List.mem_cons_self
    | _ =>
      rw [state] at landed
      cases landed
  | approve decides decision writes =>
    rw [writes.row_eq stored]
    refine followsIds_of_subset writes.stored ?_
    rw [decides.waiting]
    exact List.Subset.refl _

/-! ## Columns -/

/-- What a step does to the row of its effort. -/
inductive RowStep (operation : Operation) (view : EffortView) (row : IntegrationEffort) : Prop where
  | wrote {effort : IntegrationEffort} {state : IntegrationEffortState} {failedCycles : Nat}
      (stored : view.effort = some effort) (same : row = { effort with state, failedCycles })
  | recomposed {effort : IntegrationEffort} {state : IntegrationEffortState} {failedCycles : Nat}
      {targetSha : String} {composition : CompositionEvidence} {stamp : Stamp}
      (stored : view.effort = some effort)
      (named : operation = .completeTargetRecomposition effort.id targetSha composition stamp)
      (same : row = { effort with targetSha, composition, state, failedCycles })
  | created {new : NewEffort} {stamp : Stamp} (named : operation = .createEffort new stamp)

/-- A written state is a step of the row. -/
theorem Writes.rowStep (writes : Writes rejection before effort state failedCycles after)
    (same : before.effort = view.effort) (stored : after.effort = some row) :
    RowStep operation view row :=
  .wrote (same.symm.trans writes.stored) (writes.row_eq stored)

/-- A step of the effort is a step of its row. -/
theorem EffortStep.rowStep (step : EffortStep operation view after)
    (stored : after.effort = some row) : RowStep operation view row := by
  cases step with
  | create | replace => exact .created rfl
  | surrenderCancelled found | acknowledgeCancelled found => exact .wrote stored rfl
  | deleteDebt found => exact .wrote stored rfl
  | prepare _ _ _ _ writes | surrender _ _ writes | started _ _ _ _ _ _ _ writes
  | result _ writes | resetBuild _ writes | requireGuidance _ _ _ writes | answer _ _ writes
  | retryLimit _ writes | requestChanges _ _ writes | cancel _ _ _ writes
  | markReplacement _ writes | consume _ writes | reject _ _ _ writes
  | record _ _ _ _ writes | startValidation _ writes | completeValidation _ writes
  | release _ writes | blockInfrastructure _ writes | blockProvider _ writes | retry _ writes
  | resumeProvider _ writes | beginLanding _ writes | integrate _ writes | approve _ _ writes =>
    exact writes.rowStep rfl stored
  | accept _ _ writes => exact writes.rowStep rfl stored
  | acknowledgeLaunching _ _ fails | acknowledgeRunning _ fails | reset _ fails =>
    exact fails.writes.rowStep rfl stored
  | moveTarget movable captured writes =>
    exact writes.rowStep EffortView.supersedeReview_effort stored
  | recompose found moving composed writes =>
    exact .recomposed found rfl (writes.row_eq stored)

/-! ## Identifiers of reachable efforts -/

/-- The command that a suspended state released. -/
def ResumeState.commandId? : ResumeState → Option String
  | .landingUncertain value => some value.commandId
  | _ => none

/-- The command that a state released, also while it is suspended. -/
def IntegrationEffortState.commandId? : IntegrationEffortState → Option String
  | .landingUncertain value => some value.commandId
  | .infrastructureBlocked value | .providerBlocked value => value.resume.commandId?
  | _ => none

/-- A suspended state has the command of the state it restores. -/
theorem ResumeState.commandId?_restore (resume : ResumeState) :
    resume.restore.commandId? = resume.commandId? := by
  cases resume <;> rfl

/-- Where the released command of a written state comes from. -/
def FollowsCommand (operation : Operation) (view : EffortView) (row : IntegrationEffort) : Prop :=
  ∀ commandId, row.state.commandId? = some commandId →
    (∃ id stamp, operation = .releaseLanding id commandId stamp) ∨
      ∃ effort, view.effort = some effort ∧ effort.state.commandId? = some commandId

/-- A state without a command follows. -/
theorem followsCommand_of_free (free : row.state.commandId? = none) :
    FollowsCommand operation view row := fun _ found => nomatch free.symm.trans found

/-- A state with the same command follows. -/
theorem followsCommand_of_same (stored : view.effort = some effort)
    (same : row.state.commandId? = effort.state.commandId?) : FollowsCommand operation view row :=
  fun _ found => .inr ⟨effort, stored, same.symm.trans found⟩

/-- The state after a failure has no command. -/
theorem EffortView.commandId?_failedState {cycleId eventId : String} {failure : CycleFailure}
    {count next : Nat} :
    (view.failedState cycleId failure count next eventId).commandId? = none := by
  unfold EffortView.failedState
  split <;> rfl

/-- The state of a built candidate has no command. -/
theorem CandidateBuilding.commandId?_candidateState (building : CandidateBuilding)
    {reviewId : String} : (building.candidateState candidateSha reviewId).commandId? = none := by
  unfold candidateState
  split <;> rfl

/-- Every step takes the released command of its state from the state before, or releases it. -/
theorem EffortStep.followsCommand (step : EffortStep operation view after)
    (stored : after.effort = some row) : FollowsCommand operation view row := by
  cases step with
  | create | replace =>
    cases stored
    exact followsCommand_of_free rfl
  | surrenderCancelled found | acknowledgeCancelled found =>
    exact followsCommand_of_same stored rfl
  | deleteDebt => exact followsCommand_of_same stored rfl
  | prepare _ _ _ _ writes | surrender _ _ writes | started _ _ _ _ _ _ _ writes
  | result _ writes | resetBuild _ writes | requireGuidance _ _ _ writes | answer _ _ writes
  | retryLimit _ writes | moveTarget _ _ writes | requestChanges _ _ writes | cancel _ _ _ writes
  | markReplacement _ writes | recompose _ _ _ writes | startValidation _ writes
  | completeValidation _ writes | beginLanding _ writes | integrate _ writes
  | approve _ _ writes =>
    rw [writes.row_eq stored]
    exact followsCommand_of_free rfl
  | accept _ _ writes =>
    rw [writes.row_eq stored]
    exact followsCommand_of_free rfl
  | acknowledgeLaunching _ _ fails | acknowledgeRunning _ fails | reset _ fails =>
    rw [fails.writes.row_eq stored]
    exact followsCommand_of_free rfl
  | consume _ writes | reject _ _ _ writes =>
    rw [writes.row_eq stored]
    exact followsCommand_of_free EffortView.commandId?_failedState
  | record built same opened unopened writes =>
    rw [writes.row_eq stored]
    exact followsCommand_of_free (CandidateBuilding.commandId?_candidateState _)
  | release prepared writes =>
    rw [writes.row_eq stored]
    rintro commandId found
    exact .inl ⟨_, _, congrArg (Operation.releaseLanding _ · _) (Option.some_inj.mp found)⟩
  | blockInfrastructure captured writes | blockProvider captured writes =>
    rw [writes.row_eq stored]
    refine followsCommand_of_same writes.stored ?_
    rw [captured, ResumeState.commandId?_restore]
    rfl
  | retry suspended writes =>
    rw [writes.row_eq stored]
    refine followsCommand_of_same writes.stored ?_
    rw [ResumeState.commandId?_restore]
    rcases suspended with is_blocked | is_blocked <;> rw [is_blocked] <;> rfl
  | resumeProvider suspended writes =>
    rw [writes.row_eq stored]
    refine followsCommand_of_same writes.stored ?_
    rw [ResumeState.commandId?_restore, suspended]
    rfl

/-- The identifiers of an effort are full identifiers of one format, and the command that it
released is exact text. -/
structure IntegrationEffort.Identified (format : GitObjectFormat) (effort : IntegrationEffort) :
    Prop where
  target : format.isOid effort.targetSha = true
  source : format.isOid effort.sourceSha = true
  landing : ∀ objectId ∈ effort.state.landingIds, format.isOid objectId = true
  command : ∀ commandId, effort.state.commandId? = some commandId → isExactText commandId = true

/-- Every effort is identified in the object format of its item. -/
def Database.Identified (db : Database) : Prop :=
  ∀ effort ∈ db.efforts, ∃ format, db.formatOf effort.itemId = some format ∧
    effort.Identified format

/-- The format of an item is that of its policy. -/
theorem Database.formatOf_eq_some {policy : RepositoryPolicy}
    (found : db.policyOf itemId = some policy) : db.formatOf itemId = some policy.objectFormat := by
  rw [Database.formatOf, found, Option.map_some]

/-- The efforts that the creation of an effort leaves are those before, and one of its item. -/
theorem createEffort_identified {new : NewEffort} {stamp : Stamp} {done : Unit}
    (commits : (createEffort new stamp).Commits db done later) (mem : row ∈ later.efforts) :
    row ∈ db.efforts ∨ ∃ format, db.formatOf row.itemId = some format ∧ row.Identified format := by
  simp only [createEffort, commits_itemObjectFormat_bind, commits_ensure_bind,
    commits_lookup_bind, commits_query_bind, commits_require_bind] at commits
  rcases commits with ⟨policy, found, _, target, _, source, _, -, item, -, -, -, commits⟩
  have identified : ∀ row : IntegrationEffort, row.itemId = new.itemId →
      row.targetSha = new.targetSha → row.sourceSha = new.sourceSha →
      row.state.landingIds = [] → row.state.commandId? = none →
      ∃ format, db.formatOf row.itemId = some format ∧ row.Identified format := by
    intro row ofItem ofTarget ofSource free released
    refine ⟨policy.objectFormat, by rw [ofItem]; exact Database.formatOf_eq_some found, ?_, ?_, ?_, ?_⟩
    · rw [ofTarget]
      exact check_eq_ok.mp target
    · rw [ofSource]
      exact check_eq_ok.mp source
    · rw [free]
      exact List.forall_mem_nil _
    · intro commandId named
      cases released.symm.trans named
  split at commits
  · rename_i existing owns
    simp only [commits_ensure_bind] at commits
    rcases commits with ⟨_, -, commits⟩
    split at commits
    · simp only [replaceEffort, commits_require_bind, commits_query_bind, commits_write_bind,
        appendEvent, commits_write] at commits
      rcases commits with ⟨-, -, -, -, rfl⟩
      have here : db.efforts.find? existing.id = some existing :=
        Table.find?_eq_some.mpr ⟨List.mem_of_find?_eq_some owns, rfl⟩
      have owned : existing.itemId = new.itemId := by simpa using List.find?_some owns
      have rule := @Table.mem_update_key _ _ IntegrationEffort.id _
        (new.replace (db.maxCycleNumber existing.id + 1)) (fun _ => rfl) _ _ _ _ _ row here
      rcases rule mem with rfl | ⟨stored, -⟩
      · exact .inr (identified _ owned rfl rfl rfl rfl)
      · exact .inl stored
    · rcases commits_require.mp commits with ⟨-, rfl⟩
      exact .inl mem
  · simp only [commits_query_bind, commits_require_bind, commits_lookup_bind, commits_write_bind,
      appendEvent, commits_write] at commits
    rcases commits with ⟨-, efforts, inserted, -, rfl⟩
    rcases (Table.mem_of_insert? inserted).mp mem with stored | rfl
    · exact .inl stored
    · exact .inr (identified _ rfl rfl rfl rfl rfl)

/-- An operation that brings an identifier into the state of an effort checks it in the object
format of the item of the effort. -/
theorem Operation.isOid_of_commits {outcome : Outcome} {after : EffortView}
    (commits : operation.transaction.Commits db outcome later)
    (step : EffortStep operation view after) (brings : operation.Brings objectId)
    (stored : view.effort = some effort) (found : (db.view effort.id).effort = some effort)
    (format_of : db.formatOf effort.itemId = some format) : format.isOid objectId = true := by
  have unique : ∀ {other : IntegrationEffort} {policy : RepositoryPolicy},
      (db.view effort.id).effort = some other → db.policyOf other.itemId = some policy →
      policy.objectFormat.isOid objectId = true → format.isOid objectId = true := by
    intro other policy reads policyOf oid
    obtain rfl := Option.some_inj.mp (reads.symm.trans found)
    have same := (Database.formatOf_eq_some policyOf).symm.trans format_of
    rwa [← Option.some_inj.mp same]
  cases step with
  | record built same opened unopened writes =>
    obtain rfl := Option.some_inj.mp (writes.stored.symm.trans stored)
    obtain rfl := brings
    simp only [Operation.transaction, commits_map, Iq.recordCandidate, effortObjectFormat,
      commits_requiredEffort_bind, commits_lookup_bind, commits_itemObjectFormat_bind,
      commits_ensure_bind] at commits
    rcases commits with ⟨_, ⟨_, reads, -, _, -, policy, policyOf, _, checked, -⟩, -⟩
    exact unique reads policyOf (check_eq_ok.mp checked)
  | beginLanding validated writes =>
    obtain rfl := Option.some_inj.mp (writes.stored.symm.trans stored)
    obtain rfl := brings
    simp only [Operation.transaction, commits_map, Iq.beginLanding, effortObjectFormat,
      commits_ensure_bind, commits_requiredEffort_bind, commits_itemObjectFormat_bind] at commits
    rcases commits with ⟨_, ⟨_, -, _, -, _, reads, -, policy, policyOf, _, checked, -⟩, -⟩
    exact unique reads policyOf (check_eq_ok.mp checked)
  | _ => exact brings.elim

/-- A recomposition moves its effort to a full identifier. -/
theorem isOid_of_recompose {id targetSha : String} {composition : CompositionEvidence}
    {stamp : Stamp} {done : Unit}
    (commits : (completeTargetRecomposition id targetSha composition stamp).Commits db done later)
    (found : (db.view id).effort = some effort)
    (format_of : db.formatOf effort.itemId = some format) : format.isOid targetSha = true := by
  simp only [completeTargetRecomposition, effortObjectFormat, commits_requiredEffort_bind,
    commits_itemObjectFormat_bind, commits_ensure_bind] at commits
  rcases commits with ⟨other, reads, -, policy, policyOf, _, checked, -⟩
  obtain rfl := Option.some_inj.mp (reads.symm.trans found)
  have same := (Database.formatOf_eq_some policyOf).symm.trans format_of
  rw [← Option.some_inj.mp same]
  exact check_eq_ok.mp checked

/-- A released command is exact text. -/
theorem isExactText_of_release {id commandId : String} {stamp : Stamp} {done : Unit}
    (commits : (releaseLanding id commandId stamp).Commits db done later) :
    isExactText commandId = true := by
  simp only [releaseLanding, commits_ensure_bind] at commits
  rcases commits with ⟨_, checked, -⟩
  exact check_eq_ok.mp checked

/-- Every commit leaves the efforts identified. -/
theorem Operation.identified {outcome : Outcome} (sound : db.Sound)
    (commits : operation.transaction.Commits db outcome later) (identified : db.Identified) :
    later.Identified := by
  intro row mem
  have keeps : ∀ {itemId format}, db.formatOf itemId = some format →
      later.formatOf itemId = some format := operation.keepsFormat commits
  suffices found : ∃ format, db.formatOf row.itemId = some format ∧ row.Identified format by
    rcases found with ⟨format, of_item, identified⟩
    exact ⟨format, keeps of_item, identified⟩
  have stored : (later.view row.id).effort = some row := Database.view_effort_eq_some.mpr ⟨mem, rfl⟩
  rcases operation.stepped sound commits row.id with same | step
  · rw [same] at stored
    exact identified row (Database.view_effort_eq_some.mp stored).1
  -- The commands that a row carries were exact when they were released.
  have released : ∀ commandId, row.state.commandId? = some commandId →
      isExactText commandId = true := by
    intro commandId carried
    rcases step.followsCommand stored commandId carried with ⟨id, stamp, rfl⟩ | ⟨other, found, was⟩
    · simp only [Operation.transaction, commits_map] at commits
      rcases commits with ⟨done, commits, -⟩
      exact isExactText_of_release commits
    · rcases identified other (Database.view_effort_eq_some.mp found).1 with ⟨_, -, is_identified⟩
      exact is_identified.command commandId was
  -- The identifiers that its state lands with were checked when they were brought.
  have lands : ∀ {other format}, (db.view row.id).effort = some other →
      db.formatOf other.itemId = some format → other.Identified format →
      ∀ objectId ∈ row.state.landingIds, format.isOid objectId = true := by
    intro other format found of_item is_identified objectId carried
    have same : other.id = row.id := (Database.view_effort_eq_some.mp found).2
    rcases step.followsIds stored objectId carried with brings | ⟨before, reads, carried⟩
    · refine operation.isOid_of_commits commits step brings found ?_ of_item
      rw [same]
      exact found
    · obtain rfl := Option.some_inj.mp (reads.symm.trans found)
      exact is_identified.landing objectId carried
  cases step.rowStep stored with
  | @wrote effort state failedCycles found same =>
    rcases identified effort (Database.view_effort_eq_some.mp found).1 with
      ⟨format, of_item, is_identified⟩
    have landing := lands found of_item is_identified
    rw [same] at landing released ⊢
    exact ⟨format, of_item, is_identified.target, is_identified.source, landing, released⟩
  | @recomposed effort state failedCycles targetSha composition stamp found named same =>
    rcases identified effort (Database.view_effort_eq_some.mp found).1 with
      ⟨format, of_item, is_identified⟩
    have landing := lands found of_item is_identified
    have id_eq : effort.id = row.id := (Database.view_effort_eq_some.mp found).2
    subst named
    simp only [Operation.transaction, commits_map] at commits
    rcases commits with ⟨done, commits, -⟩
    have target := isOid_of_recompose commits (by rw [id_eq]; exact found) of_item
    rw [same] at landing released ⊢
    exact ⟨format, of_item, target, is_identified.source, landing, released⟩
  | @created new stamp named =>
    subst named
    simp only [Operation.transaction, commits_map] at commits
    rcases commits with ⟨done, commits, -⟩
    rcases createEffort_identified commits mem with before | created
    · exact identified row before
    · exact created

/-- In every reachable database the ids are of the format. -/
theorem identified_of_reachable (reachable : store.Reachable db) : db.Identified := by
  have rule := @Machine.Reachable.invariant_of_reachable _ _ store Database.Identified
  refine rule ?_ ?_ reachable
  · intro start initial effort mem
    rw [initial.efforts] at mem
    exact absurd mem (Table.not_mem_empty effort)
  · intro now operation reached identified
    rcases settle_cases operation.transaction now with same | ⟨outcome, commits⟩
    · rw [store_step, same]
      exact identified
    · exact operation.identified (sound_of_reachable reached) commits identified

/-- A committed operation brings object identifiers only. -/
theorem Operation.isObjectId_of_commits {outcome : Outcome}
    (commits : operation.transaction.Commits db outcome later)
    (brings : operation.Brings objectId) : IsObjectId objectId := by
  cases operation with
  | recordCandidate effortId observation stamp =>
    obtain rfl : observation.candidateSha = objectId := brings
    simp only [Operation.transaction, commits_map, Iq.recordCandidate, effortObjectFormat,
      commits_requiredEffort_bind, commits_lookup_bind, commits_itemObjectFormat_bind,
      commits_ensure_bind] at commits
    rcases commits with ⟨_, ⟨_, -, -, _, -, policy, -, _, checked, -⟩, -⟩
    exact ⟨policy.objectFormat, check_eq_ok.mp checked⟩
  | beginLanding effortId expectedTargetSha leaseId commandId signoff stamp =>
    obtain rfl : expectedTargetSha = objectId := brings
    simp only [Operation.transaction, commits_map, Iq.beginLanding, effortObjectFormat,
      commits_ensure_bind, commits_requiredEffort_bind, commits_itemObjectFormat_bind] at commits
    rcases commits with ⟨_, ⟨_, -, _, -, _, -, -, policy, -, _, checked, -⟩, -⟩
    exact ⟨policy.objectFormat, check_eq_ok.mp checked⟩
  | _ => exact brings.elim

/-- The landing states of a reachable database carry object identifiers only. -/
theorem landingIds_of_reachable (reachable : store.Reachable db) :
    ∀ effort ∈ db.efforts, ∀ objectId ∈ effort.state.landingIds, IsObjectId objectId := by
  intro effort mem objectId carried
  rcases identified_of_reachable reachable effort mem with ⟨format, -, identified⟩
  exact ⟨format, identified.landing objectId carried⟩

end Iq
