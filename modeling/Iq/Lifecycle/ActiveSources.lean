import Iq.Library.Exclusive
import Iq.Lifecycle.RemoteAdmissions

/-!
# The active item of a source

Nothing that is admitted from a source leaves room for a second active item of it: the lookups of
`admit_direct` and `admit_merge_request` find every active item of the source, and no status change
opens a finished one. What a repository accepted once it accepts again as long as it is enabled, so
a repeated admission returns the item, and every other admission of the source is refused.
-/

namespace Iq

open Library Library.Transaction Database

variable {now later : Intake} {request : DirectAdmissionRequest} {targetRef : TargetRef}
  {id repoKey value : String} {admission : MergeRequestAdmission}
  {stateRepository : StateRepositorySnapshot} {entry other : QueueItem × AdmissionRow}
  {item : QueueItem} {row : AdmissionRow}

/-! ## Formats -/

/-- The object formats of the repositories are the same. -/
def Database.SameFormats (db later : Database) : Prop :=
  ∀ repoKey, (later.policies.find? repoKey).map RepositoryPolicy.objectFormat =
    (db.policies.find? repoKey).map RepositoryPolicy.objectFormat

section Formats

variable {db next : Database}

/-- The same policies have the same formats. -/
theorem Database.SameFormats.of_policies (same : next.policies = db.policies) :
    db.SameFormats next := by
  intro repoKey
  rw [same]

instance : FramesPolicies db.SameFormats where
  policies now chosen state holds := by
    intro repoKey
    have rewritten : ∀ row : RepositoryPolicy, (Table.rewrite chosen (fun row =>
        { row with operationState := state }) row).objectFormat = row.objectFormat := by
      intro row
      unfold Table.rewrite
      split <;> rfl
    rw [Table.find?_update, Option.map_map, ← holds repoKey]
    exact congrArg (fun read => Option.map read _) (funext rewritten)

/-- The formats tolerate changes of other tables. -/
theorem Database.SameFormats.tolerates {table : TableName} : Tolerates db.SameFormats table := by
  by_cases policies : table = .policies
  · subst policies
    exact inferInstanceAs (FramesPolicies _)
  · refine .of_ignores ⟨fun now after same kept repoKey => ?_⟩
    have elsewhere : ∀ now : Database, (now.without table).policies = now.policies := by
      cases table <;> first | exact absurd rfl policies | exact fun _ => rfl
    rw [Database.read_of_without elsewhere same]
    exact kept repoKey

/-- Every operation leaves the object formats. -/
theorem Operation.formats {operation : Operation} {outcome : Outcome}
    (commits : operation.transaction.Commits db outcome next) : db.SameFormats next := by
  have start : db.SameFormats db := fun _ => rfl
  exact (Operation.preserves fun _ _ => SameFormats.tolerates).of_commits start commits

/-- The transition of an item that is not cancelled changes the items only. -/
theorem commits_transitionItem_items {itemId : String} {target : QueueStatus} {stamp : Stamp}
    {done : Unit} (kept : target ≠ .cancelled)
    (commits : (transitionItem itemId target stamp).Commits db done next) :
    ∃ items, next = { db with items } := by
  simp only [transitionItem, if_neg kept, commits_lookup_bind, commits_query_bind,
    commits_require_bind, commits_requireItemObligation_bind] at commits
  obtain ⟨item, -, -, -, -, commits⟩ := commits
  obtain ⟨row, -, -, -, rfl⟩ := commits_updateQueueItem commits
  exact ⟨_, rfl⟩

/-- Every command leaves the object formats. -/
theorem QueueCommand.formats {command : QueueCommand} {done : Unit}
    (commits : command.transaction.Commits db done next) : db.SameFormats next := by
  cases command with
  | store operation =>
    obtain ⟨outcome, commits, -⟩ := commits_map.mp commits
    exact Operation.formats commits
  | admitRemote =>
    obtain ⟨items, -, rfl⟩ := commits_admitRemote commits
    exact .of_policies rfl
  | beginLocalSubmission =>
    rcases commits_beginLocalSubmission commits with rfl | ⟨_, _, -, -, -, -, -, -, -, rfl⟩
    · exact .of_policies rfl
    · exact .of_policies rfl
  | finalizeLocalSubmission =>
    obtain ⟨_, _, _, _, -, -, -, -, -, -, -, -, -, rfl⟩ := commits_finalizeLocalSubmission commits
    exact .of_policies rfl
  | readOldest | readOldestForTarget | readResumable | readAgain =>
    obtain ⟨-, rfl⟩ := commits_pure.mp commits
    exact .of_policies rfl
  | enforceBoundary item stamp =>
    simp only [QueueCommand.transaction] at commits
    split at commits
    · rename_i target moves
      obtain ⟨items, rfl⟩ :=
        commits_transitionItem_items (boundaryTarget_active moves).2.2.1 commits
      exact .of_policies rfl
    · obtain ⟨-, rfl⟩ := commits_pure.mp commits
      exact .of_policies rfl

end Formats

/-- No command changes a format. -/
theorem Queue.formats_step (start : Queue) (command : QueueCommand) :
    start.db.SameFormats (queue.step start command).db := by
  show start.db.SameFormats (if start.enables command then _ else start : Queue).db
  by_cases enabled : start.enables command = true
  · rw [if_pos enabled]
    show start.db.SameFormats (command.transaction.settle start.db)
    rcases settle_cases command.transaction start.db with same | ⟨done, commits⟩
    · rw [same]
      exact .of_policies rfl
    · exact command.formats commits
  · rw [if_neg enabled]
    exact .of_policies rfl

/-! ## Sources -/

/-- A direct admission. -/
def QueueAdmission.isDirect : QueueAdmission → Bool
  | .direct _ _ => true
  | _ => false

/-- Two entries of one merge request of a repository. -/
def SameRequest (older newer : QueueItem × AdmissionRow) : Prop :=
  older.1.repoKey = newer.1.repoKey ∧
    ∃ key, older.2.admission.requestKey = some key ∧ newer.2.admission.requestKey = some key

/-- The newer entry is the direct admission of a branch that the older one is admitted from. -/
def SameBranchSource (older newer : QueueItem × AdmissionRow) : Prop :=
  older.1.repoKey = newer.1.repoKey ∧ older.1.targetRef = newer.1.targetRef ∧
    older.2.admission.sourceBranch = newer.2.admission.sourceBranch ∧
    newer.2.admission.isDirect = true

/-- Entries of one source; finished items leave it free. -/
def sources : Contest (QueueItem × AdmissionRow) where
  Clash older newer := SameBranchSource older newer ∨ SameRequest older newer
  Closed entry := entry.1.status.isTerminal = true

/-- What the repository has accepted of an entry. -/
def Intake.Checked (now : Intake) (entry : QueueItem × AdmissionRow) : Prop :=
  match entry.2.admission with
  | .localSubmission _ _ _ => True
  | .direct sourceBranch headSha =>
    now.AcceptsDirect ⟨entry.1.repoKey, sourceBranch, headSha, entry.2.stateRepository⟩
  | .mergeRequest admission =>
    now.AcceptsRequest entry.1.repoKey admission entry.2.stateRepository ∧
      entry.1.targetRef = admission.targetRef

/-- What holds in every reachable intake. -/
structure Intake.Sound (now : Intake) : Prop where
  queue : now.queue.Sound
  owned : ∀ row ∈ now.admissions, ∃ item ∈ now.queue.db.items, item.id = row.itemId
  exclusive : sources.Exclusive now.admitted
  checked : ∀ entry ∈ now.admitted, now.Checked entry

/-! ## The join -/

/-- The admitted items are those with an admission. -/
theorem Intake.mem_admitted : entry ∈ now.admitted ↔
    entry.1 ∈ now.queue.db.items ∧ now.admissions.find? entry.1.id = some entry.2 := by
  simp only [admitted, List.mem_filterMap, Option.map_eq_some_iff]
  constructor
  · rintro ⟨item, mem, row, found, rfl⟩
    exact ⟨mem, found⟩
  · rintro ⟨mem, found⟩
    exact ⟨entry.1, mem, entry.2, found, rfl⟩

/-- The rows of rewritten items. -/
theorem Intake.admitted_map {queue : Queue} {change : QueueItem → QueueItem}
    (rows : queue.db.items.rows = now.queue.db.items.rows.map change)
    (key : ∀ item ∈ now.queue.db.items.rows, (change item).id = item.id) :
    ({ now with queue } : Intake).admitted =
      now.admitted.map fun entry => (change entry.1, entry.2) := by
  unfold admitted
  rw [rows, List.filterMap_map, List.map_filterMap]
  refine List.filterMap_congr fun item mem => ?_
  show (now.admissions.find? (change item).id).map _ = _
  rw [key item mem, Option.map_map]
  rfl

/-- The row of an item that arrives comes last. -/
theorem Intake.admitted_append {queue : Queue} {admissions : Table AdmissionRow.itemId}
    (rows : queue.db.items.rows = now.queue.db.items.rows ++ [item])
    (fresh : ∀ stored ∈ now.queue.db.items.rows, stored.id ≠ item.id)
    (inserted : now.admissions.insert? row = some admissions) (own : row.itemId = item.id) :
    ({ now with queue, admissions } : Intake).admitted = now.admitted ++ [(item, row)] := by
  unfold admitted
  rw [rows, List.filterMap_append]
  congr 1
  · refine List.filterMap_congr fun stored mem => ?_
    show (admissions.find? stored.id).map _ = _
    rw [Table.find?_of_insert? stored.id inserted, if_neg]
    rw [own]
    exact (fresh stored mem).symm
  · show List.filterMap (fun item => (admissions.find? item.id).map _) [item] = _
    simp [Table.find?_of_insert? item.id inserted, own]

/-- An item that arrives without a row stays out of the join. -/
theorem Intake.admitted_unlisted {queue : Queue}
    (rows : queue.db.items.rows = now.queue.db.items.rows ++ [item])
    (unlisted : now.admissions.find? item.id = none) :
    ({ now with queue } : Intake).admitted = now.admitted := by
  unfold admitted
  rw [rows, List.filterMap_append]
  show _ ++ List.filterMap (fun item => (now.admissions.find? item.id).map _) [item] = _
  simp [unlisted]

/-! ## Acceptance -/

/-- An object id that is taken is taken with the same formats. -/
theorem Intake.TakesOid.carry {queue : Queue} {objectId : String}
    {admissions : Table AdmissionRow.itemId} (takes : now.TakesOid repoKey objectId)
    (formats : now.queue.db.SameFormats queue.db) :
    ({ now with queue, admissions } : Intake).TakesOid repoKey objectId := by
  intro policy found
  have same := formats repoKey
  rw [show queue.db.policies.find? repoKey = some policy from found, Option.map_some] at same
  obtain ⟨before, stored, format⟩ := Option.map_eq_some_iff.mp same.symm
  rw [← format]
  exact takes before stored

/-- What a repository accepted stays acceptable. -/
theorem Intake.Checked.carry {queue : Queue} {admissions : Table AdmissionRow.itemId}
    (checked : now.Checked entry) (formats : now.queue.db.SameFormats queue.db)
    (lane : item.repoKey = entry.1.repoKey ∧ item.targetRef = entry.1.targetRef) :
    ({ now with queue, admissions } : Intake).Checked (item, entry.2) := by
  unfold Checked at checked ⊢
  rw [lane.1, lane.2]
  cases admitted : entry.2.admission with
  | localSubmission => trivial
  | direct sourceBranch headSha =>
    rw [admitted] at checked
    exact ⟨checked.valid, checked.head.carry formats, checked.canonical⟩
  | mergeRequest stored =>
    rw [admitted] at checked
    obtain ⟨⟨valid, sourceRef, head, ⟨baseSha, base, oid⟩, canonical⟩, target⟩ := checked
    exact ⟨⟨valid, sourceRef, head.carry formats, ⟨baseSha, base, oid.carry formats⟩, canonical⟩,
      target⟩

/-! ## Steps -/

/-- A queue that advances stays sound. -/
theorem Queue.Sound.of_advances {start : Queue} {db : Database} (sound : start.Sound)
    (advances : start.db.Advances db) : (⟨db, start.held⟩ : Queue).Sound where
  linked := advances.linked
  vacant := advances.vacant
  closed := advances.closed
  ordered := sound.ordered.serves advances.serves
  held item held := (sound.held item held).advances advances

/-- The work on the queue leaves the sources as they are. -/
theorem Intake.Sound.carry {queue : Queue} (sound : now.Sound) (queueSound : queue.Sound)
    (serves : branchOrder.Serves now.queue.db.items.rows queue.db.items.rows)
    (formats : now.queue.db.SameFormats queue.db) : ({ now with queue } : Intake).Sound := by
  generalize after : queue.db.items.rows = rows at serves
  cases serves with
  | @rewrite change key lane finished =>
    have joined := Intake.admitted_map after key
    have lanes : ∀ item ∈ now.queue.db.items.rows,
        (change item).repoKey = item.repoKey ∧ (change item).targetRef = item.targetRef :=
      fun item mem => Prod.mk.injEq .. ▸ lane item mem
    refine ⟨queueSound, ?_, ?_, ?_⟩
    · intro row mem
      obtain ⟨item, stored, own⟩ := sound.owned row mem
      refine ⟨change item, ?_, (key item stored).trans own⟩
      rw [← Table.mem_rows]
      show change item ∈ queue.db.items.rows
      rw [after]
      exact List.mem_map_of_mem stored
    · rw [joined]
      refine sound.exclusive.map (fun older mem newer mem' clashes => ?_) fun entry mem done => ?_
      · have first := lanes older.1 (Intake.mem_admitted.mp mem).1
        have second := lanes newer.1 (Intake.mem_admitted.mp mem').1
        simp only [sources, SameBranchSource, SameRequest, first.1, first.2, second.1, second.2]
          at clashes
        exact clashes
      · exact finished entry.1 (Intake.mem_admitted.mp mem).1 done
    · rw [joined]
      intro changed mem
      obtain ⟨entry, stored, rfl⟩ := List.mem_map.mp mem
      have unchanged := lanes entry.1 (Intake.mem_admitted.mp stored).1
      exact (sound.checked entry stored).carry formats unchanged
  | @arrive item fresh =>
    have unlisted : now.admissions.find? item.id = none := by
      rw [Table.find?_eq_none]
      intro row mem same
      obtain ⟨stored, present, own⟩ := sound.owned row mem
      exact fresh (List.mem_map.mpr ⟨stored, present, own.trans same⟩)
    have joined := Intake.admitted_unlisted after unlisted
    refine ⟨queueSound, ?_, ?_, ?_⟩
    · intro row mem
      obtain ⟨stored, present, own⟩ := sound.owned row mem
      refine ⟨stored, ?_, own⟩
      rw [← Table.mem_rows]
      show stored ∈ queue.db.items.rows
      rw [after]
      exact List.mem_append_left _ present
    · rw [joined]
      exact sound.exclusive
    · rw [joined]
      intro entry mem
      exact (sound.checked entry mem).carry formats ⟨rfl, rfl⟩

/-- An item arrives with its row when the active items of its source are finished. -/
theorem Intake.Sound.enroll {queue : Queue} {admissions : Table AdmissionRow.itemId}
    (sound : now.Sound) (queueSound : queue.Sound) {items : Table QueueItem.id}
    (arrived : now.queue.db.items.insert? item = some items) (after : queue.db.items = items)
    (formats : now.queue.db.SameFormats queue.db)
    (inserted : now.admissions.insert? row = some admissions) (own : row.itemId = item.id)
    (free : ∀ older ∈ now.admitted, sources.Clash older (item, row) → sources.Closed older)
    (checked : now.Checked (item, row)) : ({ now with queue, admissions } : Intake).Sound := by
  have rows : queue.db.items.rows = now.queue.db.items.rows ++ [item] := by
    rw [after]
    exact Table.rows_of_insert? arrived
  have joined := Intake.admitted_append rows
    (fun stored mem => Table.fresh_of_insert? arrived mem) inserted own
  refine ⟨queueSound, ?_, ?_, ?_⟩
  · intro listed mem
    show ∃ stored ∈ queue.db.items, stored.id = listed.itemId
    rw [after]
    cases (Table.mem_of_insert? inserted).mp mem with
    | inl before =>
      obtain ⟨stored, present, owner⟩ := sound.owned listed before
      exact ⟨stored, (Table.mem_of_insert? arrived).mpr (.inl present), owner⟩
    | inr itself =>
      rw [itself]
      exact ⟨item, (Table.mem_of_insert? arrived).mpr (.inr rfl), own.symm⟩
  · rw [joined]
    exact sound.exclusive.append free
  · rw [joined]
    intro entry mem
    cases List.mem_append.mp mem with
    | inl before => exact (sound.checked entry before).carry formats ⟨rfl, rfl⟩
    | inr last =>
      rw [List.mem_singleton.mp last]
      exact checked.carry formats ⟨rfl, rfl⟩

/-- A remote item arrives in an open repository. -/
theorem Intake.Sound.arrival {targetRef : TargetRef} (sound : now.Sound)
    (opens : now.Opens repoKey) (arrival : now.Arrival (remoteItem id repoKey targetRef) row later)
    (own : row.itemId = id)
    (free : ∀ older ∈ now.admitted, sources.Clash older (remoteItem id repoKey targetRef, row) →
      sources.Closed older)
    (checked : now.Checked (remoteItem id repoKey targetRef, row)) : later.Sound := by
  have arrives : now.queue.db.Arrives (remoteItem id repoKey targetRef) later.queue.db.items :=
    ⟨arrival.items, rfl, rfl, ⟨rfl, rfl, fun _ _ => ⟨rfl, rfl⟩⟩, opens.enabled, opens.registered⟩
  have advances : now.queue.db.Advances { now.queue.db with items := later.queue.db.items } :=
    sound.queue.advances_arrival arrives sound.queue.closed
  rw [arrival.elsewhere]
  exact sound.enroll (sound.queue.of_advances advances) arrival.items rfl (.of_policies rfl)
    arrival.admissions own free checked

/-! ## Lookups -/

/-- An entry of an item that is not finished. -/
def Intake.Active (now : Intake) (entry : QueueItem × AdmissionRow) : Prop :=
  entry ∈ now.admitted ∧ entry.1.status.isTerminal = false

/-- The lookup of a branch accepts the active entries of its source. -/
theorem wants_trackedBranch {sourceBranch : String} :
    (entry.1.repoKey == repoKey && entry.1.targetRef == targetRef &&
        entry.2.admission.sourceBranch == sourceBranch && !entry.1.status.isTerminal) = true ↔
      (entry.1.repoKey = repoKey ∧ entry.1.targetRef = targetRef ∧
        entry.2.admission.sourceBranch = sourceBranch) ∧ entry.1.status.isTerminal = false := by
  simp only [Bool.and_eq_true, beq_iff_eq, Bool.not_eq_true', and_assoc]

/-- The lookup of a merge request accepts its active entries. -/
theorem wants_trackedRequest {key : Option (Provider × String × String)} :
    (entry.1.repoKey == repoKey && entry.2.admission.requestKey == key &&
        !entry.1.status.isTerminal) = true ↔
      (entry.1.repoKey = repoKey ∧ entry.2.admission.requestKey = key) ∧
        entry.1.status.isTerminal = false := by
  simp only [Bool.and_eq_true, beq_iff_eq, Bool.not_eq_true']

/-- A branch whose lookup finds nothing is free. -/
theorem Intake.free_of_trackedBranch
    (missing : now.trackedBranch request.repoKey targetRef request.sourceBranch = none) :
    ∀ older ∈ now.admitted,
      sources.Clash older (remoteItem id request.repoKey targetRef, request.row id) →
        sources.Closed older := by
  refine Contest.closed_of_find? missing fun older mem clashes opened => ?_
  rw [wants_trackedBranch]
  have unfinished : older.1.status.isTerminal = false := Bool.eq_false_iff.mpr opened
  rcases clashes with ⟨repository, target, branch, -⟩ | ⟨-, key, -, keyed⟩
  · exact ⟨⟨repository, target, branch⟩, unfinished⟩
  · cases keyed

/-- A merge request whose lookup finds nothing is free. -/
theorem Intake.free_of_trackedRequest
    (missing : now.trackedRequest repoKey admission = none) :
    ∀ older ∈ now.admitted, sources.Clash older
        (remoteItem id repoKey admission.targetRef, admission.row stateRepository id) →
      sources.Closed older := by
  refine Contest.closed_of_find? missing fun older mem clashes opened => ?_
  rw [wants_trackedRequest]
  have unfinished : older.1.status.isTerminal = false := Bool.eq_false_iff.mpr opened
  rcases clashes with ⟨-, -, -, direct⟩ | ⟨repository, key, keyed, own⟩
  · cases direct
  · exact ⟨⟨repository, keyed.trans own.symm⟩, unfinished⟩

/-- The lookup of a branch finds its active direct admission. -/
theorem Intake.Sound.trackedBranch (sound : now.Sound) (active : now.Active entry)
    (direct : entry.2.admission.isDirect = true) :
    now.trackedBranch entry.1.repoKey entry.1.targetRef entry.2.admission.sourceBranch =
      some entry := by
  apply sound.exclusive.find? active.1
  · exact wants_trackedBranch.mpr ⟨⟨rfl, rfl, rfl⟩, active.2⟩
  · exact Bool.eq_false_iff.mp active.2
  · intro other mem accepted
    obtain ⟨⟨repository, target, branch⟩, unfinished⟩ := wants_trackedBranch.mp accepted
    exact ⟨.inl ⟨repository, target, branch, direct⟩, Bool.eq_false_iff.mp unfinished⟩

/-- The lookup of a merge request finds its active admission. -/
theorem Intake.Sound.trackedRequest (sound : now.Sound) (active : now.Active entry)
    (keyed : entry.2.admission.requestKey = (QueueAdmission.mergeRequest admission).requestKey) :
    now.trackedRequest entry.1.repoKey admission = some entry := by
  apply sound.exclusive.find? active.1
  · exact wants_trackedRequest.mpr ⟨⟨rfl, keyed⟩, active.2⟩
  · exact Bool.eq_false_iff.mp active.2
  · intro other mem accepted
    obtain ⟨⟨repository, same⟩, unfinished⟩ := wants_trackedRequest.mp accepted
    exact ⟨.inr ⟨repository, _, same, keyed⟩, Bool.eq_false_iff.mp unfinished⟩

/-! ## Runs -/

/-- A direct admission keeps the intake sound. -/
theorem Intake.Sound.admitDirect (sound : now.Sound)
    (commits : (admitDirect request targetRef id).Commits now value later) : later.Sound := by
  obtain ⟨accepts, opens, outcome⟩ := commits_admitDirect.mp commits
  cases found : now.trackedBranch request.repoKey targetRef request.sourceBranch with
  | some tracked =>
    rw [found] at outcome
    rw [outcome.2.2.2]
    exact sound
  | none =>
    rw [found] at outcome
    exact sound.arrival opens outcome.2 rfl (Intake.free_of_trackedBranch found) accepts

/-- The admission of a merge request keeps the intake sound. -/
theorem Intake.Sound.admitMergeRequest (sound : now.Sound)
    (commits : (admitMergeRequest repoKey admission stateRepository id).Commits now value later) :
    later.Sound := by
  obtain ⟨accepts, opens, outcome⟩ := commits_admitMergeRequest.mp commits
  cases found : now.trackedRequest repoKey admission with
  | some tracked =>
    rw [found] at outcome
    obtain ⟨_, -, -, -, -, -, -, -, rfl⟩ := outcome
    exact sound
  | none =>
    rw [found] at outcome
    refine sound.arrival opens outcome.2 rfl (Intake.free_of_trackedRequest found) ?_
    have stored : { admission with sourceBranch := admission.sourceRef } = admission := by
      rw [accepts.sourceRef]
    show now.Checked (_, ⟨id, .mergeRequest { admission with
      sourceBranch := admission.sourceRef }, stateRepository⟩)
    rw [stored]
    exact ⟨accepts, rfl⟩

/-- The admission of a submission keeps the intake sound. -/
theorem Intake.Sound.admitLocalSubmission {submissionId : String} {done : Unit}
    (sound : now.Sound) (commits : (admitLocalSubmission repoKey submissionId
      stateRepository).Commits now done later) : later.Sound := by
  simp only [Iq.admitLocalSubmission, commits_demand_bind, commits_lookup_bind] at commits
  obtain ⟨⟨⟩, -, submission, found, commits⟩ := commits
  rw [commits_bind] at commits
  obtain ⟨⟨⟩, middle, queued, listed⟩ := commits
  obtain ⟨db, finalized, same⟩ := commits_onQueue.mp queued
  subst same
  obtain ⟨admissions, inserted, same⟩ := commits_insertAdmission.mp listed
  subst same
  have advances := sound.queue.advances_finalize finalized
  obtain ⟨own, workspace, repository, items, same, -, -, -, -, -, -, -, arrived, after⟩ :=
    commits_finalizeLocalSubmission finalized
  subst after
  obtain rfl := Option.some_inj.mp (found.symm.trans same)
  refine sound.enroll (sound.queue.of_advances advances) arrived rfl (.of_policies rfl) inserted
    rfl (fun older mem clashes => ?_) trivial
  rcases clashes with ⟨-, -, -, direct⟩ | ⟨-, key, -, keyed⟩
  · cases direct
  · cases keyed

/-- A step keeps the intake sound. -/
theorem Intake.Sound.step (sound : now.Sound) (command : IntakeCommand) :
    (intake.step now command).Sound := by
  cases command with
  | work command =>
    show (if command.isWork then _ else now : Intake).Sound
    by_cases works : command.isWork = true
    · rw [if_pos works]
      exact sound.carry (sound.queue.step command) (sound.queue.step_advances command).serves
        (now.queue.formats_step command)
    · rw [if_neg works]
      exact sound
  | admitDirect request targetRef id =>
    show ((Iq.admitDirect request targetRef id).settle now).Sound
    rcases settle_cases (Iq.admitDirect request targetRef id) now with same | ⟨value, commits⟩
    · rw [same]
      exact sound
    · exact sound.admitDirect commits
  | admitMergeRequest repoKey admission stateRepository id =>
    show ((Iq.admitMergeRequest repoKey admission stateRepository id).settle now).Sound
    rcases settle_cases (Iq.admitMergeRequest repoKey admission stateRepository id) now with
      same | ⟨value, commits⟩
    · rw [same]
      exact sound
    · exact sound.admitMergeRequest commits
  | admitLocalSubmission repoKey submissionId stateRepository =>
    show ((Iq.admitLocalSubmission repoKey submissionId stateRepository).settle now).Sound
    rcases settle_cases (Iq.admitLocalSubmission repoKey submissionId stateRepository) now with
      same | ⟨done, commits⟩
    · rw [same]
      exact sound
    · exact sound.admitLocalSubmission commits

/-- At first the intake is sound. -/
theorem Intake.Initial.sound (initial : now.Initial) : now.Sound := by
  have empty : now.admitted = [] := by
    unfold Intake.admitted
    rw [initial.queue.items]
    rfl
  refine ⟨initial.queue.sound, ?_, ?_, ?_⟩
  · rw [initial.admissions]
    exact fun row mem => absurd mem (Table.not_mem_empty row)
  · rw [empty]
    exact .nil
  · rw [empty]
    exact fun entry mem => absurd mem List.not_mem_nil

/-- Every reachable intake is sound. -/
theorem intake_sound (reachable : intake.Reachable now) : now.Sound := by
  refine reachable.invariant ?_ ?_
  · intro start initial
    exact Intake.Initial.sound initial
  · intro start command sound
    exact sound.step command

/-! ## Repeated admissions -/

/-- A direct admission of an active branch returns its item, or is refused. -/
theorem Intake.Sound.commits_repeatedBranch (sound : now.Sound) (active : now.Active entry)
    {headSha : String} (admitted : entry.2.admission = .direct request.sourceBranch headSha)
    (repository : request.repoKey = entry.1.repoKey) :
    (Iq.admitDirect request entry.1.targetRef id).Commits now value later ↔
      now.Opens entry.1.repoKey ∧ request.currentHeadSha = headSha ∧
        request.stateRepository = entry.2.stateRepository ∧ value = entry.1.id ∧ later = now := by
  have direct : entry.2.admission.isDirect = true := by
    rw [admitted]
    rfl
  have found := sound.trackedBranch active direct
  have checked := sound.checked entry active.1
  unfold Intake.Checked at checked
  simp only [admitted, QueueAdmission.sourceBranch] at found checked
  rw [commits_admitDirect, repository, found]
  show _ ∧ _ ∧ (entry.2.admission.headSha = _ ∧ _) ↔ _
  simp only [admitted, QueueAdmission.headSha]
  constructor
  · rintro ⟨-, opens, head, binding, same, kept⟩
    exact ⟨opens, head.symm, binding.symm, same, kept⟩
  · rintro ⟨opens, head, binding, same, kept⟩
    refine ⟨?_, opens, head.symm, binding.symm, same, kept⟩
    rw [← repository, ← head, ← binding] at checked
    exact checked

/-- An admission of an active merge request returns its item, or is refused. -/
theorem Intake.Sound.commits_repeatedRequest (sound : now.Sound) (active : now.Active entry)
    {stored : MergeRequestAdmission} (admitted : entry.2.admission = .mergeRequest stored)
    (keyed : (QueueAdmission.mergeRequest stored).requestKey =
      (QueueAdmission.mergeRequest admission).requestKey) :
    (Iq.admitMergeRequest entry.1.repoKey admission stateRepository id).Commits now value later ↔
      now.Opens entry.1.repoKey ∧ stateRepository.validate = .ok () ∧ admission = stored ∧
        value = entry.1.id ∧ later = now := by
  have found := sound.trackedRequest active (admitted ▸ keyed)
  have checked := sound.checked entry active.1
  unfold Intake.Checked at checked
  simp only [admitted] at checked
  obtain ⟨accepted, target⟩ := checked
  rw [commits_admitMergeRequest, found]
  show _ ∧ _ ∧ (∃ other, entry.2.admission = .mergeRequest other ∧ _) ↔ _
  simp only [admitted, QueueAdmission.mergeRequest.injEq, exists_eq_left']
  constructor
  · rintro ⟨accepts, opens, -, sameTarget, head, base, url, same, kept⟩
    refine ⟨opens, accepts.valid, ?_, same, kept⟩
    obtain ⟨canonical, configured, -, provided⟩ := accepts.canonical
    obtain ⟨other, configured', -, provided'⟩ := accepted.canonical
    obtain rfl := Option.some_inj.mp (configured.symm.trans configured')
    have provider := Option.some_inj.mp (provided.symm.trans provided')
    have source := accepts.sourceRef
    have source' := accepted.sourceRef
    cases admission
    cases stored
    simp_all [QueueAdmission.requestKey, MergeRequestAdmission.sourceRef]
  · rintro ⟨opens, valid, rfl, same, kept⟩
    exact ⟨⟨valid, accepted.sourceRef, accepted.head, accepted.base, accepted.canonical⟩, opens,
      target, rfl, rfl, rfl, rfl, same, kept⟩

/-! ## One active item -/

/-- A transaction that commits nothing new leaves the state. -/
theorem settle_of_commits_iff {α : Type} {transaction : IntakeTx α}
    (kept : ∀ value later, transaction.Commits now value later → later = now) :
    transaction.settle now = now := by
  rcases settle_cases transaction now with same | ⟨value, commits⟩
  · exact same
  · exact kept value _ commits

/-- A branch of a repository and a merge request have one active item. A repeated admission of it
commits exactly when the repository accepts new work and nothing of the admission has changed; it
returns the item, and whether it commits or not it writes nothing. -/
theorem one_active_item_per_source (reachable : intake.Reachable now) :
    (∀ entry other, now.Active entry → now.Active other → entry.2.admission.isDirect = true →
      other.2.admission.isDirect = true → entry.1.repoKey = other.1.repoKey →
      entry.1.targetRef = other.1.targetRef →
      entry.2.admission.sourceBranch = other.2.admission.sourceBranch → entry = other) ∧
    (∀ entry other, now.Active entry → now.Active other → SameRequest entry other →
      entry = other) ∧
    (∀ entry request headSha id, now.Active entry →
      entry.2.admission = .direct request.sourceBranch headSha →
      request.repoKey = entry.1.repoKey →
      (∀ value later, (admitDirect request entry.1.targetRef id).Commits now value later ↔
        now.Opens entry.1.repoKey ∧ request.currentHeadSha = headSha ∧
          request.stateRepository = entry.2.stateRepository ∧ value = entry.1.id ∧ later = now) ∧
      intake.step now (.admitDirect request entry.1.targetRef id) = now) ∧
    ∀ entry stored admission stateRepository id, now.Active entry →
      entry.2.admission = .mergeRequest stored →
      (QueueAdmission.mergeRequest stored).requestKey =
        (QueueAdmission.mergeRequest admission).requestKey →
      (∀ value later, (admitMergeRequest entry.1.repoKey admission stateRepository id).Commits now
          value later ↔
        now.Opens entry.1.repoKey ∧ stateRepository.validate = .ok () ∧ admission = stored ∧
          value = entry.1.id ∧ later = now) ∧
      intake.step now (.admitMergeRequest entry.1.repoKey admission stateRepository id) = now := by
  have sound := intake_sound reachable
  refine ⟨?_, ?_, ?_, ?_⟩
  · intro entry other active active' direct direct' repository target branch
    have found := sound.trackedBranch active direct
    rw [repository, target, branch, sound.trackedBranch active' direct'] at found
    exact (Option.some_inj.mp found).symm
  · rintro entry other active active' ⟨repository, key, keyed, keyed'⟩
    cases admitted : other.2.admission with
    | localSubmission | direct =>
      rw [admitted] at keyed'
      cases keyed'
    | mergeRequest stored =>
      have same := keyed.trans keyed'.symm
      rw [admitted] at same
      have found := sound.trackedRequest active same
      rw [repository, sound.trackedRequest active' (congrArg _ admitted)] at found
      exact (Option.some_inj.mp found).symm
  · intro entry request headSha id active admitted repository
    have outcome := fun value later =>
      @Intake.Sound.commits_repeatedBranch now later request id value entry sound active headSha
        admitted repository
    refine ⟨outcome, settle_of_commits_iff fun value later commits => ?_⟩
    exact ((outcome value later).mp commits).2.2.2.2
  · intro entry stored admission stateRepository id active admitted keyed
    have outcome := fun value later =>
      @Intake.Sound.commits_repeatedRequest now later id value admission stateRepository entry
        sound active stored admitted keyed
    refine ⟨outcome, settle_of_commits_iff fun value later commits => ?_⟩
    exact ((outcome value later).mp commits).2.2.2.2

/-! ## A sample intake -/

namespace Sample

/-- The sample installation with its policy of direct admission. -/
def emptyIntake : Intake where
  queue := emptyQueue
  canonical := ⟨[⟨"repo", .direct, none⟩], List.nodup_singleton _⟩
  admissions := .empty

/-- The admission of a branch of the sample repository. -/
def branchRequest : DirectAdmissionRequest := ⟨"repo", "topic", sourceSha, .local⟩

/-- The sample branch is admitted and the repository drained. -/
def drainedAdmission : List IntakeCommand :=
  [.admitDirect branchRequest Sample.targetRef "first",
    .work (.store (.beginRepositoryDraining "repo"))]

/-- The sample's intakes are reachable. -/
theorem reachable_intake (commands : List IntakeCommand) :
    intake.Reachable (intake.run emptyIntake commands) :=
  ⟨emptyIntake, commands, ⟨emptyQueue_initial, rfl⟩, rfl⟩

end Sample

/-- After the admission of the sample branch its item is the only active one of its source. -/
theorem one_active_item_sample :
    let now := intake.run Sample.emptyIntake
      [.admitDirect Sample.branchRequest Sample.targetRef "first"]
    now.admitted.map (fun entry => (entry.1.id, entry.1.status)) = [("first", .ready)] ∧
      ∀ entry other, now.Active entry → now.Active other → SameRequest entry other →
        entry = other :=
  ⟨by decide +kernel, (one_active_item_per_source (Sample.reachable_intake _)).2.1⟩

/-- While the repository drains, a repeated admission of its active branch is refused. -/
theorem repeated_admission_refused :
    ∃ now entry, intake.Reachable now ∧ now.Active entry ∧
      entry.2.admission = .direct Sample.branchRequest.sourceBranch
        Sample.branchRequest.currentHeadSha ∧
      entry.2.stateRepository = Sample.branchRequest.stateRepository ∧
      entry.1.repoKey = Sample.branchRequest.repoKey ∧ entry.1.targetRef = Sample.targetRef ∧
      (admitDirect Sample.branchRequest Sample.targetRef "second").Aborts now
        (.refused "repository is draining and rejects new work") := by
  refine ⟨intake.run Sample.emptyIntake Sample.drainedAdmission,
    ⟨remoteItem "first" "repo" Sample.targetRef, Sample.branchRequest.row "first"⟩,
    Sample.reachable_intake _, ⟨?_, rfl⟩, rfl, rfl, rfl, rfl, reason?_eq_some.mp ?_⟩
  · decide +kernel
  · decide +kernel

end Iq
