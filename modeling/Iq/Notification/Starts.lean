import Iq.Notification.Sound
import Mathlib.Data.List.Perm.Subperm

/-!
# How often a delivery is started

The bound on the starts of a delivery in every reachable state, and what becomes of a row that was
started or has reached a final state.
-/

namespace Iq.Notification

open Library

variable {parse : String → Except String Int} {config : Nat → Config} {system : System}
  {journal : Journal} {bound : Nat} {row : Delivery} {store : Store}

/-! ## What a run bounds -/

/-- Every reachable system is sound. -/
theorem sound_reachable (limits : ∀ pid, (config pid).maxAttempts ≤ bound)
    (reachable : (notifications parse config).Reachable system) : system.Sound bound := by
  refine reachable.invariant (fun start initial => ?_) fun _ label sound => sound.step limits label
  rw [show start = _ from initial]
  exact ⟨⟨fun _ mem => absurd mem (Table.not_mem_empty _),
    fun _ mem => absurd mem (Table.not_mem_empty _),
    fun _ mem => absurd mem (Table.not_mem_empty _), nofun, nofun, .nil⟩,
    fun _ => follows_idle, nofun⟩

/-- A delivery is started at most as often as the bound. -/
theorem Journal.Recorded.starts_le (recorded : journal.Recorded bound) (id : Nat) :
    journal.starts id ≤ bound := by
  by_cases started : ∃ start ∈ journal.marks, start.id = id
  · obtain ⟨start, mem, rfl⟩ := started
    obtain ⟨-, row, stored, same⟩ := recorded.marks start mem
    have bounded := recorded.bounded row stored
    rw [← same]
    unfold Delivery.Bounded at bounded
    split at bounded <;> omega
  · have none_started : journal.starts id = 0 :=
      List.countP_eq_zero.mpr fun start mem same => started ⟨start, mem, beq_iff_eq.mp same⟩
    rw [none_started]
    exact Nat.zero_le _

/-- Every command that is run has a start mark of its own. -/
theorem Journal.Recorded.commandsOf_le (recorded : journal.Recorded bound) (id : Nat) :
    journal.commandsOf id ≤ journal.starts id := by
  have distinct : journal.commands.Nodup := List.Nodup.of_map _ recorded.once
  have contained : journal.commands.Subperm journal.marks :=
    List.subperm_of_subset distinct fun start mem => recorded.commands start mem
  exact contained.countP_le _

/-! ## What becomes of a row -/

/-- A step records the outcome of the command that was started under a claim. -/
def System.Records (system : System) (label : Label) (claimId : String) : Prop :=
  ∃ pid retryAt delivery outcome, label = .record pid retryAt ∧
    system.dispatchers pid = .ran delivery outcome ∧ delivery.claimId = claimId

/-- A statement starts nothing. -/
theorem starts_execute {id : Nat} (statement : Store → Except String Store) :
    (journal.execute statement).starts id = journal.starts id := by
  unfold Journal.execute
  split <;> rfl

/-- A row in another state stays as it is. -/
theorem mem_of_setDeliveryState {id attempts : Nat} {expected next : DeliveryState}
    {nextAttemptAt : Option String} (mem : row ∈ journal.store.deliveries)
    (other : row.state ≠ expected) :
    row ∈ (journal.execute (setDeliveryState id expected next attempts
      nextAttemptAt)).store.deliveries := by
  unfold Journal.execute
  split
  · exact mem
  · rename_i later set
    rw [(setDeliveryState_eq_ok.mp set).2]
    have missed : row.isAt id expected = false :=
      Bool.not_eq_true _ ▸ fun hit => other (isAt_iff.mp hit).2
    exact mem_setState.mpr (.inl ⟨mem, missed⟩)

/-- A restart leaves a row that is neither claimed nor running. -/
theorem mem_markStartedUnknown (mem : row ∈ store.deliveries)
    (unclaimed : row.state.isClaimed = false) :
    (row.state.isRunning = false → row ∈ (markStartedUnknownAfterRestart store).deliveries) ∧
      (row.state.isRunning = true → { row with
        state := .deliveryUnknown
        nextAttemptAt := none } ∈ (markStartedUnknownAfterRestart store).deliveries) := by
  have first : row ∈ (store.setState (·.state.isClaimed) .pending Delivery.attemptCount
      Delivery.nextAttemptAt).deliveries := mem_setState.mpr (.inl ⟨mem, unclaimed⟩)
  exact ⟨fun still => mem_setState.mpr (.inl ⟨first, still⟩),
    fun running => mem_setState.mpr (.inr ⟨row, first, running, rfl⟩)⟩

/-- A row that is neither pending nor claimed stays as it is and is not started, unless its command
is recorded or the daemon restarts while it runs. -/
theorem step_row (mem : row ∈ system.journal.store.deliveries) (not_pending : row.state ≠ .pending)
    (unclaimed : ∀ claimId, row.state ≠ .claimed claimId) (label : Label) :
    (∃ claimId, row.state = .running claimId ∧ system.Records label claimId) ∨
      (system.step parse config label).journal.starts row.id = system.journal.starts row.id ∧
      (row ∈ (system.step parse config label).journal.store.deliveries ∨
        ∃ claimId, row.state = .running claimId ∧ label = .restart ∧
          { row with
            state := .deliveryUnknown
            nextAttemptAt := none } ∈
            (system.step parse config label).journal.store.deliveries) := by
  have missed : ∀ id claimId, row.isAt id (.claimed claimId) = false := fun id claimId =>
    Bool.not_eq_true _ ▸ fun hit => unclaimed claimId (isAt_iff.mp hit).2
  cases label with
  | append event now => exact .inr ⟨rfl, .inl ((extends_appendAlert event now).remains row mem)⟩
  | configure pid => exact .inr ⟨rfl, .inl mem⟩
  | claim pid now claimId =>
    refine .inr ?_
    show (system.claim config pid now claimId).journal.starts row.id = _ ∧
      (row ∈ (system.claim config pid now claimId).journal.store.deliveries ∨ _)
    unfold System.claim
    split
    · split
      · exact ⟨rfl, .inl mem⟩
      · split
        · rename_i delivery later claimed
          obtain ⟨-, -, -, -, -, rfl⟩ := claimNext_eq_some claimed
          have passed : row.isAt delivery.id .pending = false :=
            Bool.not_eq_true _ ▸ fun hit => not_pending (isAt_iff.mp hit).2
          exact ⟨rfl, .inl (mem_setState.mpr (.inl ⟨mem, passed⟩))⟩
        · exact ⟨rfl, .inl mem⟩
    · exact ⟨rfl, .inl mem⟩
  | proceed pid now =>
    refine .inr ?_
    show (system.proceed parse config pid now).journal.starts row.id = _ ∧
      (row ∈ (system.proceed parse config pid now).journal.store.deliveries ∨ _)
    unfold System.proceed
    split
    · rename_i delivery held
      split
      · exact ⟨rfl, .inl mem⟩
      · exact ⟨rfl, .inl mem⟩
      · exact ⟨starts_execute _, .inl (mem_of_setDeliveryState mem (unclaimed delivery.claimId))⟩
      · split
        · exact ⟨rfl, .inl mem⟩
        · rename_i later marked
          obtain ⟨⟨other, stored, id, state⟩, rfl⟩ := markCommandStarted_eq_ok.mp marked
          have apart_id : delivery.id ≠ row.id := by
            intro same
            have equal := Table.eq_of_key stored mem (id.trans same)
            exact unclaimed delivery.claimId (equal ▸ state)
          refine ⟨?_, .inl (mem_setState.mpr (.inl ⟨mem, missed _ _⟩))⟩
          show List.countP (·.id == row.id) (_ :: system.journal.marks) = _
          rw [List.countP_cons, if_neg (by simpa using apart_id)]
          rfl
    · exact ⟨rfl, .inl mem⟩
  | run pid outcome =>
    refine .inr ?_
    show (system.run pid outcome).journal.starts row.id = _ ∧
      (row ∈ (system.run pid outcome).journal.store.deliveries ∨ _)
    unfold System.run
    split <;> exact ⟨rfl, .inl mem⟩
  | record pid retryAt =>
    show _ ∨ (system.record config pid retryAt).journal.starts row.id = _ ∧
      (row ∈ (system.record config pid retryAt).journal.store.deliveries ∨ _)
    unfold System.record
    split
    · rename_i delivery outcome ran
      by_cases own : row.state = .running delivery.claimId
      · exact .inl ⟨_, own, pid, retryAt, delivery, outcome, rfl, ran, rfl⟩
      · obtain ⟨next, nextAttemptAt, recorded, -⟩ :=
          recordOutcome_eq (config pid) delivery outcome retryAt
        rw [recorded]
        exact .inr ⟨starts_execute _, .inl (mem_of_setDeliveryState mem own)⟩
    · exact .inr ⟨rfl, .inl mem⟩
  | stop pid => exact .inr ⟨rfl, .inl mem⟩
  | restart =>
    refine .inr ⟨rfl, ?_⟩
    have free : row.state.isClaimed = false := by
      cases state : row.state with
      | claimed claimId => exact absurd state (unclaimed claimId)
      | _ => rfl
    have marked := mem_markStartedUnknown mem free
    cases state : row.state with
    | running claimId => exact .inr ⟨claimId, rfl, rfl, marked.2 (by rw [state]; rfl)⟩
    | _ => exact .inl (marked.1 (by rw [state]; rfl))
  | redeliver id actor now =>
    refine .inr ?_
    show (system.journal.execute (redeliver id actor now)).starts row.id = _ ∧
      (row ∈ (system.journal.execute (redeliver id actor now)).store.deliveries ∨ _)
    unfold Journal.execute
    split
    · exact ⟨rfl, .inl mem⟩
    · rename_i later redelivered
      exact ⟨rfl, .inl ((extends_redeliver redelivered).remains row mem)⟩

/-- A final row stays as it is, and it is not started again. -/
theorem final_run (mem : row ∈ system.journal.store.deliveries) (final : row.state.isFinal = true)
    (labels : List Label) :
    row ∈ ((notifications parse config).run system labels).journal.store.deliveries ∧
      ((notifications parse config).run system labels).journal.starts row.id =
        system.journal.starts row.id := by
  have kept : ∀ (now : System) label, row ∈ now.journal.store.deliveries ∧
      now.journal.starts row.id = system.journal.starts row.id →
      row ∈ ((notifications parse config).step now label).journal.store.deliveries ∧
        ((notifications parse config).step now label).journal.starts row.id =
          system.journal.starts row.id := by
    intro now label held
    have not_pending : row.state ≠ .pending := fun state => by rw [state] at final; cases final
    have unclaimed : ∀ claimId, row.state ≠ .claimed claimId :=
      fun claimId state => by rw [state] at final; cases final
    have not_running : ∀ claimId, row.state ≠ .running claimId :=
      fun claimId state => by rw [state] at final; cases final
    rcases @step_row parse config now row held.1 not_pending unclaimed label with
      ⟨claimId, state, -⟩ | ⟨starts, stays | ⟨claimId, state, -⟩⟩
    · exact absurd state (not_running claimId)
    · exact ⟨stays, starts.trans held.2⟩
    · exact absurd state (not_running claimId)
  exact Machine.run_keeps kept ⟨mem, rfl⟩ labels

/-- A row whose command was started stays running or becomes unknown, and it is not started again,
until the outcome is recorded under its claim. -/
theorem running_run {claimId : String} (mem : row ∈ system.journal.store.deliveries)
    (running : row.state = .running claimId) (labels : List Label) :
    (((notifications parse config).run system labels).journal.starts row.id =
        system.journal.starts row.id ∧
      (row ∈ ((notifications parse config).run system labels).journal.store.deliveries ∨
        { row with
          state := .deliveryUnknown
          nextAttemptAt := none } ∈
          ((notifications parse config).run system labels).journal.store.deliveries)) ∨
      ∃ before label rest, labels = before ++ label :: rest ∧
        ((notifications parse config).run system before).Records label claimId := by
  let Waits : System → Prop := fun now =>
    now.journal.starts row.id = system.journal.starts row.id ∧
      (row ∈ now.journal.store.deliveries ∨ { row with
        state := .deliveryUnknown
        nextAttemptAt := none } ∈ now.journal.store.deliveries)
  have kept : ∀ (now : System) label, Waits now →
      Waits ((notifications parse config).step now label) ∨ now.Records label claimId := by
    rintro now label ⟨starts, waits | unknown⟩
    · rcases @step_row parse config now row waits (by rw [running]; exact nofun)
        (fun _ => by rw [running]; exact nofun) label with
        ⟨claim, state, records⟩ | ⟨same, stays | ⟨claim, -, -, marked⟩⟩
      · rw [running] at state
        cases state
        exact .inr records
      · exact .inl ⟨same.trans starts, .inl stays⟩
      · exact .inl ⟨same.trans starts, .inr marked⟩
    · have final := @final_run parse config now _ unknown rfl [label]
      exact .inl ⟨final.2.trans starts, .inr final.1⟩
  rcases Machine.run_keeps_until kept ⟨rfl, .inl mem⟩ labels with
    waits | ⟨before, label, rest, split, -, records⟩
  · exact .inl waits
  · exact .inr ⟨before, label, rest, split, records⟩

/-- In every state of every run a delivery has at most as many commands as start marks and at most
as many start marks as the bound of attempts; a running row is not started again before its outcome
is recorded, a restart makes it unknown, and a row in a final state stays as it is and is not
started again. -/
theorem notifications_bounded (limits : ∀ pid, (config pid).maxAttempts ≤ bound)
    (reachable : (notifications parse config).Reachable system) :
    (∀ id, system.journal.commandsOf id ≤ system.journal.starts id ∧
      system.journal.starts id ≤ bound) ∧
    (∀ row ∈ system.journal.store.deliveries, ∀ claimId, row.state = .running claimId →
      (∀ labels,
        (((notifications parse config).run system labels).journal.starts row.id =
            system.journal.starts row.id ∧
          (row ∈ ((notifications parse config).run system labels).journal.store.deliveries ∨
            { row with
              state := .deliveryUnknown
              nextAttemptAt := none } ∈
              ((notifications parse config).run system labels).journal.store.deliveries)) ∨
          ∃ before label rest, labels = before ++ label :: rest ∧
            ((notifications parse config).run system before).Records label claimId) ∧
      { row with
        state := .deliveryUnknown
        nextAttemptAt := none } ∈
        (system.step parse config .restart).journal.store.deliveries) ∧
    (∀ row ∈ system.journal.store.deliveries, row.state.isFinal = true → ∀ labels,
      row ∈ ((notifications parse config).run system labels).journal.store.deliveries ∧
        ((notifications parse config).run system labels).journal.starts row.id =
          system.journal.starts row.id) := by
  have sound := sound_reachable limits reachable
  refine ⟨fun id => ⟨sound.recorded.commandsOf_le id, sound.recorded.starts_le id⟩,
    fun row mem claimId running => ⟨running_run mem running, ?_⟩,
    fun row mem final => final_run mem final⟩
  have marked := mem_markStartedUnknown mem (by rw [running]; rfl)
  exact marked.2 (by rw [running]; rfl)

/-- One backend and five attempts. -/
def wslgConfig : Config :=
  ⟨[.wslg "/usr/bin/notify-send"], 5, 86400, by decide, by decide, by decide⟩

/-- An alert whose dispatcher stops between the start mark and the command, before a restart. -/
def crashedRun : System :=
  (notifications parseTime fun _ => wslgConfig).run
    ⟨⟨⟨.empty, 0, .empty, []⟩, [], [], []⟩, fun _ => .idle⟩
    [.configure 0,
      .append ⟨"e1", "item", "guidance_required", "2026-01-01T00:00:00+00:00", .null, .null, .null⟩
        "2026-01-01T00:00:00+00:00",
      .claim 0 "2026-01-01T00:01:00+00:00" "claim", .proceed 0 1767225660, .stop 0, .restart]

/-- The sample's delivery was started once before the crash and never after it. -/
theorem notifications_bounded_crash :
    crashedRun.journal.starts 1 = 1 ∧
      (∀ id, crashedRun.journal.commandsOf id ≤ crashedRun.journal.starts id ∧
        crashedRun.journal.starts id ≤ 5) ∧
      ∀ labels, ⟨1, "e1", .wslg, .deliveryUnknown, 0, none, none⟩ ∈
        ((notifications parseTime fun _ => wslgConfig).run crashedRun
          labels).journal.store.deliveries := by
  have limits : ∀ pid : Nat, ((fun _ => wslgConfig) pid).maxAttempts ≤ 5 := fun _ => Nat.le_refl 5
  have reachable : (notifications parseTime fun _ => wslgConfig).Reachable crashedRun :=
    ⟨_, _, rfl, rfl⟩
  have whole := notifications_bounded limits reachable
  have unknown : ⟨1, "e1", .wslg, .deliveryUnknown, 0, none, none⟩ ∈
      crashedRun.journal.store.deliveries.rows := by decide +kernel
  exact ⟨by decide +kernel, whole.1, fun labels => (whole.2.2 _ unknown rfl labels).1⟩

end Iq.Notification
