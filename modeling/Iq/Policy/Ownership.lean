import Iq.Policy.Inventory

/-!
# Ownership of physical repositories

`reserve_policy_physical_ownership`: the physical repositories that a policy names belong to it
alone. A row of the table reserves one of them under the key of its destination; rows are only
added.
-/

namespace Iq.Policy

open Library

/-! ## Reservations -/

/-- A row of `physical_repository_ownership`. -/
structure PhysicalOwnership where
  identityKey : String
  repoKey : String
  role : String
  ordinal : Nat
  repositoryJson : String
  deriving DecidableEq, Repr

/-- `physical_repositories`. -/
def RepositoryPolicy.physicalRepositories (policy : RepositoryPolicy) :
    List (GitRepository × String × Nat) :=
  (policy.canonicalRepository, "canonical", 0) ::
    policy.targets.zipIdx.map fun (repository, ordinal) => (repository, "replica", ordinal)

/-- A step of `reserve_policy_physical_ownership`. -/
def reserveRepository (repoKey : String) (owners : List PhysicalOwnership)
    (entry : GitRepository × String × Nat) : Except String (List PhysicalOwnership) :=
  let (repository, role, ordinal) := entry
  let identityKey := repository.destinationIdentityKey
  match repository.toValue? with
  | none => .error "path contains invalid UTF-8 characters"
  | some value =>
    let owner : PhysicalOwnership :=
      ⟨identityKey, repoKey, role, ordinal, String.ofList value.compact⟩
    match owners.find? fun existing => existing.identityKey == identityKey with
    | some existing =>
      if existing = owner then .ok owners
      else .error (s!"physical repository is already reserved as {existing.role} " ++
        s!"by repository {existing.repoKey}")
    | none =>
      -- The trigger of the table guards its unique columns as well.
      if owners.any fun existing => existing.repoKey == repoKey && existing.role == role &&
          existing.ordinal == ordinal then
        .error "physical repository ownership authority already exists"
      else .ok (owners ++ [owner])

/-- `reserve_policy_physical_ownership`. -/
def reservePolicyPhysicalOwnership (owners : List PhysicalOwnership) (repoKey : String)
    (policy : RepositoryPolicy) : Except String (List PhysicalOwnership) := do
  let owners ← policy.physicalRepositories.foldlM (reserveRepository repoKey) owners
  check ((owners.filter fun owner => owner.repoKey == repoKey).length ==
      policy.physicalRepositories.length)
    "repository physical ownership inventory differs from policy"
  return owners

/-- A step of `reserve_all_policy_physical_ownership`. -/
def reserveStoredPolicy (owners : List PhysicalOwnership) (stored : String × RepositoryPolicy) :
    Except String (List PhysicalOwnership) := do
  let policy ← stored.2.validate
  reservePolicyPhysicalOwnership owners stored.1 policy

/-- `reserve_all_policy_physical_ownership`, over the rows before and the stored policies in an
order. -/
def reserveAllPolicyPhysicalOwnership (owners : List PhysicalOwnership)
    (stored : List (String × RepositoryPolicy)) : Except String (List PhysicalOwnership) :=
  stored.foldlM reserveStoredPolicy owners

/-! ## What the reservations keep apart -/

variable {repoKey : String} {owners result : List PhysicalOwnership}
  {entries : List (GitRepository × String × Nat)}

/-- The row that reserves a repository. -/
def ownershipOf (repoKey : String) (entry : GitRepository × String × Nat) : PhysicalOwnership where
  identityKey := entry.1.destinationIdentityKey
  repoKey := repoKey
  role := entry.2.1
  ordinal := entry.2.2
  repositoryJson := String.ofList (entry.1.toValue?.elim [] JsonText.compact)

/-- The position of a repository in its policy. -/
def ownerPosition (owner : PhysicalOwnership) : String × String × Nat :=
  (owner.repoKey, owner.role, owner.ordinal)

/-- A repository at a new position is reserved exactly if its key is not. -/
theorem reserveRepository_eq_ok {entry : GitRepository × String × Nat}
    (storable : entry.1.Storable)
    (fresh : ownerPosition (ownershipOf repoKey entry) ∉ owners.map ownerPosition) :
    reserveRepository repoKey owners entry = .ok result ↔
      entry.1.destinationIdentityKey ∉ owners.map PhysicalOwnership.identityKey ∧
        result = owners ++ [ownershipOf repoKey entry] := by
  obtain ⟨repository, role, ordinal⟩ := entry
  obtain ⟨value, written, -⟩ := GitRepository.exists_value storable
  have row : ownershipOf repoKey (repository, role, ordinal) =
      ⟨repository.destinationIdentityKey, repoKey, role, ordinal, String.ofList value.compact⟩ := by
    simp [ownershipOf, written]
  rw [row] at fresh ⊢
  unfold reserveRepository
  simp only [written]
  cases found : owners.find? fun existing =>
      existing.identityKey == repository.destinationIdentityKey with
  | some existing =>
    have mem := List.mem_of_find?_eq_some found
    have same : existing.identityKey = repository.destinationIdentityKey := by
      simpa using List.find?_some found
    have other : existing ≠ ⟨repository.destinationIdentityKey, repoKey, role, ordinal,
        String.ofList value.compact⟩ := by
      rintro rfl
      exact fresh (List.mem_map_of_mem mem)
    simp only [if_neg other]
    constructor
    · exact nofun
    · rintro ⟨unreserved, -⟩
      exact absurd (same ▸ List.mem_map_of_mem mem) unreserved
  | none =>
    have unreserved : repository.destinationIdentityKey ∉
        owners.map PhysicalOwnership.identityKey := by
      intro mem
      obtain ⟨owner, mem, same⟩ := List.mem_map.mp mem
      have missed := List.find?_eq_none.mp found owner mem
      rw [same, beq_self_eq_true] at missed
      exact missed rfl
    have unguarded : ¬(owners.any fun existing => existing.repoKey == repoKey &&
        existing.role == role && existing.ordinal == ordinal) = true := by
      intro guarded
      obtain ⟨owner, mem, hit⟩ := List.any_eq_true.mp guarded
      simp only [Bool.and_eq_true, beq_iff_eq] at hit
      obtain ⟨⟨sameKey, sameRole⟩, sameOrdinal⟩ := hit
      refine fresh (List.mem_map.mpr ⟨owner, mem, ?_⟩)
      rw [ownerPosition, sameKey, sameRole, sameOrdinal]
      rfl
    simp only [if_neg unguarded, Except.ok.injEq]
    exact ⟨fun same => ⟨unreserved, same.symm⟩, fun both => both.2.symm⟩

/-- Repositories at new positions are reserved exactly if their keys are new and distinct. -/
theorem foldlM_reserveRepository (storable : ∀ entry ∈ entries, entry.1.Storable)
    (fresh : ((owners ++ entries.map (ownershipOf repoKey)).map ownerPosition).Nodup)
    (distinct : (owners.map PhysicalOwnership.identityKey).Nodup) :
    entries.foldlM (reserveRepository repoKey) owners = .ok result ↔
      ((owners ++ entries.map (ownershipOf repoKey)).map PhysicalOwnership.identityKey).Nodup ∧
        result = owners ++ entries.map (ownershipOf repoKey) := by
  induction entries generalizing owners with
  | nil =>
    rw [List.map_nil, List.append_nil, List.foldlM_nil]
    exact ⟨fun same => ⟨distinct, (Except.ok.inj same).symm⟩, fun both => congrArg _ both.2.symm⟩
  | cons entry rest reserved_rest =>
    have first : entry.1.Storable := storable entry List.mem_cons_self
    have others : ∀ entry ∈ rest, entry.1.Storable :=
      fun other mem => storable other (List.mem_cons_of_mem _ mem)
    have position : ownerPosition (ownershipOf repoKey entry) ∉ owners.map ownerPosition := by
      rw [List.map_append, List.map_cons, List.map_cons] at fresh
      intro mem
      exact (List.nodup_append.mp fresh).2.2 _ mem _ List.mem_cons_self rfl
    have whole : owners ++ (entry :: rest).map (ownershipOf repoKey) =
        (owners ++ [ownershipOf repoKey entry]) ++ rest.map (ownershipOf repoKey) := by
      rw [List.map_cons, List.append_assoc, List.singleton_append]
    rw [whole] at fresh ⊢
    rw [List.foldlM_cons, Checked.bind_eq_ok]
    have snoc : ((owners ++ [ownershipOf repoKey entry]).map PhysicalOwnership.identityKey).Nodup ↔
        entry.1.destinationIdentityKey ∉ owners.map PhysicalOwnership.identityKey := by
      rw [List.map_append, List.map_singleton, List.nodup_append_comm, List.singleton_append,
        List.nodup_cons]
      exact and_iff_left distinct
    constructor
    · rintro ⟨middle, step, loop⟩
      obtain ⟨unreserved, rfl⟩ := (reserveRepository_eq_ok first position).mp step
      exact (reserved_rest others fresh (snoc.mpr unreserved)).mp loop
    · rintro ⟨nodup, same⟩
      have part : ((owners ++ [ownershipOf repoKey entry]).map
          PhysicalOwnership.identityKey).Nodup := by
        rw [List.map_append] at nodup
        exact (List.nodup_append.mp nodup).1
      refine ⟨_, (reserveRepository_eq_ok first position).mpr ⟨snoc.mp part, rfl⟩, ?_⟩
      exact (reserved_rest others fresh part).mpr ⟨nodup, same⟩

/-- The rows that reserve the repositories of a policy. -/
def ownersOf (repoKey : String) (policy : RepositoryPolicy) : List PhysicalOwnership :=
  policy.physicalRepositories.map (ownershipOf repoKey)

variable {policy : RepositoryPolicy} {stored : List (String × RepositoryPolicy)}

/-- The physical repositories of a policy are its repositories. -/
theorem physicalRepositories_fst (policy : RepositoryPolicy) :
    policy.physicalRepositories.map Prod.fst = policy.repositories := by
  unfold RepositoryPolicy.physicalRepositories RepositoryPolicy.repositories
  rw [List.map_cons, List.map_map]
  exact congrArg _ (List.zipIdx_map_fst 0 policy.targets)

/-- The keys of the rows of a policy are the keys of its repositories. -/
theorem identityKeys_ownersOf (repoKey : String) (policy : RepositoryPolicy) :
    (ownersOf repoKey policy).map PhysicalOwnership.identityKey =
      policy.repositories.map GitRepository.destinationIdentityKey := by
  rw [← physicalRepositories_fst, ownersOf, List.map_map, List.map_map]
  rfl

/-- The owners of a policy have its key. -/
theorem repoKey_of_mem_ownersOf {owner : PhysicalOwnership}
    (mem : owner ∈ ownersOf repoKey policy) : owner.repoKey = repoKey := by
  obtain ⟨entry, -, rfl⟩ := List.mem_map.mp mem
  rfl

/-- The repositories of a policy stand at distinct positions. -/
theorem nodup_positions (repoKey : String) (policy : RepositoryPolicy) :
    ((ownersOf repoKey policy).map ownerPosition).Nodup := by
  unfold ownersOf RepositoryPolicy.physicalRepositories
  rw [List.map_cons, List.map_cons, List.nodup_cons]
  constructor
  · intro mem
    obtain ⟨owner, reserved, same⟩ := List.mem_map.mp mem
    obtain ⟨entry, listed, rfl⟩ := List.mem_map.mp reserved
    obtain ⟨target, -, rfl⟩ := List.mem_map.mp listed
    have roles : "replica" = "canonical" := congrArg (fun position => position.2.1) same
    exact absurd roles (by decide)
  · have ordinals : (policy.targets.zipIdx.map Prod.snd).Nodup := by
      rw [List.zipIdx_map_snd]
      exact List.nodup_range'
    rw [List.map_map, List.map_map]
    refine List.Nodup.of_map (fun position => position.2.2) ?_
    rw [List.map_map]
    exact ordinals

/-- The positions of the rows of a policy under a new key are new. -/
theorem nodup_positions_append (fresh : ∀ owner ∈ owners, owner.repoKey ≠ repoKey)
    (positions : (owners.map ownerPosition).Nodup) :
    ((owners ++ ownersOf repoKey policy).map ownerPosition).Nodup := by
  rw [List.map_append]
  refine List.nodup_append.mpr ⟨positions, nodup_positions repoKey policy, ?_⟩
  rintro position mem other mem' rfl
  obtain ⟨owner, mem, same⟩ := List.mem_map.mp mem
  obtain ⟨new, mem', same'⟩ := List.mem_map.mp mem'
  refine fresh owner mem ?_
  have keys : owner.repoKey = new.repoKey := congrArg Prod.fst (same.trans same'.symm)
  rw [keys, repoKey_of_mem_ownersOf mem']

/-- The reservation of a policy under a new key. -/
theorem reservePolicy_eq_ok (storable : ∀ repository ∈ policy.repositories, repository.Storable)
    (fresh : ∀ owner ∈ owners, owner.repoKey ≠ repoKey)
    (positions : (owners.map ownerPosition).Nodup)
    (distinct : (owners.map PhysicalOwnership.identityKey).Nodup) :
    reservePolicyPhysicalOwnership owners repoKey policy = .ok result ↔
      ((owners ++ ownersOf repoKey policy).map PhysicalOwnership.identityKey).Nodup ∧
        result = owners ++ ownersOf repoKey policy := by
  have stores : ∀ entry ∈ policy.physicalRepositories, entry.1.Storable := by
    intro entry mem
    apply storable
    rw [← physicalRepositories_fst]
    exact List.mem_map_of_mem mem
  have apart : ((owners ++ ownersOf repoKey policy).map ownerPosition).Nodup :=
    nodup_positions_append fresh positions
  have counted : ((owners ++ ownersOf repoKey policy).filter fun owner =>
      owner.repoKey == repoKey).length = policy.physicalRepositories.length := by
    have before : owners.filter (fun owner => owner.repoKey == repoKey) = [] :=
      List.filter_eq_nil_iff.mpr fun owner mem => by simpa using fresh owner mem
    have after : (ownersOf repoKey policy).filter (fun owner => owner.repoKey == repoKey) =
        ownersOf repoKey policy :=
      List.filter_eq_self.mpr fun owner mem => by simp [repoKey_of_mem_ownersOf mem]
    rw [List.filter_append, before, after, List.nil_append, ownersOf, List.length_map]
  unfold reservePolicyPhysicalOwnership
  rw [Checked.bind_eq_ok]
  constructor
  · rintro ⟨middle, loop, accepted⟩
    obtain ⟨nodup, rfl⟩ := (foldlM_reserveRepository stores apart distinct).mp loop
    obtain ⟨-, same⟩ := Checked.seq_eq_ok.mp accepted
    exact ⟨nodup, (Except.ok.inj same).symm⟩
  · rintro ⟨nodup, rfl⟩
    refine ⟨_, (foldlM_reserveRepository stores apart distinct).mpr ⟨nodup, rfl⟩, ?_⟩
    refine Checked.seq_eq_ok.mpr ⟨check_eq_ok.mpr ?_, rfl⟩
    exact beq_iff_eq.mpr counted

/-- The rows that reserve the repositories of stored policies. -/
def allOwners (stored : List (String × RepositoryPolicy)) : List PhysicalOwnership :=
  stored.flatMap fun entry => ownersOf entry.1 entry.2

/-- Valid policies under distinct keys are all reserved exactly if no two of their repositories have
the same key. -/
theorem reserveAll_eq_ok (valid : ∀ entry ∈ stored, entry.2.validate = .ok entry.2)
    (keys : (stored.map Prod.fst).Nodup)
    (fresh : ∀ owner ∈ owners, owner.repoKey ∉ stored.map Prod.fst)
    (positions : (owners.map ownerPosition).Nodup)
    (distinct : (owners.map PhysicalOwnership.identityKey).Nodup) :
    reserveAllPolicyPhysicalOwnership owners stored = .ok result ↔
      ((owners ++ allOwners stored).map PhysicalOwnership.identityKey).Nodup ∧
        result = owners ++ allOwners stored := by
  induction stored generalizing owners with
  | nil =>
    rw [reserveAllPolicyPhysicalOwnership, List.foldlM_nil, allOwners, List.flatMap_nil,
      List.append_nil]
    exact ⟨fun same => ⟨distinct, (Except.ok.inj same).symm⟩, fun both => congrArg _ both.2.symm⟩
  | cons entry rest reserved_rest =>
    obtain ⟨repoKey, policy⟩ := entry
    have accepts : policy.validate = .ok policy := valid (repoKey, policy) List.mem_cons_self
    obtain ⟨-, -, storable⟩ := RepositoryPolicy.validate_eq_ok accepts
    obtain ⟨other, keys⟩ := List.nodup_cons.mp keys
    have apart : ∀ owner ∈ owners, owner.repoKey ≠ repoKey ∧ owner.repoKey ∉ rest.map Prod.fst := by
      intro owner mem
      exact not_or.mp fun either => fresh owner mem (List.mem_cons.mpr either)
    have new : ∀ owner ∈ owners, owner.repoKey ≠ repoKey := fun owner mem => (apart owner mem).1
    have step := @reservePolicy_eq_ok repoKey owners
    have whole : owners ++ allOwners ((repoKey, policy) :: rest) =
        (owners ++ ownersOf repoKey policy) ++ allOwners rest := by
      rw [allOwners, List.flatMap_cons, List.append_assoc]
      rfl
    have fresh_rest : ∀ owner ∈ owners ++ ownersOf repoKey policy,
        owner.repoKey ∉ rest.map Prod.fst := by
      intro owner mem
      rcases List.mem_append.mp mem with mem | mem
      · exact (apart owner mem).2
      · rw [repoKey_of_mem_ownersOf mem]
        exact other
    have positions_rest : ((owners ++ ownersOf repoKey policy).map ownerPosition).Nodup :=
      nodup_positions_append new positions
    have valid_rest : ∀ entry ∈ rest, entry.2.validate = .ok entry.2 :=
      fun entry mem => valid entry (List.mem_cons_of_mem _ mem)
    have first : reserveStoredPolicy owners (repoKey, policy) =
        reservePolicyPhysicalOwnership owners repoKey policy := by
      rw [reserveStoredPolicy, accepts]
      rfl
    rw [reserveAllPolicyPhysicalOwnership, List.foldlM_cons, first, whole, Checked.bind_eq_ok]
    constructor
    · rintro ⟨middle, reserved, loop⟩
      obtain ⟨nodup, rfl⟩ := (step storable new positions distinct).mp reserved
      exact (reserved_rest valid_rest keys fresh_rest positions_rest nodup).mp loop
    · rintro ⟨nodup, same⟩
      have part : ((owners ++ ownersOf repoKey policy).map PhysicalOwnership.identityKey).Nodup := by
        rw [List.map_append] at nodup
        exact (List.nodup_append.mp nodup).1
      refine ⟨_, (step storable new positions distinct).mpr ⟨part, rfl⟩, ?_⟩
      exact (reserved_rest valid_rest keys fresh_rest positions_rest part).mpr ⟨nodup, same⟩

/-- Valid policies under distinct keys, in any order, are reserved as one. -/
theorem reserveAll_nil_eq_ok (valid : ∀ entry ∈ stored, entry.2.validate = .ok entry.2)
    (keys : (stored.map Prod.fst).Nodup) :
    reserveAllPolicyPhysicalOwnership [] stored = .ok result ↔
      ((allOwners stored).map PhysicalOwnership.identityKey).Nodup ∧ result = allOwners stored := by
  have none : ∀ owner ∈ ([] : List PhysicalOwnership), owner.repoKey ∉ stored.map Prod.fst :=
    fun owner mem => absurd mem List.not_mem_nil
  exact reserveAll_eq_ok valid keys none List.nodup_nil List.nodup_nil

/-- The keys of all repositories that stored policies name. -/
def destinationKeys (stored : List (String × RepositoryPolicy)) : List String :=
  stored.flatMap fun entry => entry.2.repositories.map GitRepository.destinationIdentityKey

/-- The identities of all owners are the destinations of the policies. -/
theorem identityKeys_allOwners (stored : List (String × RepositoryPolicy)) :
    (allOwners stored).map PhysicalOwnership.identityKey = destinationKeys stored := by
  unfold allOwners destinationKeys
  rw [List.map_flatMap]
  exact List.flatMap_congr fun entry _ => identityKeys_ownersOf entry.1 entry.2

/-- The policies of an inventory under their keys. -/
def PolicyInventory.storedPolicies (inventory : PolicyInventory) : List (String × RepositoryPolicy) :=
  inventory.repositories.map fun assignment => (assignment.repoKey, assignment.policy)

/-- A validated inventory is the inventory that was given, and its keys and identifiers are
distinct. Whatever the order in which its policies are stored, they are reserved exactly if no two
repositories that they name have one key: this is not a matter of the inventory's validation. -/
theorem validated_inventory_reserved_iff {uuid : String → Option String}
    {inventory result : PolicyInventory} (accepted : inventory.validate uuid = .ok result) :
    result = inventory ∧
      (inventory.repositories.map PolicyAssignment.repoKey).Nodup ∧
      (inventory.repositories.flatMap PolicyAssignment.dispositionIds).Nodup ∧
      (inventory.repositories.flatMap PolicyAssignment.workspaceIds).Nodup ∧
      ∀ order : List (String × RepositoryPolicy), order.Perm inventory.storedPolicies →
        ((∃ owners, reserveAllPolicyPhysicalOwnership [] order = .ok owners) ↔
          (destinationKeys inventory.storedPolicies).Nodup) := by
  obtain ⟨same, names, policies⟩ := PolicyInventory.validate_eq_ok accepted
  have keys : (inventory.repositories.map PolicyAssignment.repoKey).Nodup := names.keys
  refine ⟨same, keys, names.dispositionIds, names.workspaceIds, fun order perm => ?_⟩
  have valid : ∀ entry ∈ order, entry.2.validate = .ok entry.2 := by
    intro entry mem
    obtain ⟨assignment, listed, rfl⟩ := List.mem_map.mp (perm.mem_iff.mp mem)
    exact policies assignment listed
  have distinct : (order.map Prod.fst).Nodup := by
    rw [(perm.map Prod.fst).nodup_iff, PolicyInventory.storedPolicies, List.map_map]
    exact keys
  have rows : (destinationKeys order).Perm (destinationKeys inventory.storedPolicies) :=
    perm.flatMap_right _
  rw [← rows.nodup_iff, ← identityKeys_allOwners]
  constructor
  · rintro ⟨owners, reserved⟩
    exact ((reserveAll_nil_eq_ok valid distinct).mp reserved).1
  · intro nodup
    exact ⟨_, (reserveAll_nil_eq_ok valid distinct).mpr ⟨nodup, rfl⟩⟩

/-- An inventory with a draining policy and one of a local repository. -/
def twoPolicies : PolicyInventory where
  version := 4
  repositories := [
    ⟨"0d8f2b5e-4c1a-4f6b-9a3e-1f2d3c4b5a69", drainingPolicy, .reserved .preserve,
      [⟨"w1", "/work/w1", "rift-w1", "rift-root", "0123456789abcdef0123456789abcdef01234567",
        some ⟨bytesOf "/work/w1", .sha1⟩⟩],
      [⟨"q1", .continue, none, none, none, none, none⟩]⟩,
    ⟨"7a6b5c4d-3e2f-4a1b-8c9d-0e1f2a3b4c5d",
      ⟨.enabled, .localBare (bytesOf "/srv/other.git") 64 4098 .sha1, "master", .direct, .none⟩,
      .ready (some ⟨bytesOf "/work/other", .sha1⟩), [], []⟩]

/-- The sample's policies are reserved in either order. -/
theorem validated_inventory_reserved_iff_two :
    ∃ owners, reserveAllPolicyPhysicalOwnership [] twoPolicies.storedPolicies.reverse =
      .ok owners := by
  have accepted : twoPolicies.validate some = .ok twoPolicies := by decide +kernel
  have distinct : (destinationKeys twoPolicies.storedPolicies).Nodup := by decide +kernel
  obtain ⟨-, -, -, -, reserved⟩ := validated_inventory_reserved_iff accepted
  exact (reserved _ (List.reverse_perm _)).mpr distinct

/-! ## Reserving again -/

/-- A row that stands under its key is found, and reserving it again changes nothing. -/
theorem reserveRepository_again {entry : GitRepository × String × Nat}
    (storable : entry.1.Storable)
    (distinct : (owners.map PhysicalOwnership.identityKey).Nodup)
    (reserved : ownershipOf repoKey entry ∈ owners) :
    reserveRepository repoKey owners entry = .ok owners := by
  obtain ⟨repository, role, ordinal⟩ := entry
  obtain ⟨value, written, -⟩ := GitRepository.exists_value storable
  have row : ownershipOf repoKey (repository, role, ordinal) =
      ⟨repository.destinationIdentityKey, repoKey, role, ordinal, String.ofList value.compact⟩ := by
    simp [ownershipOf, written]
  rw [row] at reserved
  unfold reserveRepository
  simp only [written]
  cases found : owners.find? fun existing =>
      existing.identityKey == repository.destinationIdentityKey with
  | none =>
    have missed := List.find?_eq_none.mp found _ reserved
    simp at missed
  | some existing =>
    have key : existing.identityKey = repository.destinationIdentityKey := by
      simpa using List.find?_some found
    have same := List.inj_on_of_nodup_map distinct (List.mem_of_find?_eq_some found) reserved key
    simp only [if_pos same]

/-- The rows of policies under distinct keys stand at distinct positions. -/
theorem nodup_allPositions (keys : (stored.map Prod.fst).Nodup) :
    ((allOwners stored).map ownerPosition).Nodup := by
  induction stored with
  | nil => exact List.nodup_nil
  | cons entry rest nodup_rest =>
    obtain ⟨other, keys⟩ := List.nodup_cons.mp keys
    rw [allOwners, List.flatMap_cons, List.map_append]
    refine List.nodup_append.mpr ⟨nodup_positions _ _, nodup_rest keys, ?_⟩
    rintro position own later mem rfl
    obtain ⟨owner, reserved, rfl⟩ := List.mem_map.mp own
    obtain ⟨owner', reserved', same⟩ := List.mem_map.mp mem
    obtain ⟨entry', listed, reserved'⟩ := List.mem_flatMap.mp reserved'
    have key : owner'.repoKey = owner.repoKey := congrArg Prod.fst same
    rw [repoKey_of_mem_ownersOf reserved, repoKey_of_mem_ownersOf reserved'] at key
    exact other (key ▸ List.mem_map_of_mem listed)

/-- The rows of a stored policy are its own. -/
theorem filter_allOwners (keys : (stored.map Prod.fst).Nodup) (mem : (repoKey, policy) ∈ stored) :
    (allOwners stored).filter (fun owner => owner.repoKey == repoKey) =
      ownersOf repoKey policy := by
  induction stored with
  | nil => exact absurd mem List.not_mem_nil
  | cons entry rest filter_rest =>
    obtain ⟨other, keys⟩ := List.nodup_cons.mp keys
    rw [allOwners, List.flatMap_cons, List.filter_append]
    rcases List.mem_cons.mp mem with rfl | later
    · have own : (ownersOf repoKey policy).filter (fun owner => owner.repoKey == repoKey) =
          ownersOf repoKey policy :=
        List.filter_eq_self.mpr fun owner mem => by simp [repoKey_of_mem_ownersOf mem]
      have others : (allOwners rest).filter (fun owner => owner.repoKey == repoKey) = [] := by
        refine List.filter_eq_nil_iff.mpr fun owner listed => ?_
        obtain ⟨entry, reserved, listed⟩ := List.mem_flatMap.mp listed
        rw [repoKey_of_mem_ownersOf listed, beq_iff_eq]
        rintro rfl
        exact other (List.mem_map.mpr ⟨_, reserved, rfl⟩)
      rw [own]
      exact (congrArg _ others).trans (List.append_nil _)
    · have apart : (ownersOf entry.1 entry.2).filter (fun owner => owner.repoKey == repoKey) =
          [] := by
        refine List.filter_eq_nil_iff.mpr fun owner listed => ?_
        rw [repoKey_of_mem_ownersOf listed, beq_iff_eq]
        rintro rfl
        exact other (List.mem_map.mpr ⟨_, later, rfl⟩)
      rw [apart, List.nil_append]
      exact filter_rest keys later

/-- Reserving a stored policy again changes nothing. -/
theorem reservePolicy_again (valid : policy.validate = .ok policy)
    (keys : (stored.map Prod.fst).Nodup)
    (distinct : ((allOwners stored).map PhysicalOwnership.identityKey).Nodup)
    (mem : (repoKey, policy) ∈ stored) :
    reservePolicyPhysicalOwnership (allOwners stored) repoKey policy = .ok (allOwners stored) := by
  obtain ⟨-, -, storable⟩ := RepositoryPolicy.validate_eq_ok valid
  have reserved : ∀ entries : List (GitRepository × String × Nat),
      (∀ entry ∈ entries, entry ∈ policy.physicalRepositories) →
      entries.foldlM (reserveRepository repoKey) (allOwners stored) = .ok (allOwners stored) := by
    intro entries listed
    induction entries with
    | nil => rfl
    | cons entry rest reserved_rest =>
      obtain ⟨first, others⟩ := List.forall_mem_cons.mp listed
      have stores : entry.1.Storable := by
        apply storable
        rw [← physicalRepositories_fst]
        exact List.mem_map_of_mem first
      have stands : ownershipOf repoKey entry ∈ allOwners stored :=
        List.mem_flatMap.mpr ⟨_, mem, List.mem_map_of_mem first⟩
      rw [List.foldlM_cons, reserveRepository_again stores distinct stands]
      exact reserved_rest others
  refine Checked.bind_eq_ok.mpr ⟨_, reserved _ fun _ mem => mem, ?_⟩
  refine Checked.seq_eq_ok.mpr ⟨check_eq_ok.mpr ?_, rfl⟩
  rw [filter_allOwners keys mem, ownersOf, List.length_map, beq_self_eq_true]

/-- Once the stored policies are reserved, reserving any of them again, in any order and any number
of times, changes no row. A further valid policy under a new key is reserved exactly if none of its
repositories has the key of a reserved one, and then only its own rows are added. -/
theorem reserved_policies_extend {owners : List PhysicalOwnership}
    (valid : ∀ entry ∈ stored, entry.2.validate = .ok entry.2)
    (keys : (stored.map Prod.fst).Nodup)
    (reserved : reserveAllPolicyPhysicalOwnership [] stored = .ok owners) :
    (∀ again : List (String × RepositoryPolicy), (∀ entry ∈ again, entry ∈ stored) →
      reserveAllPolicyPhysicalOwnership owners again = .ok owners) ∧
    ∀ repoKey policy, repoKey ∉ stored.map Prod.fst → policy.validate = .ok policy →
      ∀ result, reservePolicyPhysicalOwnership owners repoKey policy = .ok result ↔
        (∀ repository ∈ policy.repositories,
          repository.destinationIdentityKey ∉ owners.map PhysicalOwnership.identityKey) ∧
        result = owners ++ ownersOf repoKey policy := by
  obtain ⟨distinct, rfl⟩ := (reserveAll_nil_eq_ok valid keys).mp reserved
  constructor
  · intro again listed
    induction again with
    | nil => rfl
    | cons entry rest reserved_rest =>
      obtain ⟨first, others⟩ := List.forall_mem_cons.mp listed
      have accepts := valid entry first
      have unchanged : reserveStoredPolicy (allOwners stored) entry = .ok (allOwners stored) := by
        rw [reserveStoredPolicy, accepts]
        exact reservePolicy_again accepts keys distinct first
      rw [reserveAllPolicyPhysicalOwnership, List.foldlM_cons, unchanged]
      exact reserved_rest others
  · intro repoKey policy new accepts result
    obtain ⟨-, unambiguous, storable⟩ := RepositoryPolicy.validate_eq_ok accepts
    have fresh : ∀ owner ∈ allOwners stored, owner.repoKey ≠ repoKey := by
      rintro owner mem rfl
      obtain ⟨entry, listed, mem⟩ := List.mem_flatMap.mp mem
      rw [repoKey_of_mem_ownersOf mem] at new
      exact new (List.mem_map_of_mem listed)
    rw [reservePolicy_eq_ok storable fresh (nodup_allPositions keys) distinct, List.map_append,
      identityKeys_ownersOf, List.nodup_append]
    refine and_congr_left fun _ => ⟨?_, ?_⟩
    · rintro ⟨-, -, apart⟩ repository mem taken
      exact apart _ taken _ (List.mem_map_of_mem mem) rfl
    · intro free
      refine ⟨distinct, unambiguous.keys, ?_⟩
      rintro key taken other named rfl
      obtain ⟨repository, mem, rfl⟩ := List.mem_map.mp named
      exact free repository mem taken

/-- A policy of another local repository. -/
def otherPolicy : RepositoryPolicy :=
  ⟨.enabled, .localBare (bytesOf "/srv/third.git") 64 4099 .sha1, "master", .direct, .none⟩

/-- A policy of a local repository that the inventory names already. -/
def takenPolicy : RepositoryPolicy :=
  ⟨.enabled, .localBare (bytesOf "/srv/other.git") 64 4098 .sha1, "main", .direct, .none⟩

/-- The sample's policies are reserved again with the same owners, a policy of another repository is
reserved beside them, and one of a repository that has an owner is not. -/
theorem reserved_policies_extend_two :
    ∃ owners, reserveAllPolicyPhysicalOwnership [] twoPolicies.storedPolicies = .ok owners ∧
      reserveAllPolicyPhysicalOwnership owners
        (twoPolicies.storedPolicies ++ twoPolicies.storedPolicies.reverse) = .ok owners ∧
      reservePolicyPhysicalOwnership owners "3c2b1a09-8f7e-4d6c-9b5a-4f3e2d1c0b9a" otherPolicy =
        .ok (owners ++ ownersOf "3c2b1a09-8f7e-4d6c-9b5a-4f3e2d1c0b9a" otherPolicy) ∧
      ∀ result, reservePolicyPhysicalOwnership owners "3c2b1a09-8f7e-4d6c-9b5a-4f3e2d1c0b9a"
        takenPolicy ≠ .ok result := by
  have valid : ∀ entry ∈ twoPolicies.storedPolicies, entry.2.validate = .ok entry.2 := by
    decide +kernel
  have keys : (twoPolicies.storedPolicies.map Prod.fst).Nodup := by decide +kernel
  have reserved : reserveAllPolicyPhysicalOwnership [] twoPolicies.storedPolicies =
      .ok (allOwners twoPolicies.storedPolicies) := by
    decide +kernel
  have new : "3c2b1a09-8f7e-4d6c-9b5a-4f3e2d1c0b9a" ∉ twoPolicies.storedPolicies.map Prod.fst := by
    decide +kernel
  obtain ⟨again, extends_with⟩ := reserved_policies_extend valid keys reserved
  refine ⟨_, reserved, again _ fun entry mem => ?_, ?_, fun result taken => ?_⟩
  · rw [List.mem_append, List.mem_reverse] at mem
    exact mem.elim id id
  · exact (extends_with _ otherPolicy new (by decide +kernel) _).mpr ⟨by decide +kernel, rfl⟩
  · have free := ((extends_with _ takenPolicy new (by decide +kernel) result).mp taken).1
    exact absurd free (by decide +kernel)

end Iq.Policy
