import Iq.Agent.Protocol
import Iq.Library.Checked
import Iq.Library.Table
import Iq.Lifecycle.Identifiers

/-!
# Import of a staged result

The import of what an agent staged in its sandbox: the changed paths that the agent reports against
the ones that Git lists between the input and the staged tree. The list of Git is sorted, the report
is taken in the order in which the agent wrote it. Git is a parameter: what it pairs as a rename,
how it names a tree, the patch that it prints and what the retained Rift makes of it; so is the
digest.
-/

namespace Iq

open Library

/-! ## Reported paths -/

/-- The reported paths as bytes. -/
def decodedPaths (reported : List EncodedPath) : List (List UInt8) :=
  reported.filterMap fun path => path.toBytes.toOption

/-! ## Trees -/

/-- An entry of a Git tree, by its path. -/
structure TreeEntry where
  path : List UInt8
  mode : Nat
  object : String
  deriving DecidableEq, Repr

/-- A Git tree. Its paths are not empty and hold no NUL. -/
structure GitTree where
  entries : Table TreeEntry.path
  named : ∀ entry ∈ entries, entry.path ≠ [] ∧ 0 ∉ entry.path

/-- The paths whose entries differ between two trees. -/
def differingPaths (input staged : GitTree) : List (List UInt8) :=
  (input.entries.select fun entry => staged.entries.find? entry.path != some entry).map
    TreeEntry.path ++
  (staged.entries.select fun entry => (input.entries.find? entry.path).isNone).map TreeEntry.path

/-- The differing paths that Git lists: not the old names of what it detects as a rename. -/
def listedPaths (renamed : GitTree → GitTree → List UInt8 → Bool) (input staged : GitTree) :
    List (List UInt8) :=
  (differingPaths input staged).filter fun path => !renamed input staged path

/-- `git diff --cached --name-only -z`: every listed path with a NUL after it. -/
def gitDiffNames (renamed : GitTree → GitTree → List UInt8 → Bool) (input staged : GitTree) :
    List UInt8 :=
  (listedPaths renamed input staged).flatMap (· ++ [0])

/-! ## The import -/

/-- What the sandbox exports for the import. -/
structure SandboxExport where
  stagedTree : List UInt8
  stagedPaths : List UInt8
  unstagedPaths : List UInt8
  stagedPatch : List UInt8
  deriving DecidableEq, Repr

/-- `nul_paths`. -/
def nulPaths (bytes : List UInt8) : Except String (List (List UInt8)) :=
  let paths := ((bytes.splitOn 0).filter (!·.isEmpty)).mergeSort fun first second => first ≤ second
  if (paths.zip paths.tail).any fun pair => pair.1 == pair.2 then
    .error "Git path list contains a duplicate"
  else .ok paths

/-- `is_protocol_path`. -/
def isProtocolPath (path : List UInt8) : Bool :=
  (bytesOf ".iq-agent-protocol/").isPrefixOf path || path == bytesOf ".iq-agent-protocol"

/-- `import_staged_result` from `staged.paths` to the comparison with the report. -/
def matchReportedPaths (stagedPaths : List UInt8) (reported : List EncodedPath) :
    Except String (List (List UInt8)) := do
  let actualPaths ← nulPaths (← readCompleteResult stagedPaths (1024 * 1024))
  let reportedPaths ← reported.mapM EncodedPath.toBytes
  if actualPaths ≠ reportedPaths then
    .error "reported changed paths differ from sandbox staged paths"
  else .ok actualPaths

section Import

variable (sha256 : List UInt8 → String) (retained : List UInt8 → Except String String)

/-- `import_staged_result` up to the digest of the exported tree. -/
def checkStagedTree (content : List UInt8) (expectedStagedDigest : String) : Check := do
  let stagedTree ← readCompleteResult content 129
  match String.fromUTF8? ⟨stagedTree.toArray⟩ with
  | none => .error "invalid utf-8 sequence"
  | some text =>
    check (sha256 (bytesOf (.ofList (trimCharacters text.toList))) == expectedStagedDigest)
      "reported staged-tree digest differs from sandbox index"

/-- `import_staged_result` after the comparison with the report; `retained` is the digest of the
tree that the retained Rift has after the reset, the clean-up and the application of the patch. -/
def importStagedPatch (sandbox : SandboxExport) (expectedStagedDigest : String)
    (actualPaths : List (List UInt8)) : Check := do
  let unstaged ← nulPaths (← readCompleteResult sandbox.unstagedPaths (1024 * 1024))
  check unstaged.isEmpty "sandbox result has unstaged worktree changes"
  check (!actualPaths.any fun path => isProtocolPath path || (bytesOf ".git/").isPrefixOf path)
    "sandbox result changes a forbidden path"
  let patch ← readCompleteResult sandbox.stagedPatch (64 * 1024 * 1024)
  let digest ← retained patch
  check (digest == expectedStagedDigest)
    "imported retained-Rift staged tree differs from verified sandbox result"

/-- `import_staged_result`. -/
def importStagedResult (sandbox : SandboxExport) (expectedStagedDigest : String)
    (reported : List EncodedPath) : Check := do
  checkStagedTree sha256 sandbox.stagedTree expectedStagedDigest
  let actualPaths ← matchReportedPaths sandbox.stagedPaths reported
  importStagedPatch retained sandbox expectedStagedDigest actualPaths

end Import

/-! ## The export -/

/-- What the sandbox and the retained Rift ask of Git. -/
structure ImportGit where
  /-- The old names among the differing paths that `git diff` pairs as a rename. -/
  renamed : GitTree → GitTree → List UInt8 → Bool
  /-- The object that `git write-tree` prints. -/
  writeTree : GitTree → String
  /-- `git diff --cached --binary --full-index` from the tree of the head. -/
  diff : GitTree → GitTree → List UInt8
  /-- The index after `git reset --hard`, `git clean` and `git apply --index` of a patch. -/
  apply : GitTree → List UInt8 → Except String GitTree

/-- What Git documents: a tree has an object identifier, trees without a difference have no patch,
no patch is not applied, and a patch that is applied gives the tree that it was printed for. -/
structure ImportGit.Documented (git : ImportGit) (format : GitObjectFormat) : Prop where
  named : ∀ tree, format.isOid (git.writeTree tree) = true
  unchanged : ∀ input staged, differingPaths input staged = [] → git.diff input staged = []
  refused : ∀ input, (git.apply input []).isOk = false
  restored : ∀ input staged tree, git.apply input (git.diff input staged) = .ok tree →
    git.writeTree tree = git.writeTree staged

/-- What an agent leaves in its sandbox: the index, and the paths of the worktree that differ from
it. -/
structure Sandbox where
  staged : GitTree
  unstaged : List (List UInt8)
  named : ∀ path ∈ unstaged, path ≠ [] ∧ 0 ∉ path
  distinct : unstaged.Nodup

/-- The files that `SANDBOX_HELPER` exports, from the tree of the head. -/
def Sandbox.export (git : ImportGit) (input : GitTree) (sandbox : Sandbox) : SandboxExport where
  stagedTree := bytesOf (git.writeTree sandbox.staged ++ "\n")
  stagedPaths := gitDiffNames git.renamed input sandbox.staged
  unstagedPaths := sandbox.unstaged.flatMap (· ++ [0])
  stagedPatch := git.diff input sandbox.staged

/-- `staged_tree_digest` of the retained Rift after the import of a patch. -/
def ImportGit.retained (git : ImportGit) (sha256 : List UInt8 → String) (input : GitTree)
    (patch : List UInt8) : Except String String :=
  (git.apply input patch).map fun tree => sha256 (bytesOf (git.writeTree tree))

/-! ## Sorted lists of paths -/

variable {paths listed : List (List UInt8)} {input staged : GitTree} {reported : List EncodedPath}
  {path : List UInt8} {max : Nat}

/-- Strictly ascending in byte order. -/
def Ascending (paths : List (List UInt8)) : Prop := paths.Pairwise (· < ·)

instance : Decidable (Ascending paths) := inferInstanceAs (Decidable (paths.Pairwise _))

/-- Sorted paths are in order. -/
theorem sorted_mergeSort (paths : List (List UInt8)) :
    (paths.mergeSort fun first second => first ≤ second).Pairwise (· ≤ ·) := by
  have sorted := @List.pairwise_mergeSort _ (fun first second : List UInt8 => first ≤ second)
    (fun first second third le le' => by
      simp only [decide_eq_true_eq] at le le' ⊢
      exact List.le_trans le le')
    (fun first second => by
      simpa only [Bool.or_eq_true, decide_eq_true_eq] using List.le_total first second) paths
  exact sorted.imp fun le => by simpa using le

/-- The sorted list without duplicates is the ascending one. -/
theorem ascending_mergeSort (nodup : paths.Nodup) :
    Ascending (paths.mergeSort fun first second => first ≤ second) := by
  have distinct : (paths.mergeSort fun first second => first ≤ second).Nodup :=
    (List.mergeSort_perm paths _).nodup_iff.mpr nodup
  exact ((sorted_mergeSort paths).and distinct).imp Std.lt_iff_le_and_ne.mpr

/-- A list is the sorted form of another without duplicates when it is ascending and has the same
members. -/
theorem mergeSort_eq_iff (nodup : listed.Nodup) :
    (listed.mergeSort fun first second => first ≤ second) = paths ↔
      Ascending paths ∧ ∀ path, path ∈ paths ↔ path ∈ listed := by
  have permuted := List.mergeSort_perm listed fun first second => first ≤ second
  constructor
  · rintro rfl
    exact ⟨ascending_mergeSort nodup, fun path => permuted.mem_iff⟩
  · rintro ⟨ascending, same⟩
    have distinct : paths.Nodup := ascending.imp fun lt => (Std.lt_iff_le_and_ne.mp lt).2
    have perm : (listed.mergeSort fun first second => first ≤ second).Perm paths :=
      permuted.trans ((List.perm_ext_iff_of_nodup nodup distinct).mpr fun path => (same path).symm)
    refine perm.eq_of_pairwise (fun first second _ _ le le' => List.le_antisymm le le')
      (sorted_mergeSort listed) (ascending.imp fun lt => (Std.lt_iff_le_and_ne.mp lt).1)

/-! ## What Git lists -/

/-- The paths of a difference are distinct. -/
theorem nodup_differingPaths : (differingPaths input staged).Nodup := by
  refine List.nodup_append.mpr ⟨?_, ?_, ?_⟩
  · exact input.entries.keyed.sublist (List.filter_sublist.map _)
  · exact staged.entries.keyed.sublist (List.filter_sublist.map _)
  · intro path before other after same
    obtain ⟨entry, mem, rfl⟩ := List.mem_map.mp before
    obtain ⟨fresh, mem_fresh, rfl⟩ := List.mem_map.mp after
    have absent := Option.isNone_iff_eq_none.mp (Table.mem_select.mp mem_fresh).2
    exact Table.find?_eq_none.mp absent entry (Table.mem_select.mp mem).1 same

/-- The paths that differ are names. -/
theorem named_differingPaths (mem : path ∈ differingPaths input staged) : path ≠ [] ∧ 0 ∉ path := by
  rcases List.mem_append.mp mem with mem | mem
  · obtain ⟨entry, selected, rfl⟩ := List.mem_map.mp mem
    exact input.named entry (Table.mem_select.mp selected).1
  · obtain ⟨entry, selected, rfl⟩ := List.mem_map.mp mem
    exact staged.named entry (Table.mem_select.mp selected).1

/-- No two neighbours of a list without duplicates are equal. -/
theorem any_adjacent_eq_false (nodup : paths.Nodup) :
    (paths.zip paths.tail).any (fun pair => pair.1 == pair.2) = false := by
  induction paths with
  | nil => rfl
  | cons first rest none_rest =>
    obtain ⟨fresh, nodup_rest⟩ := List.nodup_cons.mp nodup
    cases rest with
    | nil => rfl
    | cons second later =>
      have distinct : first ≠ second := fun same => fresh (same ▸ List.mem_cons_self)
      rw [List.tail_cons, List.zip_cons_cons, List.any_cons, beq_eq_false_iff_ne.mpr distinct]
      exact none_rest nodup_rest

/-- A NUL-terminated list of distinct names is read back in sorted order. -/
theorem nulPaths_terminated (named : ∀ path ∈ listed, path ≠ [] ∧ 0 ∉ path)
    (nodup : listed.Nodup) :
    nulPaths (listed.flatMap (· ++ [0])) =
      .ok (listed.mergeSort fun first second => first ≤ second) := by
  have names : ((listed.flatMap (· ++ [0])).splitOn 0).filter (!·.isEmpty) = listed := by
    rw [splitOn_terminated fun path mem => (named path mem).2, List.filter_append,
      List.filter_eq_self.mpr fun path mem => by simp [(named path mem).1]]
    simp
  have distinct : (listed.mergeSort fun first second => first ≤ second).Nodup :=
    (List.mergeSort_perm listed _).nodup_iff.mpr nodup
  unfold nulPaths
  simp only [names]
  rw [any_adjacent_eq_false distinct]
  rfl

/-! ## Accepted reports -/

/-- Paths that pass have bytes. -/
theorem toBytes_of_validatePathsFrom {seen : List EncodedPath}
    (parsed : validatePathsFrom max seen reported = .ok ()) :
    ∀ path ∈ reported, ∃ bytes, path.toBytes = .ok bytes := by
  induction reported generalizing seen with
  | nil => exact fun path mem => absurd mem List.not_mem_nil
  | cons first rest decoded =>
    unfold validatePathsFrom at parsed
    split at parsed
    · cases parsed
    · cases bytes : first.toBytes with
      | error message =>
        rw [bytes] at parsed
        cases parsed
      | ok value =>
        rw [bytes] at parsed
        change (if seen.contains first then _ else validatePathsFrom max (first :: seen) rest) = _
          at parsed
        split at parsed
        · cases parsed
        · exact List.forall_mem_cons.mpr ⟨⟨value, bytes⟩, decoded parsed⟩

/-- The reported paths that were parsed are all decoded. -/
theorem mapM_toBytes (parsed : validatePaths reported max = .ok ()) :
    reported.mapM EncodedPath.toBytes = .ok (decodedPaths reported) := by
  have decoded := toBytes_of_validatePathsFrom parsed
  clear parsed
  induction reported with
  | nil => rfl
  | cons first rest mapM_rest =>
    obtain ⟨⟨bytes, first_decoded⟩, rest_decoded⟩ := List.forall_mem_cons.mp decoded
    have decoded_first : decodedPaths (first :: rest) = bytes :: decodedPaths rest := by
      rw [decodedPaths, List.filterMap_cons, first_decoded]
      rfl
    rw [List.mapM_cons, first_decoded, mapM_rest rest_decoded, decoded_first]
    rfl

variable {renamed : GitTree → GitTree → List UInt8 → Bool}

/-- The report names exactly the paths of a list. -/
def ReportNames (reported : List EncodedPath) (paths : List (List UInt8)) : Prop :=
  ∀ path, path ∈ decodedPaths reported ↔ path ∈ paths

/-- A parsed report is accepted when it names the listed paths in ascending order and the list is
within its bound. -/
theorem matchReportedPaths_eq_ok (parsed : validatePaths reported max = .ok ())
    {actualPaths : List (List UInt8)} :
    matchReportedPaths (gitDiffNames renamed input staged) reported = .ok actualPaths ↔
      (gitDiffNames renamed input staged).length ≤ 1024 * 1024 ∧
        Ascending (decodedPaths reported) ∧
          ReportNames reported (listedPaths renamed input staged) ∧
        actualPaths = decodedPaths reported := by
  have nodup : (listedPaths renamed input staged).Nodup := nodup_differingPaths.filter _
  have named : ∀ path ∈ listedPaths renamed input staged, path ≠ [] ∧ 0 ∉ path :=
    fun path mem => named_differingPaths (List.mem_of_mem_filter mem)
  have sorted := @mergeSort_eq_iff (decodedPaths reported) _ nodup
  unfold matchReportedPaths readCompleteResult
  by_cases bounded : 1024 * 1024 < (gitDiffNames renamed input staged).length
  · rw [if_pos bounded]
    exact iff_of_false nofun fun accepted => Nat.not_le_of_lt bounded accepted.1
  · rw [if_neg bounded]
    show (do
      let actualPaths ← nulPaths (gitDiffNames renamed input staged)
      let reportedPaths ← reported.mapM EncodedPath.toBytes
      if actualPaths ≠ reportedPaths then
        .error "reported changed paths differ from sandbox staged paths"
      else .ok actualPaths : Except String (List (List UInt8))) = _ ↔ _
    rw [gitDiffNames, nulPaths_terminated named nodup, mapM_toBytes parsed]
    show (if (listedPaths renamed input staged).mergeSort (fun first second => first ≤ second) ≠
        decodedPaths reported then
        .error "reported changed paths differ from sandbox staged paths"
      else .ok _ : Except String (List (List UInt8))) = _ ↔ _
    by_cases same : (listedPaths renamed input staged).mergeSort
        (fun first second => first ≤ second) = decodedPaths reported
    · rw [if_neg (not_not.mpr same), same]
      have names := sorted.mp same
      constructor
      · intro accepted
        exact ⟨Nat.not_lt.mp bounded, names.1, names.2, (Except.ok.inj accepted).symm⟩
      · rintro ⟨-, -, -, rfl⟩
        rfl
    · rw [if_pos same]
      exact iff_of_false nofun fun accepted => same (sorted.mpr ⟨accepted.2.1, accepted.2.2.1⟩)

/-- Without a rename every differing path is listed. -/
theorem listedPaths_eq_differingPaths
    (plain : ∀ path ∈ differingPaths input staged, renamed input staged path = false) :
    listedPaths renamed input staged = differingPaths input staged :=
  List.filter_eq_self.mpr fun path mem => by rw [plain path mem]; rfl

/-- The listed paths are all that differ when none of these is taken for a rename. -/
theorem names_listedPaths_iff (named : ReportNames reported (listedPaths renamed input staged)) :
    ReportNames reported (differingPaths input staged) ↔
      ∀ path ∈ differingPaths input staged, renamed input staged path = false := by
  constructor
  · intro all path mem
    have listed := (named path).mp ((all path).mpr mem)
    simpa using (List.mem_filter.mp listed).2
  · intro plain
    rwa [listedPaths_eq_differingPaths plain] at named

/-! ## Accepted imports -/

section Accepted

variable {git : ImportGit} {format : GitObjectFormat} {sha256 : List UInt8 → String}
  {sandbox : Sandbox} {digest : String} {actualPaths : List (List UInt8)}

/-- The exported tree passes when its digest is the expected one. -/
theorem checkStagedTree_eq_ok {tree : String} (oid : format.isOid tree = true) :
    checkStagedTree sha256 (bytesOf (tree ++ "\n")) digest = .ok () ↔
      sha256 (bytesOf tree) = digest := by
  have size : (bytesOf tree).length = format.oidLength :=
    beq_iff_eq.mp (Bool.and_eq_true_iff.mp oid).1
  have short : ¬129 < (bytesOf (tree ++ "\n")).length := by
    have feed : (bytesOf "\n").length = 1 := by decide +kernel
    have most : format.oidLength ≤ 64 := by cases format <;> decide
    rw [bytesOf_append, List.length_append, size, feed]
    omega
  have trimmed := trimCharacters_line (isExactText_of_isOid oid)
  unfold checkStagedTree readCompleteResult
  rw [if_neg short]
  show (match String.fromUTF8? ⟨(bytesOf (tree ++ "\n")).toArray⟩ with
    | none => _
    | some text => check (sha256 (bytesOf (.ofList (trimCharacters text.toList))) == digest) _) =
    _ ↔ _
  rw [fromUTF8?_bytesOf]
  simp only [trimmed, String.ofList_toList, check_eq_ok, beq_iff_eq]

/-- The list of the other changes is read as empty exactly when there are none. -/
theorem unstagedPaths_empty_iff :
    ((sandbox.export git input).unstagedPaths.length ≤ 1024 * 1024 ∧
        nulPaths (sandbox.export git input).unstagedPaths = .ok []) ↔
      sandbox.unstaged = [] := by
  have read : nulPaths (sandbox.export git input).unstagedPaths = .ok _ :=
    nulPaths_terminated sandbox.named sandbox.distinct
  constructor
  · rintro ⟨-, empty⟩
    have sorted : sandbox.unstaged.mergeSort (fun first second => first ≤ second) = [] :=
      Except.ok.inj (read.symm.trans empty)
    exact List.nil_perm.mp (sorted ▸ List.mergeSort_perm sandbox.unstaged _)
  · intro clean
    have empty : (sandbox.export git input).unstagedPaths = [] := by
      unfold Sandbox.export
      rw [clean]
      rfl
    rw [clean, List.mergeSort_nil] at read
    exact ⟨by rw [empty]; exact Nat.zero_le _, read⟩

/-- What the import asks of a sandbox besides the report: the digest of its tree, a worktree
without other changes, no forbidden path, and a patch within its bound that the retained Rift
takes. -/
structure Importable (git : ImportGit) (sha256 : List UInt8 → String) (input : GitTree)
    (sandbox : Sandbox) (digest : String) : Prop where
  tree : sha256 (bytesOf (git.writeTree sandbox.staged)) = digest
  unstaged : sandbox.unstaged = []
  allowed : ∀ path ∈ listedPaths git.renamed input sandbox.staged, isProtocolPath path = false ∧
    (bytesOf ".git/").isPrefixOf path = false
  bounded : (git.diff input sandbox.staged).length ≤ 64 * 1024 * 1024
  taken : ∃ tree, git.apply input (git.diff input sandbox.staged) = .ok tree

/-- An unchanged tree is not importable: its patch is empty. -/
theorem Importable.changed (documented : git.Documented format)
    (importable : Importable git sha256 input sandbox digest) :
    differingPaths input sandbox.staged ≠ [] := by
  intro same
  obtain ⟨tree, taken⟩ := importable.taken
  have refused := documented.refused input
  rw [documented.unchanged input sandbox.staged same] at taken
  rw [taken] at refused
  cases refused

/-- No listed path is refused when the import goes through them. -/
theorem allowed_iff
    (listed : ∀ path, path ∈ actualPaths ↔ path ∈ listedPaths git.renamed input sandbox.staged) :
    (!actualPaths.any fun path =>
        isProtocolPath path || (bytesOf ".git/").isPrefixOf path) = true ↔
      ∀ path ∈ listedPaths git.renamed input sandbox.staged, isProtocolPath path = false ∧
        (bytesOf ".git/").isPrefixOf path = false := by
  simp only [Bool.not_eq_true', List.any_eq_false, listed, Bool.or_eq_true, not_or,
    Bool.not_eq_true]

/-- The retained Rift has the tree of the sandbox once it takes the patch. -/
theorem retained_eq_ok (documented : git.Documented format)
    (tree : sha256 (bytesOf (git.writeTree sandbox.staged)) = digest) :
    git.retained sha256 input (git.diff input sandbox.staged) = .ok digest ↔
      ∃ tree, git.apply input (git.diff input sandbox.staged) = .ok tree := by
  unfold ImportGit.retained
  cases taken : git.apply input (git.diff input sandbox.staged) with
  | error message =>
    constructor
    · rintro ⟨⟩
    · rintro ⟨_, ⟨⟩⟩
  | ok restored =>
    refine iff_of_true ?_ ⟨restored, rfl⟩
    rw [Except.map, documented.restored input sandbox.staged restored taken, tree]

/-- After the comparison with the report the import passes for what is importable, whose tree has
the expected digest. -/
theorem importStagedPatch_eq_ok (documented : git.Documented format)
    (tree : sha256 (bytesOf (git.writeTree sandbox.staged)) = digest)
    (listed : ∀ path, path ∈ actualPaths ↔ path ∈ listedPaths git.renamed input sandbox.staged) :
    importStagedPatch (git.retained sha256 input) (sandbox.export git input) digest actualPaths =
        .ok () ↔
      Importable git sha256 input sandbox digest := by
  have clean := @unstagedPaths_empty_iff input git sandbox
  have allowed := allowed_iff listed
  have restored := @retained_eq_ok input git format sha256 sandbox digest documented tree
  simp only [importStagedPatch, Checked.bind_eq_ok, check_eq_ok, readCompleteResult_eq_ok,
    List.isEmpty_iff, beq_iff_eq]
  constructor
  · rintro ⟨_, ⟨short, rfl⟩, _, read, _, rfl, _, passed, _, ⟨bounded, rfl⟩, _, taken, rfl⟩
    exact ⟨tree, clean.mp ⟨short, read⟩, allowed.mp passed, bounded, restored.mp taken⟩
  · intro importable
    obtain ⟨short, read⟩ := clean.mpr importable.unstaged
    exact ⟨_, ⟨short, rfl⟩, [], read, (), rfl, (), allowed.mpr importable.allowed, _,
      ⟨importable.bounded, rfl⟩, digest, restored.mpr importable.taken, rfl⟩

/-- The import of a parsed report accepts it when it names the listed paths in ascending order,
their list is within its bound, and the sandbox is importable. -/
theorem importStagedResult_eq_ok (documented : git.Documented format)
    (parsed : validatePaths reported max = .ok ()) :
    importStagedResult sha256 (git.retained sha256 input) (sandbox.export git input) digest
        reported = .ok () ↔
      ((gitDiffNames git.renamed input sandbox.staged).length ≤ 1024 * 1024 ∧
        Ascending (decodedPaths reported) ∧
        ReportNames reported (listedPaths git.renamed input sandbox.staged)) ∧
      Importable git sha256 input sandbox digest := by
  have exported : checkStagedTree sha256 (sandbox.export git input).stagedTree digest = .ok () ↔
      sha256 (bytesOf (git.writeTree sandbox.staged)) = digest :=
    checkStagedTree_eq_ok (documented.named sandbox.staged)
  have matched : ∀ {actualPaths},
      matchReportedPaths (sandbox.export git input).stagedPaths reported = .ok actualPaths ↔ _ :=
    matchReportedPaths_eq_ok parsed
  simp only [importStagedResult, Checked.bind_eq_ok, exported, matched]
  constructor
  · rintro ⟨_, tree, _, ⟨bounded, ascending, names, rfl⟩, imported⟩
    exact ⟨⟨bounded, ascending, names⟩, (importStagedPatch_eq_ok documented tree names).mp imported⟩
  · rintro ⟨⟨bounded, ascending, names⟩, importable⟩
    exact ⟨(), importable.tree, _, ⟨bounded, ascending, names, rfl⟩,
      (importStagedPatch_eq_ok documented importable.tree names).mpr importable⟩

/-- Whatever names the differing paths is in ascending byte order, without a rename, within the
bound of the list and of an importable sandbox, and whatever names the listed paths so is without a
rename. -/
def ReportedAsImported (git : ImportGit) (sha256 : List UInt8 → String) (input : GitTree)
    (sandbox : Sandbox) (digest : String) (reported : List EncodedPath) : Prop :=
  (ReportNames reported (differingPaths input sandbox.staged) →
    Ascending (decodedPaths reported) ∧
      (gitDiffNames git.renamed input sandbox.staged).length ≤ 1024 * 1024 ∧
      (∀ path ∈ differingPaths input sandbox.staged,
        git.renamed input sandbox.staged path = false) ∧
      Importable git sha256 input sandbox digest) ∧
  (ReportNames reported (listedPaths git.renamed input sandbox.staged) →
    Ascending (decodedPaths reported) →
    (gitDiffNames git.renamed input sandbox.staged).length ≤ 1024 * 1024 →
    Importable git sha256 input sandbox digest →
      ∀ path ∈ differingPaths input sandbox.staged,
        git.renamed input sandbox.staged path = false)

/-- The import accepts a parsed report exactly when it names the differing paths, if and only if
whatever names them does so in the order and within the limits of the list and the sandbox is
importable. -/
theorem importStagedResult_report_iff (documented : git.Documented format)
    (parsed : validatePaths reported max = .ok ()) :
    (importStagedResult sha256 (git.retained sha256 input) (sandbox.export git input) digest
          reported = .ok () ↔
        ReportNames reported (differingPaths input sandbox.staged)) ↔
      ReportedAsImported git sha256 input sandbox digest reported := by
  rw [importStagedResult_eq_ok documented parsed]
  constructor
  · intro exact_report
    constructor
    · intro all
      obtain ⟨⟨bounded, ascending, named⟩, importable⟩ := exact_report.mpr all
      exact ⟨ascending, bounded, (names_listedPaths_iff named).mp all, importable⟩
    · intro named ascending bounded importable
      exact (names_listedPaths_iff named).mp
        (exact_report.mp ⟨⟨bounded, ascending, named⟩, importable⟩)
  · rintro ⟨within, plain⟩
    constructor
    · rintro ⟨⟨bounded, ascending, named⟩, importable⟩
      exact (names_listedPaths_iff named).mpr (plain named ascending bounded importable)
    · intro all
      obtain ⟨ascending, bounded, no_rename, importable⟩ := within all
      have named : ReportNames reported (listedPaths git.renamed input sandbox.staged) := by
        rw [listedPaths_eq_differingPaths no_rename]
        exact all
      exact ⟨⟨bounded, ascending, named⟩, importable⟩

end Accepted

/-! ## Two new files -/

/-- The tree without entries. -/
def emptyTree : GitTree := ⟨.empty, fun entry mem => absurd mem (Table.not_mem_empty entry)⟩

/-- A tree with the empty files a and b. -/
def twoFileTree : GitTree where
  entries := ⟨[⟨[97], 0o100644, "e69de29bb2d1d6434b8b29ae775ad8c2e48c5391"⟩,
    ⟨[98], 0o100644, "e69de29bb2d1d6434b8b29ae775ad8c2e48c5391"⟩], by decide⟩
  named entry mem := by
    have valid : ∀ path ∈ [[97], [98]], path ≠ [] ∧ (0 : UInt8) ∉ path := by decide
    exact valid entry.path (List.mem_map_of_mem (f := TreeEntry.path) mem)

namespace ImportSample

/-- The patch of a new empty file. -/
def newFilePatch (name : String) : String :=
  "diff --git a/" ++ name ++ " b/" ++ name ++ "\nnew file mode 100644\n" ++
    "index 0000000000000000000000000000000000000000..e69de29bb2d1d6434b8b29ae775ad8c2e48c5391\n"

/-- The patch of the two files. -/
def twoFilePatch : List UInt8 := bytesOf (newFilePatch "a" ++ newFilePatch "b")

/-- Git at the two trees, without a rename. -/
def git : ImportGit where
  renamed _ _ _ := false
  writeTree tree :=
    if tree.entries.rows = [] then "4b825dc642cb6eb9a060e54bf8d69288fbee4904"
    else "296e56023cdc034d2735fee8c0d85a659d1b07f4"
  diff input staged :=
    if differingPaths input staged = [] then []
    else if input.entries.rows = [] ∧ staged.entries.rows = twoFileTree.entries.rows then
      twoFilePatch
    else [0]
  apply input patch :=
    if input.entries.rows = [] ∧ patch = twoFilePatch then .ok twoFileTree
    else .error "No valid patches in input (allow with \"--allow-empty\")"

/-- The sample's patch gives its tree. -/
theorem apply_twoFilePatch : git.apply emptyTree twoFilePatch = .ok twoFileTree := by
  generalize same : twoFilePatch = patch
  unfold git
  dsimp only
  rw [if_pos ⟨rfl, same.symm⟩]

/-- The sample's Git answers as Git does. -/
theorem documented : git.Documented .sha1 where
  named tree := by
    unfold git
    dsimp only
    split <;> decide +kernel
  unchanged input staged same := if_pos same
  refused input := by
    have absent : ¬(input.entries.rows = [] ∧ [] = twoFilePatch) := by
      rintro ⟨-, same⟩
      exact absurd same (by decide +kernel)
    rw [show git.apply input [] = .error _ from if_neg absent]
    rfl
  restored input staged tree taken := by
    obtain ⟨patch, found⟩ : git.diff input staged = twoFilePatch ∧ tree = twoFileTree := by
      change (if input.entries.rows = [] ∧ git.diff input staged = twoFilePatch then
        Except.ok twoFileTree else _) = _ at taken
      by_cases both : input.entries.rows = [] ∧ git.diff input staged = twoFilePatch
      · rw [if_pos both] at taken
        exact ⟨both.2, (Except.ok.inj taken).symm⟩
      · rw [if_neg both] at taken
        cases taken
    have files : staged.entries.rows = twoFileTree.entries.rows := by
      unfold git at patch
      dsimp only at patch
      split at patch
      · exact absurd patch (by decide +kernel)
      · split at patch
        · rename_i both
          exact both.2
        · exact absurd patch (by decide +kernel)
    unfold git
    dsimp only
    rw [found, files]

/-- SHA-256 of the two identifiers. -/
def sha256 (bytes : List UInt8) : String :=
  if bytes = bytesOf "4b825dc642cb6eb9a060e54bf8d69288fbee4904" then
    "abe5b4848301d438e6a78ad4d8d689317228797e9f765a66cd9a50a0a1cc4a83"
  else "df3aa6d4e4f54e4b57112af4307073e496d2ab613ff71e9ad1bccc0dc8f7edcd"

/-- A sandbox in which everything is staged. -/
def sandbox (staged : GitTree) : Sandbox where
  staged := staged
  unstaged := []
  named _ mem := absurd mem List.not_mem_nil
  distinct := List.nodup_nil

/-- The digest of the tree with the two files. -/
def digest : String := "df3aa6d4e4f54e4b57112af4307073e496d2ab613ff71e9ad1bccc0dc8f7edcd"

/-- The sample's result can be imported. -/
theorem importable : Importable git sha256 emptyTree (sandbox twoFileTree) digest where
  tree := by decide +kernel
  unstaged := rfl
  allowed := List.forall_iff_forall_mem.mp (by decide +kernel)
  bounded := by decide +kernel
  taken := by
    have patch : git.diff emptyTree twoFileTree = twoFilePatch := by decide +kernel
    refine ⟨twoFileTree, ?_⟩
    change git.apply emptyTree (git.diff emptyTree twoFileTree) = .ok twoFileTree
    rw [patch]
    exact apply_twoFilePatch

end ImportSample

/-- The sample's report is accepted in ascending order. -/
theorem importStagedResult_report_ascending :
    importStagedResult ImportSample.sha256 (ImportSample.git.retained ImportSample.sha256 emptyTree)
        ((ImportSample.sandbox twoFileTree).export ImportSample.git emptyTree) ImportSample.digest
        [⟨["61"]⟩, ⟨["62"]⟩] = .ok () ↔
      ReportNames [⟨["61"]⟩, ⟨["62"]⟩] (differingPaths emptyTree twoFileTree) := by
  have within : ReportedAsImported ImportSample.git ImportSample.sha256 emptyTree
      (ImportSample.sandbox twoFileTree) ImportSample.digest [⟨["61"]⟩, ⟨["62"]⟩] :=
    ⟨fun _ => ⟨by decide +kernel, by decide +kernel, fun _ _ => rfl, ImportSample.importable⟩,
      fun _ _ _ _ _ _ => rfl⟩
  have parsed : validatePaths [⟨["61"]⟩, ⟨["62"]⟩] 2 = .ok () := by decide +kernel
  exact (importStagedResult_report_iff ImportSample.documented parsed).mpr within

/-- The report of both files in the other order names the differing paths and is refused; so is the
empty report of an unchanged tree. -/
theorem importStagedResult_descending_refused :
    (validatePaths [⟨["62"]⟩, ⟨["61"]⟩] 2 = .ok () ∧
      ReportNames [⟨["62"]⟩, ⟨["61"]⟩] (differingPaths emptyTree twoFileTree) ∧
      importStagedResult ImportSample.sha256
        (ImportSample.git.retained ImportSample.sha256 emptyTree)
        ((ImportSample.sandbox twoFileTree).export ImportSample.git emptyTree) ImportSample.digest
        [⟨["62"]⟩, ⟨["61"]⟩] ≠ .ok ()) ∧
    (validatePaths [] 2 = .ok () ∧ ReportNames [] (differingPaths emptyTree emptyTree) ∧
      importStagedResult ImportSample.sha256
        (ImportSample.git.retained ImportSample.sha256 emptyTree)
        ((ImportSample.sandbox emptyTree).export ImportSample.git emptyTree)
        "abe5b4848301d438e6a78ad4d8d689317228797e9f765a66cd9a50a0a1cc4a83" [] ≠ .ok ()) := by
  have both : validatePaths [⟨["62"]⟩, ⟨["61"]⟩] 2 = .ok () := by decide +kernel
  have decoded : decodedPaths [⟨["62"]⟩, ⟨["61"]⟩] = [[98], [97]] := by decide +kernel
  have none : validatePaths [] 2 = .ok () := by decide +kernel
  refine ⟨⟨both, ?_, ?_⟩, none, ?_, ?_⟩
  · intro path
    rw [decoded, show differingPaths emptyTree twoFileTree = [[97], [98]] by decide +kernel]
    simp only [List.mem_cons, List.not_mem_nil, or_false]
    exact or_comm
  · intro accepted
    have ascending :=
      ((importStagedResult_eq_ok ImportSample.documented both).mp accepted).1.2.1
    rw [decoded] at ascending
    exact absurd ascending (by decide)
  · exact fun path => Iff.rfl
  · intro accepted
    exact ((importStagedResult_eq_ok ImportSample.documented none).mp accepted).2.changed
      ImportSample.documented (by decide +kernel)

end Iq
