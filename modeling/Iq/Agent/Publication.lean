import Iq.Agent.Protocol
import Iq.Library.Checked
import Iq.Library.Table

/-!
# Publication of a result

The bundle of nine files that the runner copies from the export of a sandbox into the protocol
directory of the cycle, its manifest, and the two readers: of the bundle itself, and of the input
and the bundle after a restart. The writer and the readers bound the files separately. What
`serde_json` reads and the digest are parameters; files are at rest while they are copied or read.
-/

namespace Iq

open Library

/-! ## Files -/

/-- A file of a directory, with what its metadata say. -/
structure ProtocolFile where
  name : String
  content : List UInt8
  regular : Bool
  links : Nat
  deriving DecidableEq, Repr

/-- A directory below the protocol directory, with its identity; `owned` means that it is an owned
mode-0700 directory. -/
structure ProtocolSubdirectory where
  name : String
  device : Nat
  inode : Nat
  owned : Bool
  files : Table ProtocolFile.name

/-- The protocol directory of a cycle, or the export of its sandbox. -/
structure ProtocolDirectory where
  owned : Bool
  files : Table ProtocolFile.name
  directories : Table ProtocolSubdirectory.name

/-- `open_file_at`. -/
def openFileAt (files : Table ProtocolFile.name) (name : String) : Except String ProtocolFile :=
  match files.find? name with
  | some file => .ok file
  | none => .error "open protocol file"

/-- `create_file_at` and a write of the whole content. -/
def createFileAt (files : Table ProtocolFile.name) (name : String) (content : List UInt8) :
    Except String (Table ProtocolFile.name) :=
  match files.insert? ⟨name, content, true, 1⟩ with
  | some later => .ok later
  | none => .error "create protocol file"

/-- `verify_private_directory`. -/
def verifyPrivateDirectory (owned : Bool) (label : String) : Check :=
  check owned s!"{label} must be an owned mode-0700 real directory"

/-- `read_complete_result`. -/
def readCompleteResultAt (directory : ProtocolDirectory) (name : String) (maxBytes : Nat) :
    Except String (List UInt8) := do
  verifyPrivateDirectory directory.owned "protocol directory"
  let file ← openFileAt directory.files name
  check (file.regular && file.links == 1)
    "agent result must be a bounded single-link regular file"
  readCompleteResult file.content maxBytes

/-- `read_bounded_file_at`. -/
def readBoundedFileAt (files : Table ProtocolFile.name) (name : String) (maxBytes : Nat) :
    Except String (List UInt8) := do
  let file ← openFileAt files name
  check (file.regular && file.links == 1 && file.content.length ≤ maxBytes)
    s!"published file {name} has invalid identity or size"
  return file.content

/-- `atomic_write`: the file takes the place of the one with its name. -/
def ProtocolDirectory.atomicWrite (directory : ProtocolDirectory) (name : String)
    (content : List UInt8) : Except String ProtocolDirectory := do
  verifyPrivateDirectory directory.owned "protocol directory"
  return { directory with files := directory.files.put ⟨name, content, true, 1⟩ }

/-! ## The manifest -/

/-- `PublishedFile`, with the name under which the manifest lists it. -/
structure PublishedFile where
  name : String
  size : UInt64
  sha256 : String
  deriving DecidableEq, Repr

/-- `PublicationManifest`. -/
structure PublicationManifest where
  version : UInt32
  files : Table PublishedFile.name

/-- A published file as a field of the manifest. -/
def PublishedFile.toField (file : PublishedFile) : String × JsonText :=
  (file.name, .object [("size", .number file.size.toNat), ("sha256", .text file.sha256)])

/-- The files of a manifest in the order of their names. -/
def PublicationManifest.sortedFiles (manifest : PublicationManifest) : List PublishedFile :=
  manifest.files.rows.mergeSort fun first second => first.name ≤ second.name

/-- `serde_json::to_vec` of a manifest. -/
def PublicationManifest.toVec (manifest : PublicationManifest) : List UInt8 :=
  bytesOf (.ofList (JsonText.object [("version", .number manifest.version.toNat),
    ("files", .object (manifest.sortedFiles.map PublishedFile.toField))]).compact)

/-- What `serde_json::from_slice` makes of bytes, at each of the types that are read. -/
structure JsonReaders where
  input : List UInt8 → Except String AgentInput
  result : List UInt8 → Except String AgentResult
  manifest : List UInt8 → Except String PublicationManifest

/-! ## The writer -/

/-- The limits of `publish_result_bundle`, in the order in which it copies the files. -/
def publishLimits (maxResultBytes maxTotalBytes : Nat) : List (String × Nat) :=
  [("result.json", maxResultBytes), ("staged.patch", maxTotalBytes), ("staged.paths", 1024 * 1024),
    ("unstaged.paths", 1024 * 1024), ("staged.tree", 129), ("head", 129), ("refs", 1024 * 1024),
    ("config", 1024 * 1024), ("remotes", 1024 * 1024)]

/-- The limits of `read_published_result`, in the order of their names. -/
def readLimits (maxResultBytes maxTotalBytes : Nat) : List (String × Nat) :=
  [("config", 1024 * 1024), ("head", 129), ("refs", 1024 * 1024), ("remotes", 1024 * 1024),
    ("result.json", maxResultBytes), ("staged.patch", maxTotalBytes), ("staged.paths", 1024 * 1024),
    ("staged.tree", 129), ("unstaged.paths", 1024 * 1024)]

/-- `PreparedPublication`. -/
structure PreparedPublication where
  name : String
  device : Nat
  inode : Nat
  deriving DecidableEq, Repr

/-- `total.checked_add`, with the bound on the whole bundle. -/
def addToTotal (total size maxTotalBytes : Nat) : Except String Nat := do
  check (total + size < 2 ^ 64) "published result size overflow"
  check (total + size ≤ maxTotalBytes) "published result bundle exceeds configured writable bound"
  return total + size

/-- What `publish_result_bundle` has copied: the size so far, the files and their entries. -/
structure BundleCopy where
  total : Nat
  written : Table ProtocolFile.name
  files : Table PublishedFile.name

section Publication

variable (sha256 : List UInt8 → String)

/-- One pass of the loop of `publish_result_bundle`; the bound of the copy is an unsigned 64-bit
number. -/
def copyBundleFile (sandbox : ProtocolDirectory) (maxTotalBytes : Nat) (copy : BundleCopy)
    (limit : String × Nat) : Except String BundleCopy := do
  let (name, maximum) := limit
  let source ← openFileAt sandbox.files name
  check (source.regular && source.links == 1 && source.content.length ≤ maximum)
    s!"staged publication file {name} has invalid identity or size"
  let total ← addToTotal copy.total source.content.length maxTotalBytes
  let copied := source.content.take ((maximum + 1) % 2 ^ 64)
  let written ← createFileAt copy.written name copied
  check (copied.length == source.content.length)
    s!"staged publication file {name} changed while copying"
  return ⟨total, written, copy.files.put ⟨name, .ofNat copied.length, sha256 copied⟩⟩

/-- `rename_at` of a directory to `publication`, which fails on a directory that is not empty. -/
def renamePublication (protocol : ProtocolDirectory) (publication : ProtocolSubdirectory) :
    Except String ProtocolDirectory := do
  check ((protocol.directories.find? "publication").all fun existing =>
    existing.files.rows.isEmpty) "publish protocol file"
  let others := protocol.directories.delete fun directory => directory.name == publication.name
  return { protocol with
    directories := others.put { publication with name := "publication" } }

/-- `publish_result_bundle`, with the protocol directory it leaves. -/
def publishResultBundle (protocol : ProtocolDirectory) (prepared : PreparedPublication)
    (sandbox : ProtocolDirectory) (maxResultBytes maxTotalBytes : Nat) :
    Except String (AtomicResultState × ProtocolDirectory) := do
  verifyPrivateDirectory protocol.owned "protocol directory"
  match protocol.directories.find? prepared.name with
  | none => .error "open prepared publication directory"
  | some publication => do
    verifyPrivateDirectory publication.owned "protocol directory"
    check (publication.device == prepared.device && publication.inode == prepared.inode)
      "prepared publication directory identity changed"
    verifyPrivateDirectory sandbox.owned "protocol directory"
    let copy ← (publishLimits maxResultBytes maxTotalBytes).foldlM
      (copyBundleFile sha256 sandbox maxTotalBytes) ⟨0, publication.files, .empty⟩
    let manifestBytes := PublicationManifest.toVec ⟨1, copy.files⟩
    let files ← createFileAt copy.written "manifest.json" manifestBytes
    let later ← renamePublication protocol { publication with files }
    return (.complete prepared.device prepared.inode (sha256 manifestBytes), later)

/-- `prepare_publication`; the name, device and inode are those of the directory it creates. -/
def preparePublication (protocol : ProtocolDirectory) (prepared : PreparedPublication) :
    Except String ProtocolDirectory := do
  verifyPrivateDirectory protocol.owned "protocol directory"
  match protocol.directories.insert? ⟨prepared.name, prepared.device, prepared.inode, true, .empty⟩
    with
  | some directories => .ok { protocol with directories }
  | none => .error "create private protocol directory"

/-! ## The readers -/

/-- What `read_published_result` has read: the size so far and the result. -/
structure BundleRead where
  total : Nat
  result : Option (List UInt8)
  deriving DecidableEq, Repr

/-- One pass of the loop of `read_published_result`. -/
def readBundleFile (files : Table ProtocolFile.name) (manifest : PublicationManifest)
    (maxTotalBytes : Nat) (read : BundleRead) (limit : String × Nat) :
    Except String BundleRead := do
  let (name, maximum) := limit
  let bytes ← readBoundedFileAt files name maximum
  match manifest.files.find? name with
  | none => .error "result publication manifest is incomplete"
  | some entry => do
    check (entry.size == .ofNat bytes.length && entry.sha256 == sha256 bytes)
      s!"published file {name} differs from its durable manifest"
    let total ← addToTotal read.total entry.size.toNat maxTotalBytes
    return ⟨total, if name = "result.json" then some bytes else read.result⟩

/-- The check of the names in `read_published_result`. -/
def listsBundle (manifest : PublicationManifest) (limits : List (String × Nat)) : Bool :=
  manifest.files.rows.length == limits.length &&
    manifest.files.rows.all fun file => limits.any fun limit => limit.1 == file.name

variable (json : JsonReaders)

/-- `read_published_result`: the result and its state, if a publication is there. -/
def readPublishedResult (protocol : ProtocolDirectory) (maxResultBytes maxTotalBytes : Nat) :
    Except String (Option (List UInt8 × AtomicResultState)) := do
  verifyPrivateDirectory protocol.owned "protocol directory"
  match protocol.directories.find? "publication" with
  | none => .ok none
  | some publication => do
    verifyPrivateDirectory publication.owned "result publication"
    let manifestBytes ← readBoundedFileAt publication.files "manifest.json" (64 * 1024)
    let manifest ← json.manifest manifestBytes
    check (manifest.version == 1) "unsupported result publication manifest version"
    check (listsBundle manifest (readLimits maxResultBytes maxTotalBytes))
      "result publication manifest has unexpected files"
    let read ← (readLimits maxResultBytes maxTotalBytes).foldlM
      (readBundleFile sha256 publication.files manifest maxTotalBytes) ⟨0, none⟩
    match read.result with
    | none => .error "published result is absent"
    | some bytes =>
      .ok (some (bytes, .complete publication.device publication.inode (sha256 manifestBytes)))

/-- `RestartResult` without the path of the publication. -/
structure RestartResult where
  input : AgentInput
  inputSha256 : String
  result : AgentResult
  resultState : AtomicResultState
  deriving DecidableEq, Repr

/-- `read_restart_result`. -/
def readRestartResult (protocol : ProtocolDirectory) (maxResultBytes : Nat) :
    Except String (Option RestartResult) := do
  let inputBytes ← readCompleteResultAt protocol "input.json" maxResultBytes
  let input ← json.input inputBytes
  input.validate
  match ← readPublishedResult sha256 json protocol maxResultBytes (64 * 1024 * 1024) with
  | some (bytes, state) => do
    let result ← parseResult json.result bytes input
    return some ⟨input, sha256 inputBytes, result, state⟩
  | none => return none

/-! ## The runner -/

/-- What a run that completes returns, with the protocol directory it leaves. -/
structure CompletedRun where
  result : AgentResult
  resultState : AtomicResultState
  protocol : ProtocolDirectory

/-- `OpenCodeRunner::run` of a cycle whose sandbox exits with a result: the input before the launch
and the publication after it. `gitIdentity` is the outcome of `verify_exported_git_identity` and
`onWriting` that of the callback that persists the intent. -/
def runCycle (bounds : RunnerBounds) (input : AgentInput) (protocol sandbox : ProtocolDirectory)
    (prepared : PreparedPublication) (gitIdentity onWriting : Check) :
    Except String CompletedRun := do
  input.validate
  let launched ← protocol.atomicWrite "input.json" input.toVecPretty
  let bytes ← readCompleteResultAt sandbox "result.json" bounds.maxResultBytes
  let result ← parseResult json.result bytes input
  gitIdentity
  let opened ← preparePublication launched prepared
  onWriting
  let (state, published) ← publishResultBundle sha256 opened prepared sandbox
    bounds.maxResultBytes bounds.writableBytes
  return ⟨result, state, published⟩

/-- The input digest that the launch of a cycle records. -/
def launchDigest (input : AgentInput) : String := sha256 input.toVec

end Publication

/-! ## What is published -/

variable {sha256 : List UInt8 → String} {json : JsonReaders} {bounds : RunnerBounds}
  {input : AgentInput} {protocol sandbox later : ProtocolDirectory}
  {prepared : PreparedPublication} {gitIdentity onWriting : Check} {completed : CompletedRun}
  {copy after : BundleCopy} {limits done : List (String × Nat)} {limit : String × Nat}
  {maxResultBytes maxTotalBytes : Nat} {name : String} {state : AtomicResultState}

/-- The names of the files of a bundle, in the order in which they are copied. -/
def bundleNames : List String := (publishLimits 0 0).map Prod.fst

/-- The content of an exported file. -/
def exportedContent (sandbox : ProtocolDirectory) (name : String) : List UInt8 :=
  (sandbox.files.find? name).elim [] ProtocolFile.content

/-- The size of the files that a sandbox exports for a bundle. -/
def bundleBytes (sandbox : ProtocolDirectory) : Nat :=
  (bundleNames.map fun name => (exportedContent sandbox name).length).sum

/-- The entry of an exported file. -/
def publishedFile (sha256 : List UInt8 → String) (sandbox : ProtocolDirectory) (name : String) :
    PublishedFile :=
  ⟨name, .ofNat (exportedContent sandbox name).length, sha256 (exportedContent sandbox name)⟩

/-- The manifest of the files that a sandbox exports. -/
def bundleManifest (sha256 : List UInt8 → String) (sandbox : ProtocolDirectory) :
    PublicationManifest where
  version := 1
  files := ⟨bundleNames.map (publishedFile sha256 sandbox), by
    rw [List.map_map]
    exact (by decide : bundleNames.Nodup)⟩

/-- What the loop has copied after some of the limits. -/
structure Copied (sha256 : List UInt8 → String) (sandbox : ProtocolDirectory) (maxTotalBytes : Nat)
    (limits : List (String × Nat)) (copy : BundleCopy) : Prop where
  total : copy.total = (limits.map fun limit => (exportedContent sandbox limit.1).length).sum
  bounded : copy.total < 2 ^ 64 ∧ copy.total ≤ maxTotalBytes
  fits : ∀ limit ∈ limits, (exportedContent sandbox limit.1).length ≤ limit.2
  written : ∀ limit ∈ limits, copy.written.find? limit.1 =
    some ⟨limit.1, exportedContent sandbox limit.1, true, 1⟩
  files : copy.files.rows = limits.map fun limit => publishedFile sha256 sandbox limit.1

/-- At first nothing is copied. -/
theorem copied_start {written : Table ProtocolFile.name} :
    Copied sha256 sandbox maxTotalBytes [] ⟨0, written, .empty⟩ where
  total := rfl
  bounded := ⟨Nat.two_pow_pos 64, Nat.zero_le _⟩
  fits := by simp
  written := by simp
  files := rfl

/-- A size is added within the bound and the word. -/
theorem addToTotal_eq_ok {total size after : Nat} :
    addToTotal total size maxTotalBytes = .ok after ↔
      (total + size < 2 ^ 64 ∧ total + size ≤ maxTotalBytes) ∧ total + size = after := by
  simp only [addToTotal, Checked.bind_eq_ok, check_eq_ok, decide_eq_true_eq, pure, Except.pure,
    Except.ok.injEq, exists_and_left, exists_const, and_assoc]

/-- A file is created under a free name. -/
theorem createFileAt_eq_ok {files created : Table ProtocolFile.name} {content : List UInt8} :
    createFileAt files name content = .ok created ↔
      files.insert? ⟨name, content, true, 1⟩ = some created := by
  unfold createFileAt
  cases files.insert? ⟨name, content, true, 1⟩ with
  | none => exact iff_of_false nofun nofun
  | some later => rw [Except.ok.injEq, Option.some.injEq]

/-- A file is opened when it is there. -/
theorem openFileAt_eq_ok {files : Table ProtocolFile.name} {file : ProtocolFile} :
    openFileAt files name = .ok file ↔ files.find? name = some file := by
  unfold openFileAt
  cases files.find? name with
  | none => exact iff_of_false nofun nofun
  | some found => rw [Except.ok.injEq, Option.some.injEq]

/-- A pass of the copy, when it succeeds. -/
theorem copyBundleFile_eq_ok
    (passed : copyBundleFile sha256 sandbox maxTotalBytes copy limit = .ok after) :
    ((exportedContent sandbox limit.1).length ≤ limit.2 ∧
      after.total = copy.total + (exportedContent sandbox limit.1).length ∧
      after.total < 2 ^ 64 ∧ after.total ≤ maxTotalBytes) ∧
    copy.written.insert? ⟨limit.1, exportedContent sandbox limit.1, true, 1⟩ = some after.written ∧
    after.files = copy.files.put (publishedFile sha256 sandbox limit.1) := by
  simp only [copyBundleFile, Checked.bind_eq_ok, openFileAt_eq_ok, check_eq_ok, addToTotal_eq_ok,
    createFileAt_eq_ok, Bool.and_eq_true, decide_eq_true_eq, beq_iff_eq, List.length_take, pure,
    Except.pure, Except.ok.injEq] at passed
  obtain ⟨source, found, _, ⟨-, fits⟩, total, ⟨bounded, rfl⟩, written, created, _, whole, rfl⟩ :=
    passed
  have content : exportedContent sandbox limit.1 = source.content := by
    rw [exportedContent, found]
    rfl
  have taken : source.content.take ((limit.2 + 1) % 2 ^ 64) = source.content :=
    List.take_of_length_le (by omega)
  rw [taken] at created
  rw [content, publishedFile, content, taken, whole]
  exact ⟨⟨fits, rfl, bounded⟩, created, rfl⟩

/-- A file that is copied joins those that are. -/
theorem copied_step (copied : Copied sha256 sandbox maxTotalBytes done copy)
    (fresh : limit.1 ∉ done.map Prod.fst)
    (passed : copyBundleFile sha256 sandbox maxTotalBytes copy limit = .ok after) :
    Copied sha256 sandbox maxTotalBytes (done ++ [limit]) after := by
  obtain ⟨⟨fits, total, bounded⟩, created, files⟩ := copyBundleFile_eq_ok passed
  constructor
  · rw [total, copied.total]
    simp
  · exact bounded
  · intro other mem
    rcases List.mem_append.mp mem with old | new
    · exact copied.fits other old
    · rw [List.mem_singleton.mp new]
      exact fits
  · intro other mem
    rw [Table.find?_of_insert? other.1 created]
    rcases List.mem_append.mp mem with old | new
    · have apart : limit.1 ≠ other.1 := fun same => fresh (same ▸ List.mem_map_of_mem old)
      rw [if_neg apart]
      exact copied.written other old
    · rw [List.mem_singleton.mp new, if_pos rfl]
  · have unlisted : ∀ file ∈ copy.files, file.name ≠ limit.1 := by
      intro file mem same
      rw [← Table.mem_rows, copied.files] at mem
      obtain ⟨other, old, rfl⟩ := List.mem_map.mp mem
      exact fresh (same ▸ List.mem_map_of_mem old)
    rw [files, Table.rows_put_of_fresh unlisted, copied.files, List.map_append]
    rfl

/-- The files of a bundle have distinct names. -/
theorem nodup_publishLimits : ((publishLimits maxResultBytes maxTotalBytes).map Prod.fst).Nodup :=
  (by decide : bundleNames.Nodup)

/-- The whole copy, when it succeeds. -/
theorem copied_of_foldlM {written : Table ProtocolFile.name}
    (ran : (publishLimits maxResultBytes maxTotalBytes).foldlM
      (copyBundleFile sha256 sandbox maxTotalBytes) ⟨0, written, .empty⟩ = .ok copy) :
    Copied sha256 sandbox maxTotalBytes (publishLimits maxResultBytes maxTotalBytes) copy := by
  refine Checked.foldlM_keeps copied_start (fun done limit rest before after split copied => ?_) ran
  have distinct := @nodup_publishLimits maxResultBytes maxTotalBytes
  rw [split, List.map_append, List.map_cons, List.nodup_append] at distinct
  refine copied_step copied fun mem => ?_
  exact distinct.2.2 limit.1 mem limit.1 List.mem_cons_self rfl

/-! ## The size of the manifest -/

/-- A digest is short. -/
theorem length_of_isDigest {value : String} (digest : isDigest value = true) :
    value.length ≤ 64 := by
  rw [isDigest, isHexadecimal, Bool.and_eq_true, beq_iff_eq] at digest
  exact (length_bytesOf_bounds value).1.trans_eq digest.1

/-- The entry of a file in the manifest is short. -/
theorem length_toField_le {file : PublishedFile} (named : file.name ∈ bundleNames)
    (digest : isDigest file.sha256 = true) :
    (JsonText.quoted file.toField.1).length + (JsonText.compact file.toField.2).length ≤ 880 := by
  have name : (JsonText.quoted file.name).length ≤ 86 := by
    have short : file.name.length ≤ 14 :=
      (by decide : ∀ name ∈ bundleNames, name.length ≤ 14) _ named
    have quoted := JsonText.length_quoted_le file.name
    omega
  have size : (JsonText.digits file.size.toNat).length ≤ 20 :=
    JsonText.length_digits_le (by decide) (file.size.toNat_lt.trans (by decide))
  have text : (JsonText.quoted file.sha256).length ≤ 386 := by
    have short := length_of_isDigest digest
    have quoted := JsonText.length_quoted_le file.sha256
    omega
  have entry : (JsonText.compact file.toField.2).length ≤ (394 + 2) * 2 + 2 := by
    refine JsonText.length_compact_object_le fun field mem => ?_
    simp only [List.mem_cons, List.not_mem_nil, or_false] at mem
    have labels : (JsonText.quoted "size").length = 6 ∧
        (JsonText.quoted "sha256").length = 8 := by decide
    rcases mem with rfl | rfl
    · simp only [JsonText.compact]
      omega
    · simp only [JsonText.compact]
      omega
  show (JsonText.quoted file.name).length + _ ≤ 880
  omega

/-- The readers' bound on a manifest is far above the size of any. -/
theorem length_toVec_bundleManifest (digests : ∀ bytes, isDigest (sha256 bytes) = true) :
    (bundleManifest sha256 sandbox).toVec.length ≤ 64 * 1024 := by
  have permuted : ((bundleManifest sha256 sandbox).sortedFiles).Perm
      (bundleNames.map (publishedFile sha256 sandbox)) := List.mergeSort_perm _ _
  have files : (JsonText.compact (.object ((bundleManifest sha256 sandbox).sortedFiles.map
      PublishedFile.toField))).length ≤ (880 + 2) * 9 + 2 := by
    have fields := @JsonText.length_compact_object_le 880
      ((bundleManifest sha256 sandbox).sortedFiles.map PublishedFile.toField) fun field mem => by
        obtain ⟨file, listed, rfl⟩ := List.mem_map.mp mem
        obtain ⟨name, named, rfl⟩ := List.mem_map.mp (permuted.mem_iff.mp listed)
        exact length_toField_le named (digests _)
    rwa [List.length_map, permuted.length_eq, List.length_map] at fields
  have whole := @JsonText.length_compact_object_le 7947
    [("version", .number (bundleManifest sha256 sandbox).version.toNat),
      ("files", .object ((bundleManifest sha256 sandbox).sortedFiles.map PublishedFile.toField))]
    fun field mem => by
      simp only [List.mem_cons, List.not_mem_nil, or_false] at mem
      have labels : (JsonText.quoted "version").length = 9 ∧
          (JsonText.quoted "files").length = 7 := by decide
      rcases mem with rfl | rfl
      · have version : (JsonText.digits 1).length = 1 := by decide
        show (JsonText.quoted "version").length + (JsonText.digits 1).length ≤ 7947
        omega
      · simp only
        omega
  have bytes := (length_bytesOf_bounds (.ofList (JsonText.object
    [("version", .number (bundleManifest sha256 sandbox).version.toNat),
      ("files", .object ((bundleManifest sha256 sandbox).sortedFiles.map
        PublishedFile.toField))]).compact)).2
  rw [String.length_ofList] at bytes
  simp only [List.length_cons, List.length_nil] at whole
  rw [PublicationManifest.toVec]
  omega

/-! ## A published bundle -/

/-- A publication that holds the bundle of an export. -/
structure Published (sha256 : List UInt8 → String) (sandbox : ProtocolDirectory)
    (maxResultBytes : Nat) (publication : ProtocolSubdirectory) : Prop where
  owned : publication.owned = true
  bounded : bundleBytes sandbox < 2 ^ 64
  fits : ∀ limit ∈ publishLimits maxResultBytes (bundleBytes sandbox),
    (exportedContent sandbox limit.1).length ≤ limit.2
  files : ∀ name ∈ bundleNames, publication.files.find? name =
    some ⟨name, exportedContent sandbox name, true, 1⟩
  manifest : publication.files.find? "manifest.json" =
    some ⟨"manifest.json", (bundleManifest sha256 sandbox).toVec, true, 1⟩

/-- A file is no longer than its bundle. -/
theorem length_exportedContent_le (named : name ∈ bundleNames) :
    (exportedContent sandbox name).length ≤ bundleBytes sandbox := by
  obtain ⟨before, after, split⟩ := List.append_of_mem named
  rw [bundleBytes, split, List.map_append, List.map_cons, List.sum_append, List.sum_cons]
  omega

/-- A limited file is one of the bundle. -/
theorem mem_bundleNames (mem : limit ∈ publishLimits maxResultBytes maxTotalBytes) :
    limit.1 ∈ bundleNames := by
  have mem' : limit.1 ∈ (publishLimits maxResultBytes maxTotalBytes).map Prod.fst :=
    List.mem_map_of_mem mem
  exact mem'

/-- A file that fits under one bound on the bundle fits under every bound that the bundle keeps. -/
theorem publishLimits_fit {bound : Nat} (whole : bundleBytes sandbox ≤ bound)
    (fits : ∀ limit ∈ publishLimits maxResultBytes maxTotalBytes,
      (exportedContent sandbox limit.1).length ≤ limit.2) :
    ∀ limit ∈ publishLimits maxResultBytes bound,
      (exportedContent sandbox limit.1).length ≤ limit.2 := by
  intro limit mem
  by_cases patch : limit = ("staged.patch", bound)
  · have below := @length_exportedContent_le sandbox _ (mem_bundleNames mem)
    rw [patch] at below ⊢
    exact below.trans whole
  · refine fits limit ?_
    simp only [publishLimits, List.mem_cons, List.not_mem_nil, or_false, patch, false_or] at mem ⊢
    tauto

/-- What is copied under the bounds of the writer. -/
theorem Copied.bundle (copied : Copied sha256 sandbox maxTotalBytes
      (publishLimits maxResultBytes maxTotalBytes) copy) :
    bundleBytes sandbox < 2 ^ 64 ∧ bundleBytes sandbox ≤ maxTotalBytes ∧
      PublicationManifest.mk 1 copy.files = bundleManifest sha256 sandbox := by
  have total : copy.total = bundleBytes sandbox := copied.total
  have rows : copy.files.rows = (bundleManifest sha256 sandbox).files.rows := copied.files
  refine ⟨total ▸ copied.bounded.1, total ▸ copied.bounded.2, ?_⟩
  show PublicationManifest.mk 1 copy.files = ⟨1, (bundleManifest sha256 sandbox).files⟩
  rw [Table.ext_rows rows]

/-- The bundle that a successful publication leaves. -/
theorem published_of_publishResultBundle
    (ran : publishResultBundle sha256 protocol prepared sandbox maxResultBytes maxTotalBytes =
      .ok (state, later)) :
    ∃ publication, later.directories.find? "publication" = some publication ∧
      Published sha256 sandbox maxResultBytes publication ∧
      bundleBytes sandbox ≤ maxTotalBytes ∧ later.owned = true ∧ later.files = protocol.files ∧
      state = .complete publication.device publication.inode
        (sha256 (bundleManifest sha256 sandbox).toVec) := by
  unfold publishResultBundle at ran
  cases opened : protocol.directories.find? prepared.name with
  | none =>
    simp only [opened, Checked.bind_eq_ok] at ran
    obtain ⟨-, -, refused⟩ := ran
    cases refused
  | some publication =>
    simp only [opened, Checked.bind_eq_ok, verifyPrivateDirectory, check_eq_ok,
      createFileAt_eq_ok, Bool.and_eq_true, beq_iff_eq, pure, Except.pure, Except.ok.injEq,
      Prod.mk.injEq] at ran
    obtain ⟨-, owned, -, owned', -, ⟨device, inode⟩, -, -, copy, copies, files, created, renamed,
      moved, rfl, rfl⟩ := ran
    have copied := copied_of_foldlM copies
    obtain ⟨bounded, whole, manifest⟩ := copied.bundle
    rw [manifest] at created ⊢
    simp only [renamePublication, Checked.bind_eq_ok, check_eq_ok, pure, Except.pure,
      Except.ok.injEq] at moved
    obtain ⟨-, -, rfl⟩ := moved
    refine ⟨_, (Table.find?_put _).trans (if_pos rfl), ⟨owned', bounded,
      publishLimits_fit (Nat.le_refl _) copied.fits, fun name named => ?_, ?_⟩, whole, owned, rfl,
      ?_⟩
    · show files.find? name = _
      have apart : "manifest.json" ≠ name := fun same =>
        (by decide : "manifest.json" ∉ bundleNames) (same ▸ named)
      rw [Table.find?_of_insert? name created, if_neg apart]
      obtain ⟨limit, mem, rfl⟩ := List.mem_map.mp
        (show name ∈ (publishLimits maxResultBytes maxTotalBytes).map Prod.fst from named)
      exact copied.written limit mem
    · show files.find? "manifest.json" = _
      rw [Table.find?_of_insert? "manifest.json" created, if_pos rfl]
    · rw [← device, ← inode]

/-! ## Reading the bundle -/

/-- The manifest has an entry for each file of the bundle. -/
theorem find?_bundleManifest (named : name ∈ bundleNames) :
    (bundleManifest sha256 sandbox).files.find? name = some (publishedFile sha256 sandbox name) :=
  Table.find?_eq_some.mpr ⟨List.mem_map_of_mem named, rfl⟩

/-- A file is read back within its bound. -/
theorem readBoundedFileAt_eq_ok {files : Table ProtocolFile.name} {content bytes : List UInt8}
    {bound : Nat} (found : files.find? name = some ⟨name, content, true, 1⟩) :
    readBoundedFileAt files name bound = .ok bytes ↔ content.length ≤ bound ∧ content = bytes := by
  simp only [readBoundedFileAt, Checked.bind_eq_ok, openFileAt_eq_ok, found, check_eq_ok, pure,
    Except.pure, Option.some.injEq, Bool.and_eq_true, beq_self_eq_true, true_and,
    decide_eq_true_eq, Except.ok.injEq, exists_eq_left', exists_and_left, exists_const]

/-- A pass of the reader over a published bundle. -/
theorem readBundleFile_eq_ok {publication : ProtocolSubdirectory} {read next : BundleRead}
    {bound : Nat} (published : Published sha256 sandbox maxResultBytes publication)
    (named : limit.1 ∈ bundleNames) :
    readBundleFile sha256 publication.files (bundleManifest sha256 sandbox) bound read limit =
        .ok next ↔
      (exportedContent sandbox limit.1).length ≤ limit.2 ∧
        read.total + (exportedContent sandbox limit.1).length < 2 ^ 64 ∧
        read.total + (exportedContent sandbox limit.1).length ≤ bound ∧
        next = ⟨read.total + (exportedContent sandbox limit.1).length,
          if limit.1 = "result.json" then some (exportedContent sandbox limit.1)
          else read.result⟩ := by
  have size : (UInt64.ofNat (exportedContent sandbox limit.1).length).toNat =
      (exportedContent sandbox limit.1).length :=
    Nat.mod_eq_of_lt ((length_exportedContent_le named).trans_lt published.bounded)
  have entry := @find?_bundleManifest sha256 sandbox _ named
  simp only [readBundleFile, Checked.bind_eq_ok, readBoundedFileAt_eq_ok (published.files _ named),
    entry, publishedFile, check_eq_ok, addToTotal_eq_ok, pure, Except.pure, Except.ok.injEq]
  constructor
  · rintro ⟨_, ⟨fits, rfl⟩, _, -, _, ⟨⟨below, bounded⟩, rfl⟩, rfl⟩
    rw [size] at below bounded ⊢
    exact ⟨fits, below, bounded, rfl⟩
  · rintro ⟨fits, below, bounded, rfl⟩
    refine ⟨_, ⟨fits, rfl⟩, (), by simp, _, ⟨⟨size.symm ▸ below, size.symm ▸ bounded⟩, rfl⟩, ?_⟩
    rw [size]

/-- What the reader has read after some of the limits. -/
structure ReadUpTo (sandbox : ProtocolDirectory) (bound : Nat) (limits : List (String × Nat))
    (read : BundleRead) : Prop where
  total : read.total = (limits.map fun limit => (exportedContent sandbox limit.1).length).sum
  bounded : read.total ≤ bound
  result : read.result = if "result.json" ∈ limits.map Prod.fst then
    some (exportedContent sandbox "result.json") else none

/-- At first nothing is read. -/
theorem readUpTo_start {bound : Nat} : ReadUpTo sandbox bound [] ⟨0, none⟩ :=
  ⟨rfl, Nat.zero_le _, rfl⟩

/-- A file that is read joins those that are. -/
theorem readUpTo_step {read : BundleRead} {bound : Nat} (before : ReadUpTo sandbox bound done read)
    (bounded : read.total + (exportedContent sandbox limit.1).length ≤ bound) :
    ReadUpTo sandbox bound (done ++ [limit])
      ⟨read.total + (exportedContent sandbox limit.1).length,
        if limit.1 = "result.json" then some (exportedContent sandbox limit.1)
        else read.result⟩ := by
  refine ⟨?_, bounded, ?_⟩
  · simp [before.total]
  · by_cases named : limit.1 = "result.json"
    · simp [named]
    · have apart : ¬"result.json" = limit.1 := fun same => named same.symm
      simp only [named, if_false, before.result, List.map_append, List.mem_append, List.map_cons,
        List.map_nil, List.mem_singleton, apart, or_false]

/-- The readers' order is another one of the same files. -/
theorem sum_readLimits (bound : Nat) : ((readLimits maxResultBytes bound).map fun limit =>
    (exportedContent sandbox limit.1).length).sum = bundleBytes sandbox := by
  have permuted : ((readLimits maxResultBytes bound).map Prod.fst).Perm bundleNames :=
    (by decide : ((readLimits 0 0).map Prod.fst).Perm bundleNames)
  have sums := (permuted.map fun name => (exportedContent sandbox name).length).sum_nat
  rwa [List.map_map] at sums

/-- The limits of reading are those of publishing. -/
theorem mem_readLimits {bound : Nat} :
    limit ∈ readLimits maxResultBytes bound ↔ limit ∈ publishLimits maxResultBytes bound := by
  simp only [readLimits, publishLimits, List.mem_cons, List.not_mem_nil, or_false]
  tauto

/-- A published bundle is read in full exactly when it keeps the bound of the reader. -/
theorem readBundle_eq_ok {publication : ProtocolSubdirectory} {read : BundleRead} {bound : Nat}
    (published : Published sha256 sandbox maxResultBytes publication) :
    (readLimits maxResultBytes bound).foldlM (readBundleFile sha256 publication.files
        (bundleManifest sha256 sandbox) bound) ⟨0, none⟩ = .ok read ↔
      bundleBytes sandbox ≤ bound ∧
        read = ⟨bundleBytes sandbox, some (exportedContent sandbox "result.json")⟩ := by
  have finished : ∀ {read}, ReadUpTo sandbox bound (readLimits maxResultBytes bound) read →
      bundleBytes sandbox ≤ bound ∧
        read = ⟨bundleBytes sandbox, some (exportedContent sandbox "result.json")⟩ := by
    rintro ⟨total, result⟩ ⟨rfl, bounded, rfl⟩
    rw [sum_readLimits] at bounded ⊢
    exact ⟨bounded, rfl⟩
  have listed : ∀ {done limit rest}, readLimits maxResultBytes bound = done ++ limit :: rest →
      limit ∈ readLimits maxResultBytes bound := fun split => by simp [split]
  constructor
  · intro ran
    refine finished (Checked.foldlM_keeps readUpTo_start
      (fun done limit rest before next split holds passed => ?_) ran)
    have named := mem_bundleNames (mem_readLimits.mp (listed split))
    obtain ⟨-, -, bounded, rfl⟩ := (readBundleFile_eq_ok published named).mp passed
    exact readUpTo_step holds bounded
  · rintro ⟨whole, rfl⟩
    obtain ⟨last, ran, holds⟩ := Checked.foldlM_succeeds (@readUpTo_start sandbox bound)
      (fun done limit rest before split holds => by
        have mem := mem_readLimits.mp (listed split)
        have named := mem_bundleNames mem
        have sums := @sum_readLimits sandbox maxResultBytes bound
        rw [split, List.map_append, List.map_cons, List.sum_append, List.sum_cons, ← holds.total]
          at sums
        have below := published.bounded
        have bounded : before.total + (exportedContent sandbox limit.1).length ≤ bound := by omega
        have small : before.total + (exportedContent sandbox limit.1).length < 2 ^ 64 := by omega
        have fits := publishLimits_fit whole published.fits limit mem
        exact ⟨_, (readBundleFile_eq_ok published named).mpr ⟨fits, small, bounded, rfl⟩,
          readUpTo_step holds bounded⟩)
    rw [ran, (finished holds).2]

end Iq
