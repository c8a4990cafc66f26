import Iq.Agent.Publication

/-!
# Results after a restart

A run that publishes its result leaves a bundle that the reader of publications accepts under the
bounds of the writer. The restart reads the same protocol directory with bounds of its own: it takes
the bound on a result for the input too, and a constant for the whole bundle.
-/

namespace Iq

open Library

variable {sha256 : List UInt8 → String} {json : JsonReaders} {bounds : RunnerBounds}
  {input : AgentInput} {protocol sandbox later : ProtocolDirectory}
  {prepared : PreparedPublication} {gitIdentity onWriting : Check} {completed : CompletedRun}
  {publication : ProtocolSubdirectory} {maxResultBytes maxTotalBytes bound : Nat}
  {result : List UInt8 × AtomicResultState} {digest : String}

/-- The bundle is in the protocol directory of the run. -/
structure CompletedRun.Holds (completed : CompletedRun) (sha256 : List UInt8 → String)
    (json : JsonReaders) (bounds : RunnerBounds) (input : AgentInput)
    (sandbox : ProtocolDirectory) (publication : ProtocolSubdirectory) : Prop where
  valid : input.validate = .ok ()
  owned : completed.protocol.owned = true
  written : completed.protocol.files.find? "input.json" =
    some ⟨"input.json", input.toVecPretty, true, 1⟩
  parsed : parseResult json.result (exportedContent sandbox "result.json") input =
    .ok completed.result
  found : completed.protocol.directories.find? "publication" = some publication
  published : Published sha256 sandbox bounds.maxResultBytes publication
  whole : bundleBytes sandbox ≤ bounds.writableBytes
  state : completed.resultState = .complete publication.device publication.inode
    (sha256 (bundleManifest sha256 sandbox).toVec)

/-- A complete file that is there is read within its bound. -/
theorem readCompleteResultAt_eq_ok {name : String} {file : ProtocolFile} {bytes : List UInt8}
    (found : protocol.files.find? name = some file) :
    readCompleteResultAt protocol name bound = .ok bytes ↔
      protocol.owned = true ∧ (file.regular = true ∧ file.links = 1) ∧
        file.content.length ≤ bound ∧ file.content = bytes := by
  simp only [readCompleteResultAt, readCompleteResult, Checked.bind_eq_ok, openFileAt_eq_ok,
    verifyPrivateDirectory, found, check_eq_ok, Option.some.injEq, Bool.and_eq_true, beq_iff_eq,
    exists_eq_left', exists_and_left, exists_const]
  refine and_congr_right fun _ => and_congr_right fun _ => ?_
  by_cases fits : file.content.length ≤ bound
  · rw [if_neg (Nat.not_lt_of_le fits), Except.ok.injEq, and_iff_right fits]
  · rw [if_pos (Nat.lt_of_not_le fits)]
    exact iff_of_false (by rintro ⟨⟩) fun both => fits both.1

/-- What is read under a bound is the whole exported file. -/
theorem exportedContent_of_read {name : String} {bytes : List UInt8}
    (read : readCompleteResultAt sandbox name bound = .ok bytes) :
    exportedContent sandbox name = bytes := by
  cases found : sandbox.files.find? name with
  | none =>
    simp [readCompleteResultAt, Checked.bind_eq_ok, openFileAt_eq_ok, found] at read
  | some file =>
    rw [exportedContent, found]
    exact ((readCompleteResultAt_eq_ok found).mp read).2.2.2

/-- To prepare a publication leaves the files. -/
theorem files_of_preparePublication (prepares : preparePublication protocol prepared = .ok later) :
    later.files = protocol.files := by
  simp only [preparePublication, verifyPrivateDirectory, Checked.bind_eq_ok, check_eq_ok]
    at prepares
  obtain ⟨-, -, prepares⟩ := prepares
  split at prepares
  · obtain rfl := Except.ok.inj prepares
    rfl
  · cases prepares

/-- What a run that completes leaves. -/
theorem runCycle_holds
    (ran : runCycle sha256 json bounds input protocol sandbox prepared gitIdentity onWriting =
      .ok completed) :
    ∃ publication, completed.Holds sha256 json bounds input sandbox publication := by
  simp only [runCycle, ProtocolDirectory.atomicWrite, verifyPrivateDirectory, Checked.bind_eq_ok,
    check_eq_ok, pure, Except.pure, Except.ok.injEq] at ran
  obtain ⟨_, valid, launched, ⟨_, -, rfl⟩, bytes, read, result, parsed, _, -, opened, prepares, _,
    -, ⟨state, later⟩, publishes, rfl⟩ := ran
  obtain ⟨publication, found, published, whole, owned, files, rfl⟩ :=
    published_of_publishResultBundle publishes
  refine ⟨publication, ⟨valid, owned, ?_, ?_, found, published, whole, rfl⟩⟩
  · show later.files.find? "input.json" = _
    rw [files, files_of_preparePublication prepares, Table.find?_put, if_pos rfl]
  · rw [exportedContent_of_read read]
    exact parsed

/-! ## The reader of publications -/

/-- The manifest of a bundle lists its files. -/
theorem listsBundle_bundleManifest :
    listsBundle (bundleManifest sha256 sandbox) (readLimits maxResultBytes bound) = true := by
  have listed : ∀ name ∈ bundleNames, (readLimits 0 0).any fun limit => limit.1 == name := by decide
  refine Bool.and_eq_true_iff.mpr ⟨rfl, List.all_eq_true.mpr fun file mem => ?_⟩
  obtain ⟨name, named, rfl⟩ := List.mem_map.mp mem
  exact listed name named

/-- The reader accepts the bundle exactly when it keeps the bound of the reader, and gives back the
exported result and the published state. -/
theorem readPublishedResult_eq_ok
    (digests : ∀ bytes, isDigest (sha256 bytes) = true)
    (readBack : json.manifest (bundleManifest sha256 sandbox).toVec =
      .ok (bundleManifest sha256 sandbox))
    (holds : completed.Holds sha256 json bounds input sandbox publication) :
    readPublishedResult sha256 json completed.protocol bounds.maxResultBytes bound =
        .ok (some result) ↔
      bundleBytes sandbox ≤ bound ∧
        result = (exportedContent sandbox "result.json", completed.resultState) := by
  have small := @length_toVec_bundleManifest sha256 sandbox digests
  have manifest : ∀ bytes,
      readBoundedFileAt publication.files "manifest.json" (64 * 1024) = .ok bytes ↔
        (bundleManifest sha256 sandbox).toVec = bytes := fun bytes =>
    (readBoundedFileAt_eq_ok holds.published.manifest).trans (and_iff_right small)
  simp only [readPublishedResult, verifyPrivateDirectory, holds.owned, holds.found,
    holds.published.owned, Checked.bind_eq_ok, check_eq_ok, manifest, exists_eq_left', readBack,
    Except.ok.injEq, readBundle_eq_ok holds.published, listsBundle_bundleManifest]
  rw [holds.state]
  constructor
  · rintro ⟨-, -, -, -, -, -, -, -, read, ⟨whole, rfl⟩, same⟩
    exact ⟨whole, (Option.some.inj (Except.ok.inj same)).symm⟩
  · rintro ⟨whole, rfl⟩
    exact ⟨(), trivial, (), trivial, (), rfl, (), trivial, _, ⟨whole, rfl⟩, rfl⟩

/-! ## The restart -/

/-- The restart accepts the bundle exactly when the input keeps the bound on a result and the bundle
the constant. -/
theorem readRestartResult_eq_ok {restart : RestartResult}
    (digests : ∀ bytes, isDigest (sha256 bytes) = true)
    (inputBack : json.input input.toVecPretty = .ok input)
    (readBack : json.manifest (bundleManifest sha256 sandbox).toVec =
      .ok (bundleManifest sha256 sandbox))
    (holds : completed.Holds sha256 json bounds input sandbox publication) :
    readRestartResult sha256 json completed.protocol bounds.maxResultBytes = .ok (some restart) ↔
      (input.toVecPretty.length ≤ bounds.maxResultBytes ∧
        bundleBytes sandbox ≤ 64 * 1024 * 1024) ∧
      restart = ⟨input, sha256 input.toVecPretty, completed.result, completed.resultState⟩ := by
  have bundle := @readPublishedResult_eq_ok sha256 json bounds input sandbox completed publication
    (64 * 1024 * 1024)
  simp only [readRestartResult, Checked.bind_eq_ok, readCompleteResultAt_eq_ok holds.written,
    holds.owned, true_and]
  constructor
  · rintro ⟨_, ⟨fits, rfl⟩, read, parsed, -, -, found, published, returned⟩
    obtain rfl : input = read := Except.ok.inj (inputBack.symm.trans parsed)
    cases found with
    | none => cases returned
    | some result =>
      obtain ⟨whole, rfl⟩ := (bundle digests readBack holds).mp published
      simp only [holds.parsed, Checked.bind_eq_ok, pure, Except.pure, Except.ok.injEq,
        Option.some.injEq, exists_eq_left'] at returned
      exact ⟨⟨fits, whole⟩, returned.symm⟩
  · rintro ⟨⟨fits, whole⟩, rfl⟩
    refine ⟨_, ⟨fits, rfl⟩, input, inputBack, (), holds.valid, _,
      (bundle digests readBack holds).mpr ⟨whole, rfl⟩, ?_⟩
    simp only [holds.parsed]
    rfl

/-- A run that completes can be read back: the reader of publications returns its result under the
bounds of the writer, and the restart returns the input, the result, the state and the input digest
that the launch recorded. -/
structure CompletedRun.ReadBack (completed : CompletedRun) (sha256 : List UInt8 → String)
    (json : JsonReaders) (bounds : RunnerBounds) (input : AgentInput) : Prop where
  published : ∃ bytes, readPublishedResult sha256 json completed.protocol bounds.maxResultBytes
      bounds.writableBytes = .ok (some (bytes, completed.resultState)) ∧
    parseResult json.result bytes input = .ok completed.result
  restarted : readRestartResult sha256 json completed.protocol bounds.maxResultBytes =
    .ok (some ⟨input, launchDigest sha256 input, completed.result, completed.resultState⟩)

/-! ## A first cycle -/

/-- The identity of a first cycle on the branch `topic`. -/
def topicIdentity : ExactEffortIdentity where
  effortId := "effort-1"
  itemId := "item-1"
  attemptId := "attempt-1"
  cycleId := "cycle-1"
  targetSha := "1111111111111111111111111111111111111111"
  sourceSha := "2222222222222222222222222222222222222222"
  candidateSha := none

/-- The input of that cycle. -/
def topicInput (maxResultBytes : UInt64) : AgentInput where
  version := 2
  identity := topicIdentity
  repository := ⟨"owner/name", ⟨"refs/heads/main", TargetRef.valid_main⟩, .sha1⟩
  source := .remoteBranch "topic" "2222222222222222222222222222222222222222"
  landing := .direct
  baseSha := "1111111111111111111111111111111111111111"
  rift := ⟨"rift-2", "rift-1", ⟨["6974656d2d31"]⟩⟩
  conflicts := []
  priorOutcomes := []
  validationEvidence := []
  instructions := []
  limits := ⟨maxResultBytes, 16 * 1024, 10000, 100⟩

/-- The bounds of its runner. -/
def topicBounds (maxResultBytes : UInt64) : RunnerBounds :=
  ⟨4096, maxResultBytes.toNat, 4, 67108864, 60, 1048576, 64⟩

/-- The result of its agent. -/
def topicFailure : MechanicalFailureResult where
  version := 2
  identity := topicIdentity
  operation := "build"
  reason := "no space"
  evidence := "log"
  riftInspectable := true

/-- The text in which the agent writes that result. -/
def topicResult : List UInt8 :=
  (JsonText.compact (.object [("outcome", .text "mechanical_failure"), ("version", .number 2),
    ("identity", topicIdentity.toJson), ("operation", .text "build"), ("reason", .text "no space"),
    ("evidence", .text "log"), ("rift_inspectable", .bool true)])).flatMap String.utf8EncodeChar

/-- The line of an object identifier. -/
def topicHead : List UInt8 :=
  "1111111111111111111111111111111111111111\n".toList.flatMap String.utf8EncodeChar

/-- A regular file of the export. -/
def exportedFile (name : String) (content : List UInt8) : ProtocolFile := ⟨name, content, true, 1⟩

/-- What the sandbox of the cycle exports. -/
def topicExport : ProtocolDirectory where
  owned := true
  files := ⟨[exportedFile "result.json" topicResult, exportedFile "staged.patch" [],
    exportedFile "staged.paths" [], exportedFile "unstaged.paths" [],
    exportedFile "staged.tree" topicHead, exportedFile "head" topicHead, exportedFile "refs" [],
    exportedFile "config" [], exportedFile "remotes" []], by decide⟩
  directories := .empty

/-- The digests of the files of the cycle. -/
def topicFileDigest (bytes : List UInt8) : String :=
  if bytes = topicResult then "4da3a1f8bdfb3c552590933820d71a48721d67489475e9625495f7228109fda3"
  else if bytes = topicHead then "0e4f6f5ffe8ab285266465bd48989e24fae411b9a759de839aee5dcab192beb7"
  else if bytes = (topicInput 512).toVec then
    "64afb7cf223dc9977a8f13b7a82e0041cb9610e7429e62a4fb7f573dfce357d6"
  else if bytes = (topicInput 512).toVecPretty then
    "3af4e7c2585d274ea3f1146bfeee7d20e507b6cd45c25632ceca62ce4cce9b56"
  else if bytes = (topicInput 4096).toVec then
    "ccd9c31df666f4b64bd74d86d0b0fe82c1d17854f601a5c78a39294198f90654"
  else if bytes = (topicInput 4096).toVecPretty then
    "623aeb90cbd636a82baa88e50953acc2a0336857edc04b2b08f8a4e83f6ad4c4"
  else "e3b0c44298fc1c149afbf4c8996fb92427ae41e4649b934ca495991b7852b855"

/-- The digests of the cycle, with the one of the manifest. -/
def topicDigest (bytes : List UInt8) : String :=
  if bytes = (bundleManifest topicFileDigest topicExport).toVec then
    "61586a3bd04f0813de721d900a0cc7736eaa305bad05540b18a2777e6ad06891"
  else topicFileDigest bytes

/-- The sample's digest is one. -/
theorem isDigest_topicDigest (bytes : List UInt8) : isDigest (topicDigest bytes) = true := by
  unfold topicDigest topicFileDigest
  repeat' split
  all_goals decide +kernel

/-- What is read of the texts of the cycle. -/
def topicJson (maxResultBytes : UInt64) : JsonReaders where
  input bytes :=
    if bytes = (topicInput maxResultBytes).toVecPretty then .ok (topicInput maxResultBytes)
    else .error "expected value"
  result bytes :=
    if bytes = topicResult then .ok (.mechanicalFailure topicFailure) else .error "expected value"
  manifest bytes :=
    if bytes = (bundleManifest topicDigest topicExport).toVec then
      .ok (bundleManifest topicDigest topicExport)
    else .error "expected value"

/-- The sample's input is read back. -/
theorem topicJson_input (maxResultBytes : UInt64) :
    (topicJson maxResultBytes).input (topicInput maxResultBytes).toVecPretty =
      .ok (topicInput maxResultBytes) := by
  simp only [topicJson, if_true]

/-- The sample's manifest is read back. -/
theorem topicJson_manifest (maxResultBytes : UInt64) :
    (topicJson maxResultBytes).manifest (bundleManifest topicDigest topicExport).toVec =
      .ok (bundleManifest topicDigest topicExport) := by
  simp only [topicJson, if_true]

/-- The run of the cycle. -/
def topicRun (maxResultBytes : UInt64) : Except String CompletedRun :=
  runCycle topicDigest (topicJson maxResultBytes) (topicBounds maxResultBytes)
    (topicInput maxResultBytes) ⟨true, .empty, .empty⟩ topicExport
    ⟨".publication-00000000-0000-4000-8000-000000000001", 1, 2⟩ (.ok ()) (.ok ())

/-! ## What a restart reads back -/

/-- A published result is returned after a restart, with some input digest, exactly when the input
keeps the bound on a result and the bundle the constant of the restart; with the digest of the
launch exactly when also the two texts of the input have one digest. -/
theorem publishedResult_readBack_iff
    (digests : ∀ bytes, isDigest (sha256 bytes) = true)
    (inputBack : json.input input.toVecPretty = .ok input)
    (manifestBack : json.manifest (bundleManifest sha256 sandbox).toVec =
      .ok (bundleManifest sha256 sandbox))
    (ran : runCycle sha256 json bounds input protocol sandbox prepared gitIdentity onWriting =
      .ok completed) :
    ((∃ digest, readRestartResult sha256 json completed.protocol bounds.maxResultBytes =
        .ok (some ⟨input, digest, completed.result, completed.resultState⟩)) ↔
      input.toVecPretty.length ≤ bounds.maxResultBytes ∧
        bundleBytes sandbox ≤ 64 * 1024 * 1024) ∧
    (completed.ReadBack sha256 json bounds input ↔
      input.toVecPretty.length ≤ bounds.maxResultBytes ∧
        bundleBytes sandbox ≤ 64 * 1024 * 1024 ∧
        sha256 input.toVec = sha256 input.toVecPretty) := by
  obtain ⟨publication, holds⟩ := runCycle_holds ran
  have restart := @readRestartResult_eq_ok sha256 json bounds input sandbox completed publication
  have published := @readPublishedResult_eq_ok sha256 json bounds input sandbox completed
    publication bounds.writableBytes
  refine ⟨⟨?_, fun sizes => ?_⟩, ⟨fun back => ?_, ?_⟩⟩
  · rintro ⟨digest, returned⟩
    exact ((restart digests inputBack manifestBack holds).mp returned).1
  · exact ⟨_, (restart digests inputBack manifestBack holds).mpr ⟨sizes, rfl⟩⟩
  · obtain ⟨⟨fits, whole⟩, same⟩ :=
      (restart digests inputBack manifestBack holds).mp back.restarted
    exact ⟨fits, whole, (RestartResult.mk.injEq .. ▸ same).2.1⟩
  · rintro ⟨fits, whole, same⟩
    refine ⟨⟨_, (published digests manifestBack holds).mpr ⟨holds.whole, rfl⟩, holds.parsed⟩, ?_⟩
    rw [launchDigest, same]
    exact (restart digests inputBack manifestBack holds).mpr ⟨⟨fits, whole⟩, rfl⟩

/-- The sample's result is read back after a restart. -/
theorem publishedResult_readBack_short_input :
    ∃ completed, topicRun 4096 = .ok completed ∧
      ∃ digest, readRestartResult topicDigest (topicJson 4096) completed.protocol 4096 =
        .ok (some ⟨topicInput 4096, digest, completed.result, completed.resultState⟩) := by
  obtain ⟨completed, ran⟩ := Checked.exists_of_isOk
    (by decide +kernel : (topicRun 4096).isOk = true)
  have fits : (topicInput 4096).toVecPretty.length ≤ 4096 := by
    rw [AgentInput.toVecPretty, bytesOf_eq_flatMap, String.toList_ofList]
    decide +kernel
  have whole : bundleBytes topicExport ≤ 64 * 1024 * 1024 := by decide +kernel
  exact ⟨completed, ran, (publishedResult_readBack_iff isDigest_topicDigest (topicJson_input 4096)
    (topicJson_manifest 4096) ran).1.mpr ⟨fits, whole⟩⟩

/-- With a bound of 512 bytes on a result the restart refuses the bundle, because it bounds the
input of 1019 bytes by it. -/
theorem publishedResult_unreadable_long_input :
    ∃ completed, topicRun 512 = .ok completed ∧
      ¬completed.ReadBack topicDigest (topicJson 512) (topicBounds 512) (topicInput 512) := by
  obtain ⟨completed, ran⟩ := Checked.exists_of_isOk
    (by decide +kernel : (topicRun 512).isOk = true)
  obtain ⟨publication, holds⟩ := runCycle_holds ran
  refine ⟨completed, ran, fun back => ?_⟩
  have sizes := ((readRestartResult_eq_ok isDigest_topicDigest (topicJson_input 512)
    (topicJson_manifest 512) holds).mp back.restarted).1
  rw [AgentInput.toVecPretty, bytesOf_eq_flatMap, String.toList_ofList] at sizes
  exact absurd sizes.1 (by decide +kernel)

end Iq
