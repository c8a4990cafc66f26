import Iq.Domain.EncodedPath
import Iq.Library.JsonText
import Iq.Store.Schema

/-!
# The protocol of the integration agent

The input that a cycle hands to its agent, the result that the agent writes, and the checks of both,
as `agent_protocol.rs` defines them. The input is written as JSON; `serde_json` reads JSON, so what
it reads is a parameter wherever a file is read.
-/

namespace Iq

open Library

/-- `PROTOCOL_VERSION`. -/
def protocolVersion : UInt32 := 2

/-! ## The input -/

/-- `RepositoryIdentity`. -/
structure RepositoryIdentity where
  repoKey : String
  targetRef : TargetRef
  objectFormat : GitObjectFormat
  deriving DecidableEq, Repr

/-- `SourceVariant` of the protocol. -/
inductive InputSource where
  | remoteBranch (branch sha : String)
  | localSubmission (submissionId sha : String)
  deriving DecidableEq, Repr

/-- `LandingVariant` of the protocol. -/
inductive InputLanding where
  | direct
  | provider (url : String)
  | squash
  deriving DecidableEq, Repr

/-- `RiftIdentity`. -/
structure RiftIdentity where
  riftId : String
  sourceRiftId : String
  relativePath : EncodedPath
  deriving DecidableEq, Repr

/-- `ConflictEntry`. -/
structure ConflictEntry where
  path : EncodedPath
  baseBlob : Option String
  targetBlob : Option String
  sourceBlob : Option String
  deriving DecidableEq, Repr

/-- `PriorOutcome`. -/
structure PriorOutcome where
  cycleId : String
  kind : String
  evidence : String
  deriving DecidableEq, Repr

/-- `BoundedEvidence`. -/
structure BoundedEvidence where
  kind : String
  text : String
  deriving DecidableEq, Repr

/-- `InstructionIdentity`. -/
structure InstructionIdentity where
  path : EncodedPath
  sha256 : String
  deriving DecidableEq, Repr

/-- `ProtocolLimits`. -/
structure ProtocolLimits where
  maxResultBytes : UInt64
  maxTextBytes : UInt64
  maxPaths : UInt32
  maxEvidenceEntries : UInt32
  deriving DecidableEq, Repr

/-- `AgentInput`. -/
structure AgentInput where
  version : UInt32
  identity : ExactEffortIdentity
  repository : RepositoryIdentity
  source : InputSource
  landing : InputLanding
  baseSha : String
  rift : RiftIdentity
  conflicts : List ConflictEntry
  priorOutcomes : List PriorOutcome
  validationEvidence : List BoundedEvidence
  instructions : List InstructionIdentity
  limits : ProtocolLimits
  deriving DecidableEq, Repr

/-! ## The result -/

/-- `CheckStatus`. -/
inductive CheckStatus where
  | passed
  | failed
  | notRun
  deriving DecidableEq, Repr

/-- `CheckEvidence`. -/
structure CheckEvidence where
  command : String
  status : CheckStatus
  summary : String
  deriving DecidableEq, Repr

/-- `ResolvedResult`. -/
structure ResolvedResult where
  version : UInt32
  identity : ExactEffortIdentity
  stagedTreeSha256 : String
  changedPaths : List EncodedPath
  checks : List CheckEvidence
  deriving DecidableEq, Repr

/-- `GuidanceResult`. -/
structure GuidanceResult where
  version : UInt32
  identity : ExactEffortIdentity
  question : String
  affectedContracts : List String
  affectedPaths : List EncodedPath
  alternatives : GuidanceAlternatives
  evidence : String
  deriving DecidableEq, Repr

/-- `MechanicalFailureResult`. -/
structure MechanicalFailureResult where
  version : UInt32
  identity : ExactEffortIdentity
  operation : String
  reason : String
  evidence : String
  riftInspectable : Bool
  deriving DecidableEq, Repr

/-- `AgentResult`. -/
inductive AgentResult where
  | resolved (value : ResolvedResult)
  | guidanceRequired (value : GuidanceResult)
  | mechanicalFailure (value : MechanicalFailureResult)
  deriving DecidableEq, Repr

/-- `AgentResult::identity`. -/
def AgentResult.identity : AgentResult → ExactEffortIdentity
  | resolved value => value.identity
  | guidanceRequired value => value.identity
  | mechanicalFailure value => value.identity

/-! ## Checks -/

/-- The loop of `validate_paths` with the paths it has seen. -/
def validatePathsFrom (max : Nat) (seen : List EncodedPath) : List EncodedPath → Check
  | [] => .ok ()
  | path :: rest =>
    if max ≤ seen.length then .error "protocol path list exceeds configured limit"
    else do
      let _ ← path.toBytes
      if seen.contains path then .error "protocol path list contains a duplicate"
      else validatePathsFrom max (path :: seen) rest

/-- `validate_paths`, which `parse_result` calls for the reported paths. -/
def validatePaths (paths : List EncodedPath) (max : Nat) : Check := validatePathsFrom max [] paths

/-- `require_version`. -/
def requireVersion (version : UInt32) : Check :=
  check (version == protocolVersion) "unsupported integration-agent result version"

/-- `require_digest`. -/
def requireDigest (value label : String) : Check :=
  check (isDigest value) s!"{label} must be a SHA-256 digest"

/-- `require_bounded`. -/
def requireBounded (value : String) (max : UInt64) (label : String) : Check := do
  requireExactText value label
  check (value.utf8ByteSize ≤ max.toNat) s!"{label} exceeds configured text limit"

/-- `GitObjectFormat::require_oid` on an optional identifier. -/
def requireOptionalOid (format : GitObjectFormat) (value : Option String) (label : String) :
    Check :=
  match value with
  | some value => format.requireOid value label
  | none => .ok ()

/-- `validate_identity`. -/
def validateIdentity (identity : ExactEffortIdentity) (format : GitObjectFormat) : Check := do
  requireExactText identity.effortId "effort ID"
  requireExactText identity.itemId "item ID"
  requireExactText identity.attemptId "attempt ID"
  requireExactText identity.cycleId "cycle ID"
  validateCycleId identity.cycleId
  format.requireOid identity.targetSha "target SHA"
  format.requireOid identity.sourceSha "source SHA"
  requireOptionalOid format identity.candidateSha "candidate SHA"

/-- The check of the source in `AgentInput::validate`. -/
def InputSource.validate (source : InputSource) (format : GitObjectFormat) : Check :=
  match source with
  | .remoteBranch branch sha => do
    requireExactText branch "source branch"
    format.requireOid sha "source SHA"
  | .localSubmission submissionId sha => do
    requireExactText submissionId "local submission identity"
    format.requireOid sha "source SHA"

/-- The check of one conflict in `AgentInput::validate`. -/
def ConflictEntry.validate (conflict : ConflictEntry) (format : GitObjectFormat) : Check := do
  requireOptionalOid format conflict.baseBlob "base conflict blob"
  requireOptionalOid format conflict.targetBlob "target conflict blob"
  requireOptionalOid format conflict.sourceBlob "source conflict blob"

/-- The check of one prior outcome in `AgentInput::validate`. -/
def PriorOutcome.validate (outcome : PriorOutcome) (limits : ProtocolLimits) : Check := do
  requireExactText outcome.cycleId "prior outcome cycle ID"
  requireExactText outcome.kind "prior outcome kind"
  requireBounded outcome.evidence limits.maxTextBytes "prior outcome evidence"

/-- The check of one piece of evidence in `AgentInput::validate`. -/
def BoundedEvidence.validate (entry : BoundedEvidence) (limits : ProtocolLimits) : Check := do
  requireExactText entry.kind "validation evidence kind"
  requireBounded entry.text limits.maxTextBytes "validation evidence"

/-- `AgentInput::validate`. The target reference is one that `TargetRef::from_full` accepts. -/
def AgentInput.validate (input : AgentInput) : Check := do
  let limits := input.limits
  let format := input.repository.objectFormat
  check (input.version == protocolVersion) "unsupported integration-agent input version"
  validateIdentity input.identity format
  requireExactText input.repository.repoKey "repository identity"
  format.requireOid input.baseSha "base SHA"
  input.source.validate format
  input.conflicts.forM fun conflict => conflict.validate format
  validatePaths (input.conflicts.map ConflictEntry.path) limits.maxPaths.toNat
  validatePaths (input.instructions.map InstructionIdentity.path) limits.maxPaths.toNat
  check (input.validationEvidence.length ≤ limits.maxEvidenceEntries.toNat)
    "validation evidence exceeds protocol entry limit"
  check (input.priorOutcomes.length ≤ limits.maxEvidenceEntries.toNat)
    "prior outcomes exceed protocol entry limit"
  input.priorOutcomes.forM fun outcome => outcome.validate limits
  input.validationEvidence.forM fun entry => entry.validate limits
  input.instructions.forM fun instruction =>
    requireDigest instruction.sha256 "instruction digest"

/-- The loop over the explicit alternatives in `parse_result`. -/
def checkAlternatives (max : UInt64) (seen : List String) : List String → Check
  | [] => .ok ()
  | alternative :: rest => do
    requireBounded alternative max "guidance alternative"
    check (!seen.contains alternative) "guidance alternatives must be unique"
    checkAlternatives max (alternative :: seen) rest

/-- The check of the alternatives in `parse_result`. -/
def validateAlternatives (alternatives : GuidanceAlternatives) (max : UInt64) : Check :=
  match alternatives with
  | .explicit values =>
    if 2 ≤ values.length then checkAlternatives max [] values
    else .error "guidance requires two alternatives or explicit free text"
  | .freeText => .ok ()

/-- The match on the variants in `parse_result`. -/
def AgentResult.validate (result : AgentResult) (limits : ProtocolLimits) : Check :=
  match result with
  | .resolved value => do
    requireVersion value.version
    requireDigest value.stagedTreeSha256 "staged-tree digest"
    validatePaths value.changedPaths limits.maxPaths.toNat
    check (value.checks.length ≤ limits.maxEvidenceEntries.toNat)
      "check evidence exceeds protocol entry limit"
    value.checks.forM fun evidence => do
      requireBounded evidence.command limits.maxTextBytes "check command"
      requireBounded evidence.summary limits.maxTextBytes "check summary"
  | .guidanceRequired value => do
    requireVersion value.version
    requireBounded value.question limits.maxTextBytes "guidance question"
    check (!value.affectedContracts.isEmpty && !value.affectedPaths.isEmpty)
      "guidance requires affected contracts and paths"
    validatePaths value.affectedPaths limits.maxPaths.toNat
    validateAlternatives value.alternatives limits.maxTextBytes
    requireBounded value.evidence limits.maxTextBytes "guidance evidence"
  | .mechanicalFailure value => do
    requireVersion value.version
    requireBounded value.operation limits.maxTextBytes "mechanical operation"
    requireBounded value.reason limits.maxTextBytes "mechanical reason"
    requireBounded value.evidence limits.maxTextBytes "mechanical evidence"

/-- `parse_result`; `fromSlice` is `serde_json::from_slice` at `AgentResult`. -/
def parseResult (fromSlice : List UInt8 → Except String AgentResult) (bytes : List UInt8)
    (input : AgentInput) : Except String AgentResult := do
  check (bytes.length ≤ input.limits.maxResultBytes.toNat)
    "integration-agent result exceeds configured limit"
  let result ← fromSlice bytes
  check (result.identity == input.identity)
    "integration-agent result identity does not match cycle input"
  result.validate input.limits
  return result

/-! ## Reading -/

/-- `read_complete_result` on a regular file. -/
def readCompleteResult (content : List UInt8) (maxBytes : Nat) : Except String (List UInt8) :=
  if maxBytes < content.length then
    .error "agent result must be a bounded single-link regular file"
  else .ok content

/-- A file within its bound is read whole. -/
theorem readCompleteResult_eq_ok {content bytes : List UInt8} {maxBytes : Nat} :
    readCompleteResult content maxBytes = .ok bytes ↔
      content.length ≤ maxBytes ∧ bytes = content := by
  unfold readCompleteResult
  split
  · rename_i above
    constructor
    · rintro ⟨⟩
    · exact fun read => absurd read.1 (Nat.not_le_of_lt above)
  · rename_i bounded
    constructor
    · rintro ⟨⟩
      exact ⟨Nat.not_lt.mp bounded, rfl⟩
    · rintro ⟨-, rfl⟩
      rfl

/-! ## The JSON of the input -/

/-- An encoded path as JSON. -/
def EncodedPath.toJson (path : EncodedPath) : JsonText :=
  .array (path.components.map fun hex => .object [("hex", .text hex)])

/-- An effort identity as JSON. -/
def ExactEffortIdentity.toJson (identity : ExactEffortIdentity) : JsonText :=
  .object [("effort_id", .text identity.effortId), ("item_id", .text identity.itemId),
    ("attempt_id", .text identity.attemptId), ("cycle_id", .text identity.cycleId),
    ("target_sha", .text identity.targetSha), ("source_sha", .text identity.sourceSha),
    ("candidate_sha", .option identity.candidateSha)]

/-- A repository identity as JSON. -/
def RepositoryIdentity.toJson (repository : RepositoryIdentity) : JsonText :=
  .object [("repo_key", .text repository.repoKey), ("target_ref", .text repository.targetRef.text),
    ("object_format", .text repository.objectFormat.asStr)]

/-- A source as JSON, tagged with its kind. -/
def InputSource.toJson : InputSource → JsonText
  | remoteBranch branch sha =>
    .object [("kind", .text "remote_branch"), ("branch", .text branch), ("sha", .text sha)]
  | localSubmission submissionId sha =>
    .object [("kind", .text "local_submission"), ("submission_id", .text submissionId),
      ("sha", .text sha)]

/-- A landing as JSON, tagged with its kind. -/
def InputLanding.toJson : InputLanding → JsonText
  | direct => .object [("kind", .text "direct")]
  | provider url => .object [("kind", .text "provider"), ("url", .text url)]
  | squash => .object [("kind", .text "squash")]

/-- A Rift identity as JSON. -/
def RiftIdentity.toJson (rift : RiftIdentity) : JsonText :=
  .object [("rift_id", .text rift.riftId), ("source_rift_id", .text rift.sourceRiftId),
    ("relative_path", rift.relativePath.toJson)]

/-- A conflict as JSON. -/
def ConflictEntry.toJson (conflict : ConflictEntry) : JsonText :=
  .object [("path", conflict.path.toJson), ("base_blob", .option conflict.baseBlob),
    ("target_blob", .option conflict.targetBlob), ("source_blob", .option conflict.sourceBlob)]

/-- A prior outcome as JSON. -/
def PriorOutcome.toJson (outcome : PriorOutcome) : JsonText :=
  .object [("cycle_id", .text outcome.cycleId), ("kind", .text outcome.kind),
    ("evidence", .text outcome.evidence)]

/-- A piece of evidence as JSON. -/
def BoundedEvidence.toJson (entry : BoundedEvidence) : JsonText :=
  .object [("kind", .text entry.kind), ("text", .text entry.text)]

/-- An instruction as JSON. -/
def InstructionIdentity.toJson (instruction : InstructionIdentity) : JsonText :=
  .object [("path", instruction.path.toJson), ("sha256", .text instruction.sha256)]

/-- The protocol limits as JSON. -/
def ProtocolLimits.toJson (limits : ProtocolLimits) : JsonText :=
  .object [("max_result_bytes", .number limits.maxResultBytes.toNat),
    ("max_text_bytes", .number limits.maxTextBytes.toNat),
    ("max_paths", .number limits.maxPaths.toNat),
    ("max_evidence_entries", .number limits.maxEvidenceEntries.toNat)]

/-- The fields of an agent input as JSON. -/
def AgentInput.jsonFields (input : AgentInput) : List (String × JsonText) :=
  [("version", .number input.version.toNat), ("identity", input.identity.toJson),
    ("repository", input.repository.toJson), ("source", input.source.toJson),
    ("landing", input.landing.toJson), ("base_sha", .text input.baseSha),
    ("rift", input.rift.toJson), ("conflicts", .array (input.conflicts.map ConflictEntry.toJson)),
    ("prior_outcomes", .array (input.priorOutcomes.map PriorOutcome.toJson)),
    ("validation_evidence", .array (input.validationEvidence.map BoundedEvidence.toJson)),
    ("instructions", .array (input.instructions.map InstructionIdentity.toJson)),
    ("limits", input.limits.toJson)]

/-- `serde_json::to_vec` of an agent input. -/
def AgentInput.toVec (input : AgentInput) : List UInt8 :=
  bytesOf (.ofList (JsonText.object input.jsonFields).compact)

/-- `serde_json::to_vec_pretty` of an agent input. -/
def AgentInput.toVecPretty (input : AgentInput) : List UInt8 :=
  bytesOf (.ofList ((JsonText.object input.jsonFields).pretty 0))

end Iq
