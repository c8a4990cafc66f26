import Iq.Agent.Protocol
import Iq.Domain.EncodedPath
import Iq.Integrator.Rejection
import Iq.Library.Trim
import Iq.Library.Utf8
import Iq.Lifecycle.Identifiers
import Mathlib.Algebra.Order.BigOperators.Group.List
import Mathlib.Data.List.Count
import Mathlib.Data.List.Perm.Subperm

/-!
# The conflicts of a cycle

The conflicts that a cycle puts into the agent's input, from the unmerged paths of the index. Git
names one path a line and quotes a path with other bytes than printable ASCII, a quotation mark or a
backslash; the integrator trims the report, drops blank lines and asks for the stages of what it
reads. It reads a path back exactly when Git does not quote it and neither trimming nor the search
for blank lines takes anything of it.
-/

namespace Iq

open Library

/-! ## The index -/

/-- An unmerged path of an index with the blobs of its stages. -/
structure UnmergedEntry (format : GitObjectFormat) where
  path : List UInt8
  /-- The blob of stage 1. -/
  baseBlob : Option String
  /-- The blob of stage 2. -/
  targetBlob : Option String
  /-- The blob of stage 3. -/
  sourceBlob : Option String
  relative : IsRelativePath path
  full : ∀ blob ∈ [baseBlob, targetBlob, sourceBlob].filterMap id, format.isOid blob = true

/-- The unmerged paths of an index in the order of the report. -/
abbrev UnmergedIndex (format : GitObjectFormat) :=
  Table fun (entry : UnmergedEntry format) => entry.path

/-- The blob of a stage, by the digit of the stage. -/
def UnmergedEntry.stage {format : GitObjectFormat} (entry : UnmergedEntry format) :
    UInt8 → Option String
  | 49 => entry.baseBlob
  | 50 => entry.targetBlob
  | 51 => entry.sourceBlob
  | _ => none

/-! ## What Git prints -/

/-- `b'\n'`. -/
def lineFeed : UInt8 := 10

/-- The output of a command that succeeds with some bytes. -/
def printed (bytes : List UInt8) : CommandOutput := ⟨true, ⟨bytes.toArray⟩⟩

/-- The output of a command that fails. -/
def notFound : CommandOutput := ⟨false, ByteArray.empty⟩

namespace UnmergedIndex

variable {format : GitObjectFormat}

/-- `git rev-parse --verify` for a stage of a path, the only objects that are asked for here. -/
def revParse (index : UnmergedIndex format) (object : List UInt8) : CommandOutput :=
  match object with
  | 58 :: stage :: 58 :: path =>
    match (index.find? path).bind (·.stage stage) with
    | some blob => printed (bytesOf blob ++ [lineFeed])
    | none => notFound
  | _ => notFound

end UnmergedIndex

/-! ## What the integrator reads -/

section

variable {format : GitObjectFormat} (index : UnmergedIndex format)

end

/-! ## Quoting -/

section

variable {format : GitObjectFormat} (index : UnmergedIndex format)

variable {index}

end

/-! ## The condition -/

end Iq
