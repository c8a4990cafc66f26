import Iq.Domain.Lines
import Iq.Domain.StateJson
import Iq.Integrator.Rejection
import Iq.Library.Split
import Iq.Projection.Outbox

/-!
# Projected issues

The texts that `IssueStateRepository::project` and `reserve_full_issue` render, how the issue of a
projection is found among the issues of a repository, and the edits that one call of
`sync_projection` makes. An issue is recognised by a marker that its body contains; a comment by the
first marker of its text; a label by its name.
-/

namespace Iq

open Library

/-! ## Projections -/

/-- `IssueProjection`. -/
structure IssueProjection where
  title : String
  labels : List String
  body : String
  comments : List String
  deriving DecidableEq, Repr

/-- The fields of a durable event that a comment shows. -/
structure IssueEvent where
  id : String
  eventType : String
  payload : JsonText

/-- The text of a value that `serde_json::to_string_pretty` writes. -/
def prettyText (value : JsonText) : String := .ofList (value.pretty 0)

/-- The value in the body of an issue. -/
def IntegrationEffort.issueState (effort : IntegrationEffort) : JsonText :=
  .object [
    ("attempt_id", .text effort.attemptId),
    ("effort_id", .text effort.id),
    ("failed_cycles", .number effort.failedCycles),
    ("item_id", .text effort.itemId),
    ("source_sha", .text effort.sourceSha),
    ("state", effort.state.toValue),
    ("target_sha", .text effort.targetSha)]

/-- The comment of an event. -/
def IssueEvent.comment (event : IssueEvent) : String :=
  "<!-- iq:event:" ++ event.id ++ " -->\n**" ++ event.eventType ++ "**\n```json\n" ++
    prettyText event.payload ++ "\n```"

/-- The body of an issue with a text of JSON. -/
def issueBody (itemId json : String) : String :=
  "<!-- iq:item:" ++ itemId ++ " -->\n```json\n" ++ json ++ "\n```"

/-- The projection of `IssueStateRepository::project`, of the relevant events. -/
def IntegrationEffort.issueProjection (effort : IntegrationEffort) (relevant : List IssueEvent) :
    IssueProjection where
  title := "IQ integration item " ++ effort.itemId
  labels := ["iq:queue", "iq:status:" ++ effort.state.name.text]
  body := issueBody effort.itemId (prettyText effort.issueState)
  comments := relevant.map IssueEvent.comment

/-- The projection of `reserve_full_issue`. -/
def reservedProjection (itemId : String) : IssueProjection where
  title := "IQ integration item " ++ itemId
  labels := ["iq:queue", "iq:status:ready"]
  body := issueBody itemId ("\x7b\"item_id\":\"" ++ itemId ++ "\",\"state\":\"enqueued\"\x7d")
  comments := ["<!-- iq:event:enqueued-" ++ itemId ++ " -->\n**enqueued**"]

/-- What a projection is rendered from. -/
inductive ProjectionSource where
  | effort (value : IntegrationEffort) (relevant : List IssueEvent)
  | reservation (itemId : String)

namespace ProjectionSource

/-- The item of a projection. -/
def itemId : ProjectionSource → String
  | .effort value _ => value.itemId
  | .reservation itemId => itemId

/-- The projection of a source. -/
def projection : ProjectionSource → IssueProjection
  | .effort value relevant => value.issueProjection relevant
  | .reservation itemId => reservedProjection itemId

end ProjectionSource

/-- A projection that IQ rendered; the identifier of its item is the text of a `Uuid`. -/
structure RenderedProjection where
  source : ProjectionSource
  plain : ∀ character ∈ source.itemId.toList, isIdCharacter character = true

/-! ## Markers -/

/-- `issue_marker`: the first marker of a text. -/
def issueMarker (body : String) : Option String := do
  let (_, tail) ← splitOnce "<!-- iq:".toList body.toList
  let (marker, _) ← splitOnce " -->".toList ("iq:".toList ++ tail)
  some (.ofList marker)

/-- The binding that a line marks. -/
def bindingMarker (line : List Char) : Option String := do
  let tail ← stripPrefix "<!-- iq:binding:".toList (trimCharacters line)
  let id ← stripSuffix " -->".toList tail
  some ("iq:binding:" ++ .ofList id)

/-- `projection_identity_marker`. -/
def projectionIdentityMarker (body : String) : Option String :=
  match (linesOf body).findSome? bindingMarker with
  | some marker => some marker
  | none => issueMarker body

/-! ## Issues -/

/-- An issue of a repository. -/
structure Issue where
  number : Nat
  body : String
  labels : List String
  comments : List String
  deriving DecidableEq, Repr

/-- `str::contains` for the body of an issue. -/
def Issue.mentions (issue : Issue) (marker : String) : Bool :=
  containsCharacters marker.toList issue.body.toList

/-- The issues of a repository, all of them rendered by IQ, and the search of the provider for a
text. A search finds all the issues that contain the text, in some order and possibly with others. -/
structure IssueTracker where
  issues : List Issue
  search : String → List Issue
  rendered : ∀ issue ∈ issues,
    ∃ origin : RenderedProjection, issue.body = origin.source.projection.body
  finds : ∀ marker,
    ((search marker).filter (·.mentions marker)).Perm (issues.filter (·.mentions marker))

/-- `ListedIssue`. -/
structure ListedIssue where
  number : Option Nat
  iid : Option Nat
  body : Option String
  deriving DecidableEq, Repr

/-- An issue as a provider lists it. -/
def Issue.listed : IssueProvider → Issue → ListedIssue
  | .github, issue => ⟨some issue.number, none, some issue.body⟩
  | .gitlab, issue => ⟨none, some issue.number, some issue.body⟩

/-- The name of a provider in an error. -/
def IssueProvider.name : IssueProvider → String
  | .github => "GitHub"
  | .gitlab => "GitLab"

/-- `find_exact_issue_candidates`. -/
def findExactIssueCandidates (candidates : List ListedIssue) (marker provider : String) :
    Except String (Option String) :=
  let containing := candidates.filter fun candidate =>
    candidate.body.any fun body => containsCharacters marker.toList body.toList
  match containing.filterMap fun candidate => (candidate.number.or candidate.iid).map toString with
  | [] => .ok none
  | [issue] => .ok (some issue)
  | _ => .error s!"multiple {provider} issues contain IQ marker {marker}"

/-- What `find_github_issue` and `find_gitlab_issue` do: a binding is looked for in the whole
inventory, another marker by a search. -/
def findIssue (provider : IssueProvider) (tracker : IssueTracker) (projection : IssueProjection) :
    Except String (Option String) :=
  match projectionIdentityMarker projection.body with
  | none => .error "issue projection is missing a stable IQ marker"
  | some marker =>
    let listed := if startsWith marker "iq:binding:" then tracker.issues else tracker.search marker
    findExactIssueCandidates (listed.map (Issue.listed provider)) marker provider.name

/-- `find_github_issue`. -/
def findGithubIssue (tracker : IssueTracker) (projection : IssueProjection) :
    Except String (Option String) := findIssue .github tracker projection

/-- `find_gitlab_issue`. -/
def findGitlabIssue (tracker : IssueTracker) (projection : IssueProjection) :
    Except String (Option String) := findIssue .gitlab tracker projection

/-! ## Edits -/

/-- `IssueLabel`. -/
inductive IssueLabel where
  | named (name : String)
  | text (name : String)
  deriving DecidableEq, Repr

/-- `IssueLabel::name`. -/
def IssueLabel.name : IssueLabel → Option String
  | .named name => some name
  | .text name => some name

/-- A label that IQ manages. -/
def isManaged (label : String) : Bool := startsWith label "iq:"

/-- `ManagedLabelUpdate`. -/
structure ManagedLabelUpdate where
  add : List String
  remove : List String
  deriving DecidableEq, Repr

/-- `HashSet::difference`, sorted. -/
def sortedDifference (labels others : List String) : List String :=
  ((labels.filter fun label => !others.contains label).dedup).mergeSort fun first second =>
    decide (first ≤ second)

/-- `ManagedLabelUpdate::new`. -/
def ManagedLabelUpdate.new (existing : List IssueLabel) (desired : List String) :
    ManagedLabelUpdate :=
  let existing := existing.filterMap IssueLabel.name
  { add := sortedDifference desired existing,
    remove := sortedDifference (existing.filter isManaged) desired }

/-- `comments_missing_from_issue`. -/
def commentsMissingFromIssue (projectionComments existingComments : List String) : List String :=
  let existingMarkers := existingComments.filterMap issueMarker
  projectionComments.filter fun comment =>
    ((issueMarker comment).map fun marker => !existingMarkers.contains marker).getD true

namespace Issue

/-- The labels of an issue as its view reports them. -/
def viewLabels (issue : Issue) : List IssueLabel := issue.labels.map .named

/-- The label update of a synchronization. -/
def labelUpdate (issue : Issue) (projection : IssueProjection) : ManagedLabelUpdate :=
  .new issue.viewLabels projection.labels

/-- The comments that a synchronization adds. -/
def addedComments (issue : Issue) (projection : IssueProjection) : List String :=
  commentsMissingFromIssue projection.comments issue.comments

/-- `sync_projection` for an issue that exists. -/
def synced (issue : Issue) (projection : IssueProjection) : Issue :=
  let update := issue.labelUpdate projection
  { issue with
    body := projection.body
    labels := issue.labels.filter (fun label => !update.remove.contains label) ++ update.add
    comments := issue.comments ++ issue.addedComments projection }

end Issue

end Iq
