import Iq.Domain.Text
import Iq.Library.Decimal
import Iq.Library.Split
import Mathlib.Data.List.Basic

/-!
# Merge-request URLs

`merge_request_locator`: the provider, host, repository and number that the URL of a pull or merge
request names. The host is compared in lower case and the number is kept as it is spelled, so a URL
has one locator for all its spellings only where the spelling of the number is canonical.
-/

namespace Iq

open Library

/-! ## The locator -/

/-- `Provider`. -/
inductive Provider where
  | github
  | gitlab
  deriving DecidableEq, Repr

/-- `MergeRequestLocator`. -/
structure MergeRequestLocator where
  provider : Provider
  host : String
  repository : String
  identity : String
  deriving DecidableEq, Repr

/-- One more than `u64::MAX`. -/
def wordBound : Nat := 2 ^ 64

/-- `number.parse::<u64>().is_ok_and(|number| number > 0)`. -/
def isPositiveNumber (number : List Char) : Bool := (Decimal.parse wordBound number).any (0 < ·)

/-- `github_pull`, with the repository and the number. -/
def githubPull (segments : List (List Char)) : Option (List Char × List Char) :=
  match segments with
  | [owner, repository, pull, number] =>
    if pull = "pull".toList ∧ owner.isEmpty = false ∧ repository.isEmpty = false ∧
        isPositiveNumber number = true then
      some (owner ++ '/' :: repository, number)
    else none
  | _ => none

/-- `gitlab_merge_request`, with the repository and the number. The segments are taken from the
end. -/
def gitlabMergeRequest (segments : List (List Char)) : Option (List Char × List Char) :=
  match segments.reverse with
  | number :: mergeRequests :: separator :: names =>
    if 5 ≤ segments.length ∧ separator = ['-'] ∧ mergeRequests = "merge_requests".toList ∧
        isPositiveNumber number = true ∧ names.any List.isEmpty = false then
      some (['/'].intercalate names.reverse, number)
    else none
  | _ => none

/-- Whether a character belongs to the path of a URL. -/
def inPath (character : Char) : Bool := character != '?' && character != '#'

/-- `merge_request_locator`. -/
def mergeRequestLocator (url : String) : Except String MergeRequestLocator :=
  match splitOnce "://".toList url.toList with
  | none => .error "PR/MR URL has no scheme"
  | some (scheme, location) =>
    if scheme ≠ "https".toList then
      .error ("unsupported PR/MR URL scheme: " ++ String.ofList scheme)
    else
      match splitOnce ['/'] location with
      | none => .error "PR/MR URL has no repository path"
      | some (authority, path) =>
        let segments := (path.takeWhile inPath).splitOn '/'
        let host := authority.map Char.toLower
        if host = [] ∨ ':' ∈ host ∨ '@' ∈ host then .error "PR/MR URL has an invalid host"
        else
          match githubPull segments, gitlabMergeRequest segments with
          | some (repository, number), _ =>
            .ok ⟨.github, .ofList host, .ofList repository, .ofList number⟩
          | none, some (repository, number) =>
            .ok ⟨.gitlab, .ofList host, .ofList repository, .ofList number⟩
          | none, none => .error ("unsupported PR/MR provider URL: " ++ url)

example : mergeRequestLocator "https://GitHub.com/o/r/pull/+7?x" =
    .ok ⟨.github, "github.com", "o/r", "+7"⟩ := by decide +kernel

/-! ## The grammar of the URLs -/

/-- The segments between the repository and the number. -/
def Provider.route : Provider → List (List Char)
  | .github => ["pull".toList]
  | .gitlab => [['-'], "merge_requests".toList]

/-- The URL of a merge request by its parts, as they are spelled. -/
structure MergeRequestUrl where
  provider : Provider
  host : List Char
  names : List (List Char)
  number : List Char
  query : List Char
  deriving DecidableEq, Repr

namespace MergeRequestUrl

/-- The segments of the path. -/
def segments (url : MergeRequestUrl) : List (List Char) :=
  url.names ++ (url.provider.route ++ [url.number])

/-- The text of the path. -/
def path (url : MergeRequestUrl) : List Char := ['/'].intercalate url.segments

/-- The text of the repository. -/
def repository (url : MergeRequestUrl) : List Char := ['/'].intercalate url.names

/-- The text of the URL. -/
def text (url : MergeRequestUrl) : List Char :=
  "https://".toList ++ (url.host ++ '/' :: (url.path ++ url.query))

/-- The locator of the URL. -/
def locator (url : MergeRequestUrl) : MergeRequestLocator :=
  ⟨url.provider, .ofList (url.host.map Char.toLower), .ofList url.repository, .ofList url.number⟩

/-- The parts that the parser accepts. -/
structure Valid (url : MergeRequestUrl) : Prop where
  some_host : url.host ≠ []
  host : ∀ character ∈ url.host, character ≠ '/' ∧ character ≠ ':' ∧ character ≠ '@'
  names : ∀ name ∈ url.names, name ≠ [] ∧ '/' ∉ name ∧ name.all inPath = true
  depth : 2 ≤ url.names.length
  owner : url.provider = .github → url.names.length = 2
  number : isPositiveNumber url.number = true
  query : url.query.head?.all (!inPath ·) = true

end MergeRequestUrl

/-! ## Characters -/

/-- A character that the grammar of URLs gives another meaning. -/
def isReserved (character : Char) : Bool :=
  ['?', '#', '@', ':'].contains character || isWhiteSpace character

/-- A character in lower case is itself, or the letter below an upper-case one. -/
theorem toLower_cases (character : Char) : character.toLower = character ∨
    (65 ≤ character.toNat ∧ character.toNat ≤ 90 ∧
      character.toLower.toNat = character.toNat + 32) := by
  unfold Char.toLower
  split
  · rename_i upper
    have low : 65 ≤ character.toNat := upper.1
    have high : character.toNat ≤ 90 := upper.2
    refine .inr ⟨low, high, ?_⟩
    show (character.val + 32).toNat = character.toNat + 32
    rw [UInt32.toNat_add]
    exact Nat.mod_eq_of_lt (by show character.toNat + 32 < 2 ^ 32; omega)
  · exact .inl rfl

/-- Lower case changes letters into letters. -/
theorem toLower_eq_iff {character other : Char}
    (plain : other.toNat < 65 ∨ 122 < other.toNat) :
    character.toLower = other ↔ character = other := by
  rcases toLower_cases character with same | ⟨low, high, lower⟩
  · rw [same]
  · refine iff_of_false (fun equal => ?_) (fun equal => ?_)
    · rw [equal] at lower
      omega
    · rw [equal] at low high
      omega

/-- No letter is reserved. -/
theorem isReserved_eq_false_of_letter {character : Char} (low : 65 ≤ character.toNat)
    (high : character.toNat ≤ 122) : isReserved character = false := by
  have apart : ∀ other : Char, other.toNat < 65 → character ≠ other := by
    rintro other below rfl
    omega
  have listed : character ∉ ['?', '#', '@', ':'] := by
    simp only [List.mem_cons, List.not_mem_nil, or_false, not_or]
    exact ⟨apart _ (by decide), apart _ (by decide), apart _ (by decide), apart _ (by decide)⟩
  simp only [isReserved, List.contains_eq_mem, listed, decide_false, Bool.false_or, isWhiteSpace,
    Bool.or_eq_false_iff, Bool.and_eq_false_iff, decide_eq_false_iff_not, beq_eq_false_iff_ne]
  omega

/-- A character is reserved in both cases or in none. -/
@[simp] theorem isReserved_toLower (character : Char) :
    isReserved character.toLower = isReserved character := by
  rcases toLower_cases character with same | ⟨low, high, lower⟩
  · rw [same]
  · rw [isReserved_eq_false_of_letter (by omega) (by omega),
      isReserved_eq_false_of_letter low (by omega)]

/-- What ends a path is reserved. -/
theorem isReserved_of_not_inPath {character : Char} (outside : inPath character = false) :
    isReserved character = true := by
  simp only [inPath, Bool.and_eq_false_iff, bne_eq_false_iff_eq] at outside
  rcases outside with rfl | rfl <;> decide

/-- A lower-case character stays as it is. -/
theorem toLower_idem (character : Char) : character.toLower.toLower = character.toLower := by
  rcases toLower_cases character with same | ⟨low, high, lower⟩
  · rw [same, same]
  · rcases toLower_cases character.toLower with same | ⟨low', high', -⟩
    · exact same
    · omega

/-! ## Canonical locators -/

/-- The URL of a merge request at its provider. -/
def MergeRequestLocator.url (locator : MergeRequestLocator) : String :=
  match locator.provider with
  | .github => s!"https://{locator.host}/{locator.repository}/pull/{locator.identity}"
  | .gitlab => s!"https://{locator.host}/{locator.repository}/-/merge_requests/{locator.identity}"

/-- A text that is not empty and holds no reserved character. -/
def isUnreserved (text : String) : Prop :=
  text ≠ "" ∧ ∀ character ∈ text.toList, isReserved character = false

/-- A locator with a canonical number, an unreserved host and repository, and a URL that is read as
the locator. -/
structure MergeRequestLocator.Canonical (locator : MergeRequestLocator) : Prop where
  identity : ∃ number, 0 < number ∧ locator.identity.toList = Decimal.digits number
  host : isUnreserved locator.host
  repository : isUnreserved locator.repository
  rebuilt : mergeRequestLocator locator.url = .ok locator

/-- A text is the URL of the merge request with a number of a repository on a host. -/
def NamesMergeRequest (text : String) (host repository : List Char) (number : Nat) : Prop :=
  ∃ url : MergeRequestUrl, url.Valid ∧ url.text = text.toList ∧
    url.host.map Char.toLower = host ∧ url.repository = repository ∧
    Decimal.parse wordBound url.number = some number

/-- Two texts name the same host, repository and number. -/
def SameMergeRequest (text other : String) : Prop :=
  ∃ host repository number, NamesMergeRequest text host repository number ∧
    NamesMergeRequest other host repository number

/-- What stands between `https://` and the next slash, and the segments from there to the query. -/
def urlParts (text : String) : List Char × List (List Char) :=
  match splitOnce ['/'] (text.toList.drop 8) with
  | some (authority, path) => (authority, (path.takeWhile inPath).splitOn '/')
  | none => ([], [])

/-- A URL without reserved characters in its authority and path whose last segment begins with
neither a sign nor a zero. -/
def isPlainUrl (text : String) : Bool :=
  let (authority, segments) := urlParts text
  !authority.any isReserved && !segments.any (·.any isReserved) &&
    !(segments.getLastD []).head?.any fun character => character == '+' || character == '0'

/-- The second segment from the end, which differs between the providers. -/
def urlRoute (text : String) : List Char := ((urlParts text).2.reverse.tail.headD [])

/-! ## Segments -/

variable {url other : MergeRequestUrl} {number : List Char}

/-- A positive numeral has a positive value. -/
theorem exists_of_isPositiveNumber (positive : isPositiveNumber number = true) :
    ∃ value, 0 < value ∧ Decimal.parse wordBound number = some value := by
  unfold isPositiveNumber at positive
  cases read : Decimal.parse wordBound number with
  | none =>
    rw [read] at positive
    cases positive
  | some value =>
    rw [read] at positive
    exact ⟨value, of_decide_eq_true positive, rfl⟩

/-- The characters of a number are digits and a sign, which have no other meaning in a URL. -/
theorem plain_of_isPositiveNumber (positive : isPositiveNumber number = true) {character : Char}
    (mem : character ∈ number) : character ≠ '/' ∧ isReserved character = false := by
  obtain ⟨value, -, read⟩ := exists_of_isPositiveNumber positive
  rcases Decimal.isDigit_of_parse read mem with digit | rfl
  · have range : 48 ≤ character.toNat ∧ character.toNat ≤ 57 := by
      simp only [Char.isDigit, Bool.and_eq_true, decide_eq_true_eq] at digit
      exact digit
    have named : character = Char.ofNat character.toNat := (Char.ofNat_toNat character).symm
    have all : ∀ code < 58, 48 ≤ code →
        Char.ofNat code ≠ '/' ∧ isReserved (Char.ofNat code) = false := by decide
    rw [named]
    exact all _ (by omega) range.1
  · decide

namespace MergeRequestUrl

/-- The same as one condition that can be evaluated. -/
theorem plain_of_check {segment : List Char}
    (checked : (!segment.isEmpty && !segment.contains '/' &&
      segment.all fun character => !isReserved character) = true) :
    segment ≠ [] ∧ '/' ∉ segment ∧ ∀ character ∈ segment, isReserved character = false := by
  simpa [and_assoc] using checked

/-- The segments of a route are plain. -/
theorem plain_route {provider : Provider} {segment : List Char} (mem : segment ∈ provider.route) :
    segment ≠ [] ∧ '/' ∉ segment ∧ ∀ character ∈ segment, isReserved character = false := by
  cases provider with
  | github =>
    rw [List.mem_singleton.mp mem]
    exact plain_of_check (by decide +kernel)
  | gitlab =>
    rcases List.mem_cons.mp mem with rfl | mem
    · exact plain_of_check (by decide)
    · rw [List.mem_singleton.mp mem]
      exact plain_of_check (by decide +kernel)

/-- What is not reserved belongs to the path. -/
theorem inPath_of_isReserved {character : Char} (plain : isReserved character = false) :
    inPath character = true := by
  by_contra outside
  rw [isReserved_of_not_inPath (by simpa using outside)] at plain
  cases plain

/-- The segments of an accepted path hold no separator and no character that ends the path. -/
theorem Valid.segment (valid : url.Valid) {segment : List Char} (mem : segment ∈ url.segments) :
    '/' ∉ segment ∧ ∀ character ∈ segment, inPath character = true := by
  rcases List.mem_append.mp mem with name | mem
  · have named := valid.names segment name
    exact ⟨named.2.1, List.all_eq_true.mp named.2.2⟩
  · rcases List.mem_append.mp mem with route | last
    · have plain := plain_route route
      exact ⟨plain.2.1, fun character inside => inPath_of_isReserved (plain.2.2 character inside)⟩
    · rw [List.mem_singleton.mp last]
      refine ⟨fun slash => ?_, fun character inside => ?_⟩
      · exact (plain_of_isPositiveNumber valid.number slash).1 rfl
      · exact inPath_of_isReserved (plain_of_isPositiveNumber valid.number inside).2

/-- A URL has segments. -/
theorem segments_ne_nil : url.segments ≠ [] := by simp [segments]

/-- The path of a valid URL splits into its segments. -/
theorem Valid.splitOn_path (valid : url.Valid) : url.path.splitOn '/' = url.segments :=
  List.splitOn_intercalate '/' (fun _ mem => (valid.segment mem).1) segments_ne_nil

/-- The characters of a valid path belong to it. -/
theorem Valid.inPath_path (valid : url.Valid) {character : Char} (mem : character ∈ url.path) :
    inPath character = true := by
  by_cases separator : character = '/'
  · rw [separator]
    rfl
  · obtain ⟨segment, inside, found⟩ := (mem_intercalate separator).mp mem
    exact (valid.segment inside).2 character found

/-- The path ends where the query begins. -/
theorem Valid.takeWhile_path (valid : url.Valid) :
    (url.path ++ url.query).takeWhile inPath = url.path := by
  rw [List.takeWhile_append_of_pos fun _ => valid.inPath_path]
  have ends : url.query.takeWhile inPath = [] := by
    have head := valid.query
    cases found : url.query with
    | nil => rfl
    | cons first rest =>
      rw [found] at head
      have outside : inPath first = false := by simpa using head
      rw [List.takeWhile_cons, outside]
      rfl
  rw [ends, List.append_nil]

/-- A valid URL splits into host and rest. -/
theorem Valid.splitOnce_text (valid : url.Valid) :
    splitOnce ['/'] (url.host ++ '/' :: (url.path ++ url.query)) =
      some (url.host, url.path ++ url.query) :=
  splitOnce_append fun slash => (valid.host _ slash).1 rfl

end MergeRequestUrl

/-! ## What the parser accepts -/

/-- Segments of the two forms: names that are not empty, the route of the provider and a number. -/
structure SplitsInto (provider : Provider) (segments names : List (List Char))
    (number : List Char) : Prop where
  segments : segments = names ++ (provider.route ++ [number])
  some_name : ∀ name ∈ names, name ≠ []
  number : isPositiveNumber number = true
  depth : 2 ≤ names.length
  owner : provider = .github → names.length = 2

/-- What is taken for a pull request splits that way. -/
theorem githubPull_eq_some {segments : List (List Char)} {repository : List Char} :
    githubPull segments = some (repository, number) ↔
      ∃ names, SplitsInto .github segments names number ∧ repository = ['/'].intercalate names := by
  constructor
  · intro found
    unfold githubPull at found
    split at found
    · split at found
      · rename_i owner name pull last holds
        cases found
        refine ⟨[owner, name], ⟨?_, ?_, holds.2.2.2, Nat.le_refl 2, fun _ => rfl⟩, ?_⟩
        · rw [holds.1]
          rfl
        · have owner_some : owner ≠ [] := by simpa using holds.2.1
          have name_some : name ≠ [] := by simpa using holds.2.2.1
          simp [owner_some, name_some]
        · simp [List.intercalate]
      · cases found
    · cases found
  · rintro ⟨names, split, rfl⟩
    obtain ⟨owner, name, rfl⟩ := List.length_eq_two.mp (split.owner rfl)
    have owner_some : owner ≠ [] := split.some_name owner (by simp)
    have name_some : name ≠ [] := split.some_name name (by simp)
    rw [split.segments]
    show (if _ then some (owner ++ '/' :: name, number) else none) = _
    rw [if_pos ⟨rfl, by simpa using owner_some, by simpa using name_some, split.number⟩]
    simp [List.intercalate]

/-- What is taken for a merge request splits that way. -/
theorem gitlabMergeRequest_eq_some {segments : List (List Char)} {repository : List Char} :
    gitlabMergeRequest segments = some (repository, number) ↔
      ∃ names, SplitsInto .gitlab segments names number ∧ repository = ['/'].intercalate names := by
  constructor
  · intro found
    unfold gitlabMergeRequest at found
    split at found
    · split at found
      · rename_i last mergeRequests separator names order holds
        cases found
        have whole : segments = names.reverse ++ [separator, mergeRequests, number] := by
          rw [← List.reverse_reverse segments, order]
          simp
        refine ⟨names.reverse, ⟨?_, ?_, holds.2.2.2.1, ?_, nofun⟩, rfl⟩
        · rw [whole, holds.2.1, holds.2.2.1]
          rfl
        · intro name mem empty
          have none_empty := List.any_eq_false.mp holds.2.2.2.2 name (List.mem_reverse.mp mem)
          rw [empty] at none_empty
          exact none_empty rfl
        · have length := congrArg List.length whole
          simp only [List.length_append, List.length_cons, List.length_nil] at length
          have least := holds.1
          omega
      · cases found
    · cases found
  · rintro ⟨names, split, rfl⟩
    have order : segments.reverse =
        number :: "merge_requests".toList :: ['-'] :: names.reverse := by
      rw [split.segments]
      simp [Provider.route]
    have least : 5 ≤ segments.length := by
      have depth := split.depth
      rw [split.segments]
      simp only [Provider.route, List.length_append, List.length_cons, List.length_nil]
      omega
    have some_names : names.reverse.any List.isEmpty = false := by
      refine List.any_eq_false.mpr fun name mem empty => ?_
      exact split.some_name name (List.mem_reverse.mp mem) (List.isEmpty_iff.mp empty)
    unfold gitlabMergeRequest
    rw [order]
    show (if _ then some (['/'].intercalate names.reverse.reverse, number) else none) = _
    rw [if_pos ⟨least, rfl, rfl, split.number, some_names⟩, List.reverse_reverse]

/-- The two forms differ in the number of their segments. -/
theorem SplitsInto.provider_unique {first second : Provider} {segments names others : List (List Char)}
    {last : List Char} (split : SplitsInto first segments names number)
    (split_other : SplitsInto second segments others last) : first = second := by
  have lengths := congrArg List.length (split.segments.symm.trans split_other.segments)
  have depth := split.depth
  have depth_other := split_other.depth
  cases first <;> cases second
  case github.gitlab =>
    have two := split.owner rfl
    simp only [Provider.route, List.length_append, List.length_cons, List.length_nil] at lengths
    omega
  case gitlab.github =>
    have two := split_other.owner rfl
    simp only [Provider.route, List.length_append, List.length_cons, List.length_nil] at lengths
    omega
  all_goals rfl

/-- Segments split in one way. -/
theorem SplitsInto.unique {first second : Provider} {segments names others : List (List Char)}
    {last : List Char} (split : SplitsInto first segments names number)
    (split_other : SplitsInto second segments others last) :
    first = second ∧ names = others ∧ number = last := by
  obtain rfl := split.provider_unique split_other
  have same := split.segments.symm.trans split_other.segments
  rw [← List.append_assoc, ← List.append_assoc] at same
  obtain ⟨front, back⟩ := List.append_inj' same rfl
  exact ⟨rfl, List.append_cancel_right front, List.singleton_inj.mp back⟩

namespace MergeRequestUrl

/-- The segments of a valid URL split into its parts. -/
theorem Valid.splitsInto (valid : url.Valid) :
    SplitsInto url.provider url.segments url.names url.number :=
  ⟨rfl, fun name mem => (valid.names name mem).1, valid.number, valid.depth, valid.owner⟩

/-- A URL of the grammar is read as its locator. -/
theorem Valid.read (valid : url.Valid) :
    mergeRequestLocator (.ofList url.text) = .ok url.locator := by
  have scheme : splitOnce "://".toList url.text =
      some ("https".toList, url.host ++ '/' :: (url.path ++ url.query)) := rfl
  have some_host : ¬(url.host.map Char.toLower = [] ∨ ':' ∈ url.host.map Char.toLower ∨
      '@' ∈ url.host.map Char.toLower) := by
    simp only [List.map_eq_nil_iff, List.mem_map, not_or, not_exists, not_and]
    refine ⟨valid.some_host, fun character mem lower => ?_, fun character mem lower => ?_⟩
    · exact (valid.host character mem).2.1 ((toLower_eq_iff (by decide)).mp lower)
    · exact (valid.host character mem).2.2 ((toLower_eq_iff (by decide)).mp lower)
  simp only [mergeRequestLocator, String.toList_ofList, scheme, valid.splitOnce_text,
    valid.takeWhile_path, valid.splitOn_path, if_neg some_host]
  have splits := valid.splitsInto
  rw [if_neg (by simp)]
  cases provided : url.provider with
  | github =>
    rw [provided] at splits
    rw [githubPull_eq_some.mpr ⟨url.names, splits, rfl⟩]
    simp [locator, provided, repository]
  | gitlab =>
    rw [provided] at splits
    have other : githubPull url.segments = none := by
      cases found : githubPull url.segments with
      | none => rfl
      | some pull =>
        obtain ⟨names, split, -⟩ := githubPull_eq_some.mp found
        cases split.provider_unique splits
    rw [other, gitlabMergeRequest_eq_some.mpr ⟨url.names, splits, rfl⟩]
    simp [locator, provided, repository]

/-- Segments of one of the two forms, taken from the path of an accepted host, are those of a URL
of the grammar. -/
theorem valid_of_splitsInto {provider : Provider} {authority path number : List Char}
    {names : List (List Char)}
    (split : SplitsInto provider ((path.takeWhile inPath).splitOn '/') names number)
    (slash : '/' ∉ authority) (some_host : authority ≠ []) (colon : ':' ∉ authority)
    (sign : '@' ∉ authority) :
    (MergeRequestUrl.mk provider authority names number (path.dropWhile inPath)).Valid ∧
      (MergeRequestUrl.mk provider authority names number (path.dropWhile inPath)).text =
        "https://".toList ++ (authority ++ '/' :: path) := by
  have joined := splitOn_eq_iff.mp split.segments
  have inside : ∀ segment ∈ names ++ (provider.route ++ [number]), ∀ character ∈ segment,
      inPath character = true := by
    intro segment mem character found
    have other : character ≠ '/' := by
      rintro rfl
      exact joined.2.2 segment mem found
    have within : character ∈ path.takeWhile inPath := by
      rw [mem_iff_mem_splitOn other, split.segments]
      exact ⟨segment, mem, found⟩
    exact List.all_eq_true.mp List.all_takeWhile character within
  refine ⟨⟨some_host, ?_, ?_, split.depth, split.owner, split.number, ?_⟩, ?_⟩
  · intro character mem
    exact ⟨fun same => slash (same ▸ mem), fun same => colon (same ▸ mem),
      fun same => sign (same ▸ mem)⟩
  · intro name mem
    have listed := List.mem_append_left (provider.route ++ [number]) mem
    exact ⟨split.some_name name mem, joined.2.2 name listed,
      List.all_eq_true.mpr (inside name listed)⟩
  · have head := List.head?_dropWhile_not inPath path
    cases found : (path.dropWhile inPath).head? with
    | none => rfl
    | some first =>
      rw [found] at head
      simpa using head
  · have whole : ['/'].intercalate (names ++ (provider.route ++ [number])) ++
        path.dropWhile inPath = path := by
      rw [← joined.2.1]
      exact List.takeWhile_append_dropWhile
    exact congrArg (fun rest => "https://".toList ++ (authority ++ '/' :: rest)) whole

end MergeRequestUrl

/-- The URLs that are read are those of the grammar. -/
theorem mergeRequestLocator_eq_ok {text : String} {locator : MergeRequestLocator} :
    mergeRequestLocator text = .ok locator ↔
      ∃ url : MergeRequestUrl, url.Valid ∧ url.text = text.toList ∧ url.locator = locator := by
  constructor
  · intro read
    unfold mergeRequestLocator at read
    split at read
    · cases read
    · rename_i scheme location schemed
      split at read
      · cases read
      · rename_i https
        split at read
        · cases read
        · rename_i authority path hosted
          have https : scheme = "https".toList := of_not_not https
          have slash := not_mem_of_splitOnce hosted
          have text_eq : text.toList = "https://".toList ++ (authority ++ '/' :: path) := by
            rw [eq_of_splitOnce schemed, https, eq_of_splitOnce hosted]
            simp
          simp only at read
          split at read
          · cases read
          · rename_i host
            simp only [List.map_eq_nil_iff, List.mem_map, not_or, not_exists, not_and] at host
            obtain ⟨some_host, colon, sign⟩ := host
            have colon : ':' ∉ authority := fun mem => colon ':' mem rfl
            have sign : '@' ∉ authority := fun mem => sign '@' mem rfl
            split at read
            · rename_i repository number _ pull
              obtain ⟨names, split, rfl⟩ := githubPull_eq_some.mp pull
              obtain ⟨valid, whole⟩ := MergeRequestUrl.valid_of_splitsInto split slash some_host
                colon sign
              exact ⟨_, valid, by rw [whole, text_eq], by cases read; rfl⟩
            · rename_i repository number _ request
              obtain ⟨names, split, rfl⟩ := gitlabMergeRequest_eq_some.mp request
              obtain ⟨valid, whole⟩ := MergeRequestUrl.valid_of_splitsInto split slash some_host
                colon sign
              exact ⟨_, valid, by rw [whole, text_eq], by cases read; rfl⟩
            · cases read
  · rintro ⟨url, valid, same, rfl⟩
    rw [← String.ofList_toList (s := text), ← same]
    exact valid.read

namespace MergeRequestUrl

/-- A valid URL has one text, and a text one valid URL. -/
theorem text_eq_iff (valid : url.Valid) (valid_other : other.Valid) :
    url.text = other.text ↔ url = other := by
  constructor
  · intro same
    have rests : url.host ++ '/' :: (url.path ++ url.query) =
        other.host ++ '/' :: (other.path ++ other.query) := List.append_cancel_left same
    have split := valid.splitOnce_text
    rw [rests, valid_other.splitOnce_text, Option.some.injEq, Prod.mk.injEq] at split
    obtain ⟨host, tail⟩ := split
    have path : url.path = other.path := by
      rw [← valid.takeWhile_path, ← tail, valid_other.takeWhile_path]
    have query : url.query = other.query := by
      rw [path] at tail
      exact (List.append_cancel_left tail).symm
    have splits := valid_other.splitsInto
    rw [← valid_other.splitOn_path, ← path, valid.splitOn_path] at splits
    obtain ⟨provider, names, number⟩ := valid.splitsInto.unique splits
    cases url
    cases other
    simp only [MergeRequestUrl.mk.injEq]
    exact ⟨provider, host.symm, names, number, query⟩
  · rintro rfl
    rfl

end MergeRequestUrl

section Canonical

variable {text text' : String} {locator locator' : MergeRequestLocator}

/-- The host and the segments of a valid URL are read from its text. -/
theorem urlParts_text (valid : url.Valid) (same : url.text = text.toList) :
    urlParts text = (url.host, url.segments) := by
  have rest : text.toList.drop 8 = url.host ++ '/' :: (url.path ++ url.query) := by
    rw [← same]
    rfl
  rw [urlParts, rest, valid.splitOnce_text]
  show (url.host, ((url.path ++ url.query).takeWhile inPath).splitOn '/') = _
  rw [valid.takeWhile_path, valid.splitOn_path]

/-- The route of a valid URL is read from its text. -/
theorem urlRoute_text (valid : url.Valid) (same : url.text = text.toList) :
    urlRoute text = match url.provider with
      | .github => "pull".toList
      | .gitlab => "merge_requests".toList := by
  rw [urlRoute, urlParts_text valid same, MergeRequestUrl.segments]
  cases url.provider <;> simp [Provider.route]

/-- The characters of a rebuilt URL. -/
theorem toList_url (locator : MergeRequestLocator) :
    locator.url.toList = "https://".toList ++ (locator.host.toList ++ '/' ::
      (locator.repository.toList ++ '/' ::
        ['/'].intercalate (locator.provider.route ++ [locator.identity.toList]))) := by
  obtain ⟨provider, host, repository, identity⟩ := locator
  cases provider with
  | github =>
    show ("https://" ++ host ++ "/" ++ repository ++ "/pull/" ++ identity).toList = _
    simp [Provider.route, List.intercalate]
  | gitlab =>
    show ("https://" ++ host ++ "/" ++ repository ++ "/-/merge_requests/" ++ identity).toList = _
    simp [Provider.route, List.intercalate]

/-- The locator of a URL is rebuilt from its own URL. -/
theorem mergeRequestLocator_url (valid : url.Valid) :
    mergeRequestLocator url.locator.url = .ok url.locator := by
  rw [mergeRequestLocator_eq_ok]
  refine ⟨⟨url.provider, url.host.map Char.toLower, url.names, url.number, []⟩,
    ⟨?_, ?_, valid.names, valid.depth, valid.owner, valid.number, rfl⟩, ?_, ?_⟩
  · simp [valid.some_host]
  · simp only [List.mem_map, forall_exists_index, and_imp, forall_apply_eq_imp_iff₂]
    intro character mem
    have apart := valid.host character mem
    exact ⟨mt (toLower_eq_iff (by decide)).mp apart.1,
      mt (toLower_eq_iff (by decide)).mp apart.2.1,
      mt (toLower_eq_iff (by decide)).mp apart.2.2⟩
  · have some_names : url.names ≠ [] := by
      intro none
      have depth := valid.depth
      rw [none] at depth
      cases depth
    have path : url.path = url.repository ++
        '/' :: ['/'].intercalate (url.provider.route ++ [url.number]) :=
      intercalate_append some_names (by simp)
    show "https://".toList ++ (url.host.map Char.toLower ++ '/' :: (url.path ++ [])) = _
    rw [toList_url, path]
    simp only [MergeRequestUrl.locator, String.toList_ofList, List.append_nil]
  · have lower : Char.toLower ∘ Char.toLower = Char.toLower := funext toLower_idem
    simp [MergeRequestUrl.locator, MergeRequestUrl.repository, lower]

/-- A valid URL is plain when its host, its segments and its number are. -/
theorem isPlainUrl_text (valid : url.Valid) (same : url.text = text.toList) :
    isPlainUrl text = true ↔ (∀ character ∈ url.host, isReserved character = false) ∧
      (∀ segment ∈ url.segments, ∀ character ∈ segment, isReserved character = false) ∧
        url.number.head? ≠ some '+' ∧ url.number.head? ≠ some '0' := by
  have last : url.segments.getLastD [] = url.number := by
    simp [MergeRequestUrl.segments]
  rw [isPlainUrl, urlParts_text valid same]
  simp only [last, Bool.and_eq_true, Bool.not_eq_true', List.any_eq_false, Bool.not_eq_true,
    and_assoc]
  refine and_congr_right fun _ => and_congr_right fun _ => ?_
  cases url.number.head? with
  | none => simp
  | some first => simp

/-- A text is unreserved when none of its characters is reserved. -/
theorem isUnreserved_ofList {characters : List Char} :
    isUnreserved (.ofList characters) ↔
      characters ≠ [] ∧ ∀ character ∈ characters, isReserved character = false := by
  rw [isUnreserved, ← String.toList_inj.ne]
  simp

/-- The repository and the segments of a path hold the same reserved characters. -/
theorem repository_plain_iff (valid : url.Valid) :
    (∀ character ∈ url.repository, isReserved character = false) ↔
      ∀ segment ∈ url.segments, ∀ character ∈ segment, isReserved character = false := by
  constructor
  · intro plain segment mem character inside
    rcases List.mem_append.mp mem with name | mem
    · have other : character ≠ '/' := fun same => (valid.names segment name).2.1 (same ▸ inside)
      exact plain character ((mem_intercalate other).mpr ⟨segment, name, inside⟩)
    · rcases List.mem_append.mp mem with route | last
      · exact (MergeRequestUrl.plain_route route).2.2 character inside
      · rw [List.mem_singleton.mp last] at inside
        exact (plain_of_isPositiveNumber valid.number inside).2
  · intro plain character mem
    by_cases separator : character = '/'
    · rw [separator]
      decide
    · obtain ⟨segment, listed, inside⟩ := (mem_intercalate separator).mp mem
      exact plain segment (List.mem_append_left _ listed) character inside

/-- A valid URL names a repository. -/
theorem repository_ne_nil (valid : url.Valid) : url.repository ≠ [] := by
  intro empty
  have depth := valid.depth
  cases named : url.names with
  | nil =>
    rw [named] at depth
    cases depth
  | cons first rest =>
    have listed : first ∈ url.names := by simp [named]
    obtain ⟨character, tail, spelled⟩ :=
      List.exists_cons_of_ne_nil (valid.names first listed).1
    have inside : character ∈ first := by rw [spelled]; exact List.mem_cons_self
    have other : character ≠ '/' := fun same => (valid.names first listed).2.1 (same ▸ inside)
    have mem : character ∈ url.repository := (mem_intercalate other).mpr ⟨first, listed, inside⟩
    rw [empty] at mem
    cases mem

/-- The locator of a URL is canonical exactly when the URL is plain. -/
theorem canonical_iff_isPlainUrl (valid : url.Valid) (same : url.text = text.toList) :
    url.locator.Canonical ↔ isPlainUrl text = true := by
  obtain ⟨value, positive, read⟩ := exists_of_isPositiveNumber valid.number
  rw [isPlainUrl_text valid same]
  constructor
  · intro canonical
    obtain ⟨number, above, spelled⟩ := canonical.identity
    have host := (isUnreserved_ofList.mp canonical.host).2
    have repository := (isUnreserved_ofList.mp canonical.repository).2
    have numeral : url.number = Decimal.digits number := by
      simpa [MergeRequestUrl.locator] using spelled
    have head := Decimal.head_digits above
    rw [← numeral] at head
    refine ⟨fun character mem => ?_, (repository_plain_iff valid).mp repository, head.2, head.1⟩
    rw [← isReserved_toLower]
    exact host _ (List.mem_map_of_mem mem)
  · rintro ⟨host, segments, bare, unpadded⟩
    have lower : ∀ character ∈ url.host.map Char.toLower, isReserved character = false := by
      intro character mem
      obtain ⟨spelled, listed, rfl⟩ := List.mem_map.mp mem
      rw [isReserved_toLower]
      exact host spelled listed
    refine ⟨⟨value, positive, ?_⟩, isUnreserved_ofList.mpr ⟨?_, lower⟩, isUnreserved_ofList.mpr
      ⟨repository_ne_nil valid, (repository_plain_iff valid).mpr segments⟩,
      mergeRequestLocator_url valid⟩
    · rw [(Decimal.digits_eq_iff read positive).mpr ⟨bare, unpadded⟩]
      simp [MergeRequestUrl.locator]
    · simp [valid.some_host]

/-- Plain URLs of the same host, repository and number whose forms agree have one locator. -/
theorem locator_eq_of_same (valid : url.Valid) (same : url.text = text.toList)
    (valid_other : other.Valid) (same_other : other.text = text'.toList)
    (plain : isPlainUrl text = true) (plain_other : isPlainUrl text' = true)
    (named : SameMergeRequest text text') (route : urlRoute text = urlRoute text') :
    url.locator = other.locator := by
  obtain ⟨host, repository, number, ⟨first, first_valid, first_text, first_host, first_repository,
    first_number⟩, second, second_valid, second_text, second_host, second_repository,
    second_number⟩ := named
  obtain rfl := (MergeRequestUrl.text_eq_iff valid first_valid).mp (same.trans first_text.symm)
  obtain rfl := (MergeRequestUrl.text_eq_iff valid_other second_valid).mp
    (same_other.trans second_text.symm)
  obtain ⟨value, positive, read⟩ := exists_of_isPositiveNumber valid.number
  obtain rfl : value = number := Option.some.inj (read.symm.trans first_number)
  have canonical := ((isPlainUrl_text valid same).mp plain).2.2
  have canonical_other := ((isPlainUrl_text valid_other same_other).mp plain_other).2.2
  have numeral : url.number = other.number :=
    Decimal.eq_of_parse first_number second_number positive canonical canonical_other
  have provider : url.provider = other.provider := by
    rw [urlRoute_text valid same, urlRoute_text valid_other same_other] at route
    cases found : url.provider <;> cases found_other : other.provider <;>
      simp [found, found_other] at route ⊢
  simp only [MergeRequestUrl.locator, provider, numeral, first_host, second_host,
    first_repository, second_repository]

/-- Valid URLs with one locator have one route. -/
theorem route_eq_of_locator (valid : url.Valid) (same : url.text = text.toList)
    (valid_other : other.Valid) (same_other : other.text = text'.toList)
    (equal : url.locator = other.locator) : urlRoute text = urlRoute text' := by
  have provider : url.provider = other.provider := congrArg MergeRequestLocator.provider equal
  rw [urlRoute_text valid same, urlRoute_text valid_other same_other, provider]

/-- Two accepted URLs have canonical locators, and one locator if they name the same merge request,
exactly when both are plain and URLs of the same host, repository and number have the same form. -/
theorem mergeRequestUrls_canonical_iff (accepted : mergeRequestLocator text = .ok locator)
    (accepted' : mergeRequestLocator text' = .ok locator') :
    (locator.Canonical ∧ locator'.Canonical ∧
        (SameMergeRequest text text' → locator = locator')) ↔
      (isPlainUrl text = true ∧ isPlainUrl text' = true ∧
        (SameMergeRequest text text' → urlRoute text = urlRoute text')) := by
  obtain ⟨url, valid, same, rfl⟩ := mergeRequestLocator_eq_ok.mp accepted
  obtain ⟨other, valid', same', rfl⟩ := mergeRequestLocator_eq_ok.mp accepted'
  rw [canonical_iff_isPlainUrl valid same, canonical_iff_isPlainUrl valid' same']
  refine and_congr_right fun plain => and_congr_right fun plain' => ⟨fun one named => ?_,
    fun route named => ?_⟩
  · exact route_eq_of_locator valid same valid' same' (one named)
  · exact locator_eq_of_same valid same valid' same' plain plain' named (route named)

/-- Two spellings of one URL have one canonical locator. -/
theorem mergeRequestUrls_canonical_spellings :
    (MergeRequestLocator.mk .github "github.com" "o/r" "7").Canonical ∧
      (MergeRequestLocator.mk .github "github.com" "o/r" "7").Canonical ∧
        (SameMergeRequest "https://GitHub.com/o/r/pull/7?tab=files" "https://github.com/o/r/pull/7" →
          MergeRequestLocator.mk .github "github.com" "o/r" "7" =
            MergeRequestLocator.mk .github "github.com" "o/r" "7") :=
  (@mergeRequestUrls_canonical_iff "https://GitHub.com/o/r/pull/7?tab=files"
    "https://github.com/o/r/pull/7" _ _ (by decide +kernel) (by decide +kernel)).mpr
      ⟨by decide +kernel, by decide +kernel, fun _ => by decide +kernel⟩

/-- A number with a sign is accepted as it is spelled, so one merge request has two locators. -/
theorem mergeRequestUrls_signed :
    mergeRequestLocator "https://github.com/o/r/pull/+7" =
        .ok ⟨.github, "github.com", "o/r", "+7"⟩ ∧
      mergeRequestLocator "https://github.com/o/r/pull/7" =
          .ok ⟨.github, "github.com", "o/r", "7"⟩ ∧
        SameMergeRequest "https://github.com/o/r/pull/+7" "https://github.com/o/r/pull/7" ∧
          ¬(MergeRequestLocator.mk .github "github.com" "o/r" "+7").Canonical := by
  have valid : ∀ number : List Char, isPositiveNumber number = true →
      (MergeRequestUrl.mk .github "github.com".toList [['o'], ['r']] number []).Valid := by
    intro number positive
    refine ⟨?_, ?_, ?_, Nat.le_refl 2, fun _ => rfl, positive, rfl⟩
    · show "github.com".toList ≠ []
      decide
    · show ∀ character ∈ "github.com".toList, character ≠ '/' ∧ character ≠ ':' ∧ character ≠ '@'
      simp
    · show ∀ name ∈ [['o'], ['r']], name ≠ [] ∧ '/' ∉ name ∧ name.all inPath = true
      decide
  have signed := valid "+7".toList (by decide)
  have plain := valid "7".toList (by decide)
  refine ⟨by decide +kernel, by decide +kernel, ⟨"github.com".toList, "o/r".toList, 7, ?_, ?_⟩, ?_⟩
  · exact ⟨_, signed, by decide +kernel, by decide +kernel, by decide +kernel, by decide +kernel⟩
  · exact ⟨_, plain, by decide +kernel, by decide +kernel, by decide +kernel, by decide +kernel⟩
  · rintro ⟨⟨number, positive, spelled⟩, -, -, -⟩
    have head := (Decimal.head_digits positive).2
    rw [← spelled] at head
    exact head (by decide +kernel)

end Canonical

end Iq
