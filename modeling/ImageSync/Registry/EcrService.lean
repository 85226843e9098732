import ImageSync.Registry.Error

/-!
# `ImageSync.Registry.EcrService`: the service that managed registries are listed through

An account's repositories are listed page by page: a request may carry the token of the page
before it, an answer holds names and, unless it is the last page, the token of the next one.
`EcrService` is such a service as a listing sees it: the outcomes of the attempts to connect
and to probe still to come, the repositories it holds, and the calls made so far.

Main statements: a scripted page is used up by the call that it answers
(`describe_pages_cons`), a list that is paged by offset never changes (`describe_listed`), and
its tokens stand for the offsets they were made from (`offset_toString`).
-/

set_option autoImplicit false

namespace ImageSync

/-- A number is written in digits, and read back from them. -/
theorem digits_toString (n : Nat) :
    (toString n).toList.all Char.isDigit = true ∧
      Nat.ofDigitChars 10 (toString n).toList 0 = n := by
  have hchars : (toString n).toList = Nat.toDigits 10 n := Nat.toList_repr
  rw [hchars, List.all_eq_true]
  refine ⟨fun c hc => ?_, Nat.ofDigitChars_ten_toDigits⟩
  exact Nat.isDigit_of_mem_toDigits (by decide) (by decide) hc

/-- A request for one page of an account's repositories. -/
structure PageRequest where
  /-- The account whose repositories are listed. -/
  registryId : String
  /-- The most names the page may hold. -/
  maxResults : Nat
  /-- The token that the page before ended with. -/
  nextToken : Option String
  deriving DecidableEq, Repr

/-- One page of repository names. -/
structure Page where
  names : List String
  /-- The token of the next page, absent on the last one. -/
  nextToken : Option String
  deriving DecidableEq, Repr

/-- A call of the service. -/
inductive EcrCall where
  | connect (region : String)
  | describeRepositories (request : PageRequest)
  | describeRegistry
  deriving DecidableEq, Repr

/-- The repositories a service holds. -/
inductive Holdings where
  /-- The answers to the page requests to come, in order. -/
  | pages (answers : List (Except String Page))
  /-- Names that are paged by offset. -/
  | listed (names : List String)

namespace Holdings

/-- The name of a numbered repository: at least three digits. -/
def numberedName (n : Nat) : String :=
  let digits := toString n
  "repo-" ++ String.ofList (List.replicate (3 - digits.length) '0') ++ digits

/-- So many numbered repositories, paged by offset. -/
def counted (total : Nat) : Holdings := listed ((List.range total).map numberedName)

/-- The page of a list of names that starts at an offset. -/
def listedPage (names : List String) (size start : Nat) : Page :=
  let stop := min (start + size) names.length
  { names := (names.take stop).drop start
    -- Only a page with names behind it has a token, so the last one ends the listing.
    nextToken := if stop < names.length then some (toString stop) else none }

/-- The offset that a token stands for. No token is the start, and so is a foreign one. -/
def offset : Option String → Nat
  | none => 0
  | some t => if t.toList.all Char.isDigit then Nat.ofDigitChars 10 t.toList 0 else 0

/-- A token that is made from an offset stands for it. -/
theorem offset_toString (n : Nat) : offset (some (toString n)) = n := by
  obtain ⟨hdigits, hread⟩ := digits_toString n
  rw [offset, if_pos hdigits, hread]

/-- Answers a page request. -/
def describe (request : PageRequest) : Holdings → Except String Page × Holdings
  | pages [] => (.error "unscripted page", pages [])
  | pages (answer :: rest) => (answer, pages rest)
  | listed names =>
    (.ok (listedPage names request.maxResults (offset request.nextToken)), listed names)

/-- More pages than one listing can go through. -/
def pageLimit : Holdings → Nat
  | pages answers => answers.length + 1
  | listed names => names.length + 1

/-- Behind a script every call fails. -/
@[simp] theorem describe_pages_nil (request : PageRequest) :
    (pages []).describe request = (.error "unscripted page", pages []) := rfl

/-- A scripted page is used up by the call it answers. -/
@[simp] theorem describe_pages_cons (request : PageRequest) (answer : Except String Page)
    (rest : List (Except String Page)) :
    (pages (answer :: rest)).describe request = (answer, pages rest) := rfl

/-- A list that is paged by offset answers from the offset and stays as it is. -/
@[simp] theorem describe_listed (request : PageRequest) (names : List String) :
    (listed names).describe request =
      (.ok (listedPage names request.maxResults (offset request.nextToken)), listed names) := rfl

end Holdings

/-- The service as a listing sees it. In a script of outcomes, `none` stands for success and
a text for a failure with that text; after the end of a script all goes well. -/
structure EcrService where
  /-- The outcomes of the attempts to connect. -/
  connects : List (Option String)
  /-- The outcomes of the probes. -/
  probes : List (Option String)
  holdings : Holdings
  /-- The calls so far, the first one first. -/
  calls : List EcrCall

namespace EcrService

/-- The next outcome of a script, and the script after it. -/
def nextOutcome : List (Option String) → Except String Unit × List (Option String)
  | [] => (.ok (), [])
  | none :: rest => (.ok (), rest)
  | some reason :: rest => (.error reason, rest)

/-- Asks for a handle on the service of a region. -/
def connect (region : String) : StateM EcrService (Except String Unit) := fun s =>
  let (outcome, rest) := nextOutcome s.connects
  (outcome, { s with connects := rest, calls := s.calls ++ [.connect region] })

/-- Asks for a page of repositories. -/
def describeRepositories (request : PageRequest) :
    StateM EcrService (Except String Page) := fun s =>
  let (answer, rest) := s.holdings.describe request
  (answer, { s with holdings := rest, calls := s.calls ++ [.describeRepositories request] })

/-- Asks whether the registry is there. -/
def describeRegistry : StateM EcrService (Except String Unit) := fun s =>
  let (outcome, rest) := nextOutcome s.probes
  (outcome, { s with probes := rest, calls := s.calls ++ [.describeRegistry] })

end EcrService

end ImageSync
