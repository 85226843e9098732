import ImageSync.Url.Basic

/-!
# `ImageSync.Url.Resolve`: reading references and resolving them

A reference is a text that leads to a URL, by itself or seen from a base URL. `Reference.read`
cuts it into its scheme, its body, its query and its fragment; `Reference.resolve?` finds the
URL. `Url.parse?` reads a text by itself, `Url.join?` one seen from a base.

Characters that no URL holds are dropped first: control characters and blanks at both ends,
tabs and line ends everywhere.

Main statements: a URL with a host has a path of segments (`hasSegments_of_parse?`), and seen from
such a URL a plain path leads somewhere (`join?_isSome_of_hasSegments`).
-/

set_option autoImplicit false

namespace ImageSync.Url

open Text

/-- A reference, cut into its parts and not decoded. -/
structure Reference where
  /-- The scheme in lower case. -/
  scheme : Option (List Char)
  /-- What stands before the query and the fragment. -/
  body : List Char
  query : Option (List Char)
  fragment : Option (List Char)
  deriving DecidableEq, Repr

/-- Whether a character is dropped from the ends of a reference. -/
def isEdge (c : Char) : Bool := c.toNat ≤ 0x20

/-- Whether a character is dropped from anywhere in a reference. -/
def isBreak (c : Char) : Bool := c == '\t' || c == '\n' || c == '\r'

/-- A reference without the characters that no URL holds. -/
def cleaned (cs : List Char) : List Char :=
  -- The ends come first: a tab among the blanks at an end goes with them.
  let front := cs.dropWhile isEdge
  ((front.reverse.dropWhile isEdge).reverse).filter fun c => !isBreak c

/-- The text before a mark, and the text after it if the mark is there. -/
def cutMark (mark : Char) (cs : List Char) : List Char × Option (List Char) :=
  match cutFirst? mark cs with
  | some (before, after) => (before, some after)
  | none => (cs, none)

/-- Cuts a reference into its parts. -/
def Reference.read (text : List Char) : Reference :=
  let cs := cleaned text
  let (scheme, rest) := match cutScheme? cs with
    | some (scheme, rest) => (some scheme, rest)
    | none => (none, cs)
  -- A question mark in the fragment does not start a query, so the fragment goes first.
  let (rest, fragment) := cutMark '#' rest
  let (body, query) := cutMark '?' rest
  ⟨scheme, body, query, fragment⟩

/-- The form of a query in a scheme of a kind. -/
def encodeQuery (kind : SchemeKind) (cs : List Char) : List Char :=
  percentEncode (if kind = .other then querySet else webQuerySet) cs

namespace Reference

/-- The URL with given parts in front and the query and fragment of the reference. -/
def complete (r : Reference) (scheme : List Char) (authority : Option Authority)
    (path : Path) : Url :=
  ⟨scheme, authority, path, r.query.map (encodeQuery (schemeKind scheme)),
    r.fragment.map (percentEncode fragmentSet)⟩

/-- What a reference says about the user: the user and the password, and the text after
them. With an `@` and nothing before it something has to follow. -/
def cutUser? (r : Reference) (kind : SchemeKind) (cs : List Char) :
    Option (List Char × List Char × List Char) :=
  let region := cs.takeWhile fun c => !isSeparator kind c
  let after := cs.drop region.length
  -- The last sign ends the user; those before it belong to the name or the password.
  match cutFirst? '@' region.reverse with
  | none => some ([], [], cs)
  | some (host, user) =>
    let rest := host.reverse ++ after
    let ends := match rest with
      | c :: _ => isSeparator kind c
      | [] => r.query.isSome || r.fragment.isSome
    if user.isEmpty && ends then none
    else
      let (name, password) := cutMark ':' user.reverse
      some (percentEncode userInfoSet name, percentEncode userInfoSet (password.getD []), rest)

/-- The text of a host, up to a colon outside of brackets or the path, and what follows. -/
def cutHost (kind : SchemeKind) : Bool → List Char → List Char × List Char
  | _, [] => ([], [])
  | bracketed, c :: r =>
    if (c == ':' && !bracketed) || isSeparator kind c then ([], c :: r)
    else
      let (host, rest) := cutHost kind (if c == '[' then true else c != ']' && bracketed) r
      (c :: host, rest)

/-- Reads a port after its colon, without the default one: it ends with the text or at a
slash of either kind. -/
def readPort? (scheme cs : List Char) : Option (Option Nat × List Char) :=
  let digits := cs.takeWhile Char.isDigit
  let rest := cs.drop digits.length
  -- The number counts and not its digits, so zeros in front do not matter.
  let port := digits.foldl (fun n c => n * 10 + (c.toNat - '0'.toNat)) 0
  if port > 65535 then none
  else if rest.head?.any fun c => c != '/' && c != '\\' then none
  else if digits.isEmpty || defaultPort? scheme = some port then some (none, rest)
  else some (some port, rest)

/-- The path that a text after an authority is. -/
def rootedPath (kind : SchemeKind) (cs : List Char) : List (List Char) :=
  match cs with
  | [] => if kind = .other then [] else walkText kind [] []
  | c :: r => walkText kind [] (if isSeparator kind c then r else c :: r)

/-- Reads what follows the two slashes of a URL with an authority. -/
def withAuthority? (r : Reference) (scheme cs : List Char) : Option Url := do
  let kind := schemeKind scheme
  let (username, password, rest) ← r.cutUser? kind cs
  let (hostText, rest) := cutHost kind false rest
  let host ← if kind = .other then Host.readVerbatim? hostText else Host.read? hostText
  -- Where there is no host there is nobody to send and no port to go to.
  let userless := username.isEmpty && password.isEmpty
  guard !(host.isEmpty && (rest.head? == some ':' || !userless))
  let (port, rest) ← match rest with
    | ':' :: digits => readPort? scheme digits
    | _ => some (none, rest)
  return r.complete scheme (some ⟨username, password, host, port⟩)
    (.segments (rootedPath kind rest))

/-- The authority of a file at a host. -/
def fileAuthority (host : Host) : Authority := ⟨[], [], host, none⟩

/-- The authority of a file on this machine. -/
def localAuthority : Authority := fileAuthority (.name [])

/-- The scheme of files. -/
def fileScheme : List Char := "file".toList

/-- Reads what follows the two slashes of a file URL. A path that starts with a drive letter
has no host, and neither has this machine. -/
def fileAtHost? (r : Reference) (cs : List Char) : Option Url := do
  let region := cs.takeWhile fun c => !isSeparator .file c
  -- A drive letter in the place of a host is the start of the path.
  if isDriveLetter region then
    return r.complete fileScheme (some localAuthority) (.segments (walkText .file [] cs))
  let host ← if region.isEmpty then some (.name []) else Host.read? region
  let path := rootedPath .file (cs.drop region.length)
  let isHere := host = .name "localhost".toList || path.head?.any isDriveLetter
  let authority := if isHere then localAuthority else fileAuthority host
  return r.complete fileScheme (some authority) (.segments path)

/-- Whether a text starts with a drive letter. -/
def startsWithDrive (cs : List Char) : Bool :=
  isDriveLetter (cs.takeWhile fun c => !isSeparator .file c)

/-- The place that a relative reference starts from: the path without its last segment. -/
def directory (base : Url) : List (List Char) := base.segments.dropLast

/-- The path that a relative reference from a file leads to. A last drive letter is not left:
as the only segment it is where the reference starts, below another one the reference
continues it. -/
def fromFile (base : Url) (body : List Char) : List (List Char) :=
  match base.segments.getLast? with
  | some s =>
    if isPlainDriveLetter s then
      if base.segments.length = 1 then walkText .file base.segments body
      else walkText .file (directory base) (s ++ body)
    else walkText .file (directory base) body
  | none => walkText .file [] body

/-- A reference without a body: it stays at the place, with its own query if it has one. -/
def atPlace (r : Reference) (base : Url) : Url :=
  { base with
    query := (r.query.map (encodeQuery base.kind)).or base.query
    fragment := r.fragment.map (percentEncode fragmentSet) }

/-- Reads a path from the root of a file base. -/
def fromFileRoot (r : Reference) (base : Option Url) (cs : List Char) : Url :=
  let (authority, place) := match base with
    | some b =>
      if startsWithDrive cs then (some localAuthority, [])
      else match b.segments.head?.filter isPlainDriveLetter with
        | some drive => (some localAuthority, [drive])
        | none => (b.authority, [])
    | none => (some localAuthority, [])
  r.complete fileScheme authority (.segments (walkText .file place cs))

/-- Reads a path from the place of a file base. -/
def fromFilePlace (r : Reference) (base : Option Url) : Url :=
  match base with
  | some b =>
    if r.body.isEmpty then r.atPlace b
    else if startsWithDrive r.body then
      r.complete fileScheme (some localAuthority) (.segments (walkText .file [] r.body))
    else r.complete fileScheme b.authority (.segments (fromFile b r.body))
  | none => r.complete fileScheme (some localAuthority) (.segments (walkText .file [] r.body))

/-- Reads a file reference, seen from a file if there is one. -/
def resolveFile? (r : Reference) (base : Option Url) : Option Url :=
  match r.body with
  | [] => some (r.fromFilePlace base)
  | c :: rest =>
    if isSeparator .file c then
      match rest with
      | d :: after =>
        if isSeparator .file d then r.fileAtHost? after else some (r.fromFileRoot base rest)
      | [] => some (r.fromFileRoot base rest)
    else some (r.fromFilePlace base)

/-- Whether a character is a slash of either kind. -/
def isSlash (c : Char) : Bool := c == '/' || c == '\\'

/-- Reads a reference without a scheme of its own, or with that of its base. Two slashes lead
to another host; only the plain ones are not part of the host's text. -/
def resolveFrom? (r : Reference) (base : Url) : Option Url :=
  match r.body with
  | [] => some (r.atPlace base)
  | c :: rest =>
    if isSlash c then
      if rest.head?.any isSlash then
        match stripPrefix? "//".toList r.body with
        | some cs => r.withAuthority? base.scheme cs
        | none => r.withAuthority? base.scheme (r.body.dropWhile isSlash)
      else some (r.complete base.scheme base.authority (.segments (walkText base.kind [] rest)))
    else some (r.complete base.scheme base.authority
      (.segments (walkText base.kind (directory base) r.body)))

/-- Reads a reference with a scheme outside the web: with an authority, with a path, or with
a text without structure. -/
def resolveOther? (r : Reference) (scheme : List Char) : Option Url :=
  match r.body with
  | '/' :: '/' :: rest => r.withAuthority? scheme rest
  | '/' :: rest => some (r.complete scheme none (.segments (walkText .other [] rest)))
  | cs => some (r.complete scheme none (.text (percentEncode controlSet cs)))

/-- The URL that a reference leads to, seen from a base if there is one. -/
def resolve? (r : Reference) (base : Option Url) : Option Url :=
  match r.scheme with
  | some scheme =>
    -- A base of the same scheme still counts for a reference that names its scheme.
    let sibling := base.filter fun b => b.scheme == scheme
    match schemeKind scheme with
    | .file => r.resolveFile? sibling
    | .other => r.resolveOther? scheme
    | .web =>
      let slashes := r.body.takeWhile isSlash
      match sibling with
      | some b =>
        if slashes.length < 2 then r.resolveFrom? b
        else r.withAuthority? scheme (r.body.drop slashes.length)
      | none => r.withAuthority? scheme (r.body.drop slashes.length)
  | none =>
    match base with
    | none => none
    | some b =>
      -- From a path without structure only a fragment can be reached.
      if r.body.isEmpty && r.query.isNone && r.fragment.isSome then some (r.atPlace b)
      else match b.path with
        | .text _ => none
        | .segments _ => if b.kind = .file then r.resolveFile? base else r.resolveFrom? b

end Reference

/-- The URL that a text is by itself. -/
def parse? (text : List Char) : Option Url := (Reference.read text).resolve? none

/-- The URL that a text leads to, seen from a base. -/
def join? (base : Url) (text : List Char) : Option Url :=
  (Reference.read text).resolve? (some base)

/-! ### Paths -/

/-- Whether the path of a URL is made of segments. -/
def HasSegments (u : Url) : Prop := ∃ list, u.path = .segments list

/-- Behind two slashes a reference has an authority and a path of its own. -/
theorem Reference.eq_complete_of_withAuthority? {r : Reference} {scheme cs : List Char} {u : Url}
    (h : r.withAuthority? scheme cs = some u) :
    ∃ authority list, u = r.complete scheme (some authority) (.segments list) := by
  unfold Reference.withAuthority? at h
  obtain ⟨⟨username, password, rest⟩, -, h⟩ := Option.bind_eq_some_iff.1 h
  dsimp only at h
  -- However the host and the port are read, the path has segments.
  by_cases hkind : schemeKind scheme = .other
  all_goals
    first
    | rw [if_pos hkind] at h
    | rw [if_neg hkind] at h
    obtain ⟨host, -, h⟩ := Option.bind_eq_some_iff.1 h
    obtain ⟨-, -, h⟩ := Option.bind_eq_some_iff.1 h
    split at h
    all_goals
      obtain ⟨⟨port, rest⟩, -, h⟩ := Option.bind_eq_some_iff.1 h
      cases h
      exact ⟨_, _, rfl⟩

/-- The path behind an authority consists of segments. -/
theorem Reference.hasSegments_of_withAuthority? {r : Reference} {scheme cs : List Char} {u : Url}
    (h : r.withAuthority? scheme cs = some u) : u.HasSegments := by
  obtain ⟨authority, list, rfl⟩ := Reference.eq_complete_of_withAuthority? h
  exact ⟨list, rfl⟩

/-- The path of a file at a host consists of segments. -/
theorem Reference.hasSegments_of_fileAtHost? {r : Reference} {cs : List Char} {u : Url}
    (h : r.fileAtHost? cs = some u) : u.HasSegments := by
  simp only [Reference.fileAtHost?] at h
  split at h
  · cases h
    exact ⟨_, rfl⟩
  · split at h
    all_goals
      obtain ⟨host, -, h⟩ := Option.bind_eq_some_iff.1 h
      cases h
      exact ⟨_, rfl⟩

/-- The path of a file without a base consists of segments. -/
theorem Reference.hasSegments_of_resolveFile? {r : Reference} {u : Url}
    (h : r.resolveFile? none = some u) : u.HasSegments := by
  unfold Reference.resolveFile? at h
  split at h
  · cases h
    exact ⟨_, rfl⟩
  · split at h
    · split at h
      · split at h
        · exact Reference.hasSegments_of_fileAtHost? h
        · cases h
          exact ⟨_, rfl⟩
      · cases h
        exact ⟨_, rfl⟩
    · cases h
      exact ⟨_, rfl⟩

/-- A URL that a text is by itself has segments if it has a host: only a URL without an
authority holds a text in the place of a path. -/
theorem hasSegments_of_parse? {text : List Char} {u : Url} (h : parse? text = some u)
    (hhost : u.host?.isSome = true) : u.HasSegments := by
  unfold parse? Reference.resolve? at h
  split at h
  · dsimp only [Option.filter_none] at h
    split at h
    · exact Reference.hasSegments_of_resolveFile? h
    · unfold Reference.resolveOther? at h
      split at h
      · exact Reference.hasSegments_of_withAuthority? h
      · cases h
        cases hhost
      · cases h
        cases hhost
    · exact Reference.hasSegments_of_withAuthority? h
  · cases h

/-- Seen from a URL with segments, a plain path always leads somewhere. -/
theorem join?_isSome_of_hasSegments {base : Url} (hbase : base.HasSegments) {text : List Char}
    {c : Char} {rest : List Char} (hread : Reference.read text = ⟨none, c :: rest, none, none⟩)
    (hslash : Reference.isSlash c = false) : (base.join? text).isSome = true := by
  obtain ⟨list, hlist⟩ := hbase
  have hfile : isSeparator .file c = false := by
    simpa [isSeparator, Reference.isSlash] using hslash
  simp only [join?, hread, Reference.resolve?, hlist, List.isEmpty_cons, Bool.false_and,
    Bool.false_eq_true, if_false]
  split
  · simp [Reference.resolveFile?, hfile]
  · simp [Reference.resolveFrom?, hslash]

end ImageSync.Url
