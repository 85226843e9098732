import ImageSync.Proofs.Url.WebUrl
import ImageSync.Registry.Source

/-!
# `ImageSync.Proofs.Registry.Routing`: which kind of source a registry gets

The host of a registry decides how it is listed, and its configuration may write the host in
many ways: in letters of either case, with a scheme or without, with a port and a path, and with
blanks and slashes around it. `UrlSpelling` is such a way, and `UrlSpelling.Of` says which host
it is for.

The main statement `create_routes` has two sides. Every spelling of the host of a managed
registry leads to its service (`host_of_spelling`), so none of them falls through to a catalog:
what is trimmed off leaves the host alone, a scheme is put in front exactly where there is none
(`schemedText_chars`), and the URL that comes of it has the host in small letters
(`Url.parse?_webText`). And whatever is configured, a source is of the kind that its host asks
for (`fits_of_create`).
-/

set_option autoImplicit false

namespace ImageSync

open Text

/-! ### Hosts of managed registries -/

namespace EcrHost

/-- Whether a character may stand in the name of a region. -/
def isRegionChar (c : Char) : Bool := c.isLower || c.isDigit || c == '-'

/-- The parts of a host are as the registries have them: digits, and a region in small letters
that no reader takes for the ASCII form of another name. -/
structure Proper (h : EcrHost) : Prop where
  account : ∀ c ∈ h.account.toList, c.isDigit = true
  region : ∀ c ∈ h.region.toList, isRegionChar c = true
  unmarked : ¬"xn--".toList <+: h.region.toList

/-- A host is written as its labels with dots between them. -/
theorem toList_render (h : EcrHost) : h.render.toList = joinWith '.' h.labels := by
  obtain ⟨account, region, part⟩ := h
  cases part <;> simp [render, labels, joinWith]

variable {h : EcrHost}

/-- The words between the parts of a host. -/
def words : List (List Char) :=
  [['d', 'k', 'r'], ['e', 'c', 'r'], ['a', 'm', 'a', 'z', 'o', 'n', 'a', 'w', 's'],
    ['c', 'o', 'm'], ['c', 'n']]

/-- What holds of the account, of the region and of the fixed words holds of all labels. -/
theorem forall_mem_labels {p : List Char → Prop} (haccount : p h.account.toList)
    (hregion : p h.region.toList) (hwords : ∀ word ∈ words, p word) :
    ∀ label ∈ h.labels, p label := by
  obtain ⟨account, region, part⟩ := h
  simp only [words, List.forall_mem_cons] at hwords
  cases part
  · simp [labels, haccount, hregion, hwords]
  · simp [labels, haccount, hregion, hwords]

/-- The last label of a host is a word. -/
theorem getLast?_labels (h : EcrHost) :
    h.labels.getLast? = some ['c', 'o', 'm'] ∨ h.labels.getLast? = some ['c', 'n'] := by
  obtain ⟨account, region, part⟩ := h
  cases part
  · exact .inl rfl
  · exact .inr rfl

/-- Labels without dots are what a host is cut into. -/
theorem splitAtChar_render (haccount : '.' ∉ h.account.toList) (hregion : '.' ∉ h.region.toList) :
    splitAtChar '.' h.render.toList = h.labels := by
  rw [toList_render]
  refine splitAtChar_joinWith (by simp [labels]) ?_
  exact forall_mem_labels (p := fun label => '.' ∉ label) haccount hregion (by decide)

/-- A host is read back into its parts. -/
theorem identify_render (haccount : '.' ∉ h.account.toList) (hregion : '.' ∉ h.region.toList) :
    identify h.render = some h := by
  rw [identify, splitAtChar_render haccount hregion]
  exact identifyLabels_eq_some_iff.2 rfl

namespace Proper

variable (hproper : h.Proper)

include hproper

/-- In a proper host there is no dot in the account or the region, so each of them is one label. -/
theorem noDot : '.' ∉ h.account.toList ∧ '.' ∉ h.region.toList := by
  constructor
  · intro hmem
    cases hproper.account '.' hmem
  · intro hmem
    cases hproper.region '.' hmem

/-- The characters of the labels are those of a domain name, and so are the dots between. -/
theorem chars : ∀ c ∈ h.render.toList, Url.isDomainChar c = true := by
  have haccount : ∀ c ∈ h.account.toList, Url.isDomainChar c = true := fun c hc =>
    Url.isDomainChar_of_isDigit (hproper.account c hc)
  have hregion : ∀ c ∈ h.region.toList, Url.isDomainChar c = true := by
    intro c hc
    have hregion := hproper.region c hc
    simp only [isRegionChar, Bool.or_eq_true, beq_iff_eq] at hregion
    obtain (h | h) | rfl := hregion
    · refine Url.isDomainChar_of_isAlphanum ?_
      change (c.isUpper || c.isLower || c.isDigit) = true
      rw [h, Bool.or_true, Bool.true_or]
    · exact Url.isDomainChar_of_isDigit h
    · rfl
  have hwords : ∀ word ∈ words, ∀ c ∈ word, Url.isDomainChar c = true := by
    have hall : words.all (fun word => word.all Url.isDomainChar) = true := by decide
    exact fun word hword => List.all_eq_true.1 (List.all_eq_true.1 hall word hword)
  rw [toList_render]
  exact forall_mem_joinWith (p := fun c => Url.isDomainChar c = true) rfl
    (forall_mem_labels haccount hregion hwords)

/-- The host is a plain domain name. -/
theorem isPlain : Url.Domain.isPlain h.render.toList = true := by
  -- No label starts with the mark: the account has no letters, the region is assumed to have
  -- none, and the words are known.
  have hascii : Url.Domain.isAscii h.render.toList = true :=
    List.all_eq_true.2 fun c hc =>
      decide_eq_true (Url.toNat_lt_of_isDomainChar (hproper.chars c hc))
  have haccount : (stripPrefix? Url.Domain.mark h.account.toList).isNone = true := by
    rw [Option.isNone_iff_eq_none, Option.eq_none_iff_forall_not_mem]
    intro rest hrest
    -- The mark starts with a letter.
    have hmark : 'x' ∈ h.account.toList := by
      rw [stripPrefix?_eq_some_iff.1 (Option.mem_def.1 hrest)]
      exact List.mem_cons_self
    cases hproper.account 'x' hmark
  have hregion : (stripPrefix? Url.Domain.mark h.region.toList).isNone = true := by
    rw [Option.isNone_iff_eq_none, Option.eq_none_iff_forall_not_mem]
    intro rest hrest
    refine hproper.unmarked ⟨rest, ?_⟩
    exact (stripPrefix?_eq_some_iff.1 (Option.mem_def.1 hrest)).symm
  rw [Url.Domain.isPlain, hascii, Bool.true_and, splitAtChar_render hproper.noDot.1 hproper.noDot.2,
    List.all_eq_true]
  exact forall_mem_labels haccount hregion (by decide)

/-- The host is no address. -/
theorem endsInNumber_render : Url.endsInNumber h.render.toList = false := by
  -- Only the last label counts, and an empty one would be passed over.
  rw [Url.endsInNumber, Url.ipv4Labels, splitAtChar_render hproper.noDot.1 hproper.noDot.2]
  rcases h.getLast?_labels with hlast | hlast
  · rw [hlast, if_neg (by decide), hlast]
    decide
  · rw [hlast, if_neg (by decide), hlast]
    decide

end Proper

end EcrHost

/-! ### Spellings of a host -/

/-- A way to write the URL of a registry. -/
structure UrlSpelling where
  /-- What stands around the URL. -/
  before : List Char
  after : List Char
  /-- The scheme, if there is one. -/
  scheme : Option (List Char)
  host : List Char
  /-- The digits of the port, if there is one. -/
  port : Option (List Char)
  path : List Char
  /-- The number of slashes at the end. -/
  slashes : Nat

namespace UrlSpelling

/-- A scheme in front of a host. -/
def schemeText : Option (List Char) → List Char
  | some scheme => scheme ++ "://".toList
  | none => []

/-- What stands behind the host and the port. -/
def tail (u : UrlSpelling) : List Char := u.path ++ List.replicate u.slashes '/'

/-- The URL without what stands around it. -/
def core (u : UrlSpelling) : List Char :=
  schemeText u.scheme ++ (u.host ++ Url.portText u.port) ++ u.tail

/-- The text as it is configured. -/
def chars (u : UrlSpelling) : List Char := u.before ++ u.core ++ u.after

/-- Whether a character may stand in the path. -/
def isPathChar (c : Char) : Bool := c.isAlphanum || c == '-' || c == '/'

/-- A spelling of a host: letters of either case for its letters, `http` or `https` as the scheme,
a port that there is, a path of letters, digits, hyphens and slashes, and blanks around it. -/
structure Of (u : UrlSpelling) (host : String) : Prop where
  before : ∀ c ∈ u.before, isBlank c = true
  after : ∀ c ∈ u.after, isBlank c = true
  scheme : ∀ scheme ∈ u.scheme, Url.IsWebScheme scheme
  host : u.host.map Char.toLower = host.toList
  port : ∀ digits ∈ u.port, Url.IsPort digits
  pathStarts : ∀ c, u.path.head? = some c → c = '/'
  path : ∀ c ∈ u.path, isPathChar c = true

/-- What is left behind the host and the port once the slashes are trimmed off. -/
def trimmedTail (u : UrlSpelling) : List Char := trimEndOf '/' u.tail

variable {u : UrlSpelling} {host : String}

/-- The host is a plain domain name if the small letters are those of a registry. -/
theorem Of.isDomain {h : EcrHost} (hproper : h.Proper) (hu : u.Of h.render) :
    Url.IsDomain u.host where
  nonempty := by
    intro hnil
    have hrender := hu.host
    rw [hnil, EcrHost.toList_render] at hrender
    obtain ⟨account, region, part⟩ := h
    cases part <;> simp [EcrHost.labels, joinWith] at hrender
  chars c hc := by
    have hmem : c.toLower ∈ h.render.toList := hu.host ▸ List.mem_map_of_mem hc
    exact Url.isDomainChar_of_toLower (hproper.chars _ hmem)
  plain := hu.host ▸ hproper.isPlain
  noAddress := hu.host ▸ hproper.endsInNumber_render

section Tail

variable (hu : u.Of host)

include hu

/-- What follows the place starts with a slash, if anything follows. -/
theorem tail_starts : ∀ c, u.tail.head? = some c → c = '/' := by
  intro c hc
  rw [tail] at hc
  cases hpath : u.path with
  | nil =>
    rw [hpath, List.nil_append] at hc
    exact List.eq_of_mem_replicate (List.mem_of_head? hc)
  | cons d r =>
    rw [hpath] at hc
    cases hc
    exact hu.pathStarts c (by rw [hpath]; rfl)

/-- What follows the place consists of characters of a domain and slashes. -/
theorem tail_chars : ∀ c ∈ u.tail, Url.isDomainChar c = true ∨ c = '/' := by
  intro c hc
  rcases List.mem_append.1 hc with hc | hc
  · have hpath := hu.path c hc
    simp only [isPathChar, Bool.or_eq_true, beq_iff_eq] at hpath
    obtain (h | rfl) | rfl := hpath
    · exact .inl (Url.isDomainChar_of_isAlphanum h)
    · exact .inl rfl
    · exact .inr rfl
  · exact .inr (List.eq_of_mem_replicate hc)

/-- What is left of the path is a path. -/
theorem isPath_trimmedTail : Url.IsPath u.trimmedTail where
  starts c hc := by
    obtain ⟨rest, hrest⟩ := prefix_trimEndOf '/' u.tail
    refine tail_starts hu c ?_
    rw [← hrest, List.head?_append, show (trimEndOf '/' u.tail).head? = some c from hc]
    rfl
  chars c hc := by
    rcases tail_chars hu c ((prefix_trimEndOf '/' u.tail).subset hc) with h | rfl
    · have hplain := Url.plainChar_of_isDomainChar h
      exact ⟨hplain.edge, hplain.fragment, hplain.query⟩
    · decide

/-- What follows the place has no colon, so no mark of a scheme starts there. -/
theorem colon_not_mem_trimmedTail : ':' ∉ u.trimmedTail := by
  intro hmem
  rcases tail_chars hu ':' ((prefix_trimEndOf '/' u.tail).subset hmem) with h | h
  · cases h
  · cases h

end Tail

section Core

variable (hu : u.Of host) (hname : Url.IsDomain u.host)

include hu hname

/-- The host and the port are letters, digits, hyphens and dots, and a colon between them. -/
theorem place_chars : ∀ c ∈ u.host ++ Url.portText u.port, Url.isDomainChar c = true ∨ c = ':' := by
  intro c hc
  rcases List.mem_append.1 hc with hc | hc
  · exact .inl (hname.chars c hc)
  · exact Url.portText_chars hu.port c hc

/-- There are no blanks inside a spelling. -/
theorem core_chars : ∀ c ∈ u.core, isBlank c = false := by
  intro c hc
  have hplain : Url.isDomainChar c = true → isBlank c = false := fun h =>
    (Url.plainChar_of_isDomainChar h).blank
  rcases List.mem_append.1 hc with hc | hc
  · rcases List.mem_append.1 hc with hc | hc
    · cases hscheme : u.scheme with
      | none =>
        rw [hscheme] at hc
        cases hc
      | some scheme =>
        rw [hscheme] at hc
        rcases List.mem_append.1 hc with hc | hc
        · exact hplain ((hu.scheme scheme hscheme).chars c hc)
        · obtain rfl | rfl : c = ':' ∨ c = '/' := by simpa using hc
          · decide
          · decide
    · rcases place_chars hu hname c hc with h | rfl
      · exact hplain h
      · decide
  · rcases tail_chars hu c hc with h | rfl
    · exact hplain h
    · decide

/-- Trimming takes away what stands around the URL. -/
theorem trim_chars : trim u.chars = u.core := by
  have hne : u.core ≠ [] := by
    intro hnil
    refine hname.nonempty ?_
    simp only [core, List.append_eq_nil_iff] at hnil
    exact hnil.1.2.1
  exact trim_eq hu.before hu.after hne (core_chars hu hname)

/-- The slashes at the end are those behind the host and the port. -/
theorem trimEndOf_core : trimEndOf '/' u.core =
    schemeText u.scheme ++ (u.host ++ Url.portText u.port) ++ u.trimmedTail := by
  -- The character in front of the path is one of the host or the port, so no slash.
  refine trimEndOf_append fun hlast => ?_
  have hplace : u.host ++ Url.portText u.port ≠ [] := fun hnil =>
    hname.nonempty (List.append_eq_nil_iff.1 hnil).1
  rw [List.getLast?_append, List.getLast?_eq_some_getLast hplace, Option.some_or,
    Option.some.injEq] at hlast
  rcases place_chars hu hname '/' (hlast ▸ List.getLast_mem hplace) with h | h
  · cases h
  · cases h

/-- Without a scheme there is no mark of one: the only colon is that of the port, and behind it
stands a digit. -/
theorem holdsWord_place :
    holdsWord "://".toList (u.host ++ Url.portText u.port ++ u.trimmedTail) = false := by
  have htail := colon_not_mem_trimmedTail hu
  have hhost : ':' ∉ u.host := fun hmem =>
    (Url.plainChar_of_isDomainChar (hname.chars ':' hmem)).colon rfl
  rw [← Bool.not_eq_true, holdsWord_eq_true_iff]
  rintro ⟨front, rest, hparts⟩
  rw [List.append_assoc, List.append_assoc] at hparts
  change _ = front ++ ':' :: ('/' :: '/' :: rest) at hparts
  cases hport : u.port with
  | none =>
    have hmem : ':' ∈ u.host ++ u.trimmedTail := by
      rw [hport] at hparts
      exact hparts ▸ List.mem_append_right _ List.mem_cons_self
    rcases List.mem_append.1 hmem with h | h
    · exact hhost h
    · exact htail h
  | some digits =>
    have hdigits := hu.port digits hport
    have hbehind : ':' ∉ digits ++ u.trimmedTail := by
      intro hmem
      rcases List.mem_append.1 hmem with h | h
      · cases hdigits.chars ':' h
      · exact htail h
    rw [hport] at hparts
    -- The two texts are cut at the same colon, so the digits would start with a slash.
    have hslashes := (append_cons_inj hhost hbehind hparts).2
    obtain ⟨d, r, rfl⟩ := List.exists_cons_of_ne_nil hdigits.nonempty
    have hd : d = '/' := (List.cons.inj hslashes).1
    have hdigit := hdigits.chars d List.mem_cons_self
    rw [hd] at hdigit
    cases hdigit

/-- The text of the URL has a scheme, and no slashes at its end. -/
theorem schemedText_chars :
    RegistryConfig.schemedText (String.ofList u.chars) =
      Url.webText (u.scheme.getD "https".toList) u.host u.port u.trimmedTail := by
  have hchars : (String.ofList u.chars).toList = u.chars := String.toList_ofList
  rw [RegistryConfig.schemedText, hchars, trim_chars hu hname, trimEndOf_core hu hname]
  -- The mark of a scheme is there exactly if the spelling has one.
  cases hscheme : u.scheme with
  | none =>
    have hmark := holdsWord_place hu hname
    simp only [schemeText, List.nil_append, hmark]
    simp [Url.webText, Url.placeText]
  | some scheme =>
    have hmark : holdsWord "://".toList
        (scheme ++ "://".toList ++ (u.host ++ Url.portText u.port) ++ u.trimmedTail) = true :=
      holdsWord_eq_true_iff.2 ⟨scheme, _, List.append_assoc _ _ _⟩
    simp only [schemeText, hmark, if_pos]
    simp [Url.webText, Url.placeText]

end Core

/-- The URL of a spelling has the host in small letters. -/
theorem host_of_spelling {h : EcrHost} (hproper : h.Proper) (hu : u.Of h.render)
    {config : RegistryConfig} (hurl : config.url = String.ofList u.chars) :
    config.host = .ok h.render := by
  have hname := hu.isDomain hproper
  -- Without a scheme of its own, the text is read with the default one.
  have hscheme : Url.IsWebScheme (u.scheme.getD "https".toList) := by
    cases hscheme : u.scheme with
    | none => exact .inr rfl
    | some scheme => exact hu.scheme scheme hscheme
  obtain ⟨url, hparse, hauthority⟩ : ∃ url,
      Url.parse? (Url.webText (u.scheme.getD "https".toList) u.host u.port u.trimmedTail) =
        some url ∧
      ∃ port, url.authority = some ⟨[], [], .name (u.host.map Char.toLower), port⟩ :=
    ⟨_, Url.parse?_webText hscheme hname hu.port (isPath_trimmedTail hu), _, rfl⟩
  obtain ⟨port, hauthority⟩ := hauthority
  have hhost : url.host? = some (.name h.render.toList) := by
    rw [← hu.host]
    exact Url.host?_eq_name hauthority rfl fun hnil =>
      hname.nonempty (List.map_eq_nil_iff.1 hnil)
  have hbase : config.baseUrl = .ok url := by
    rw [RegistryConfig.baseUrl, hurl, schemedText_chars hu hname, hparse]
    dsimp only
    rw [if_pos (by rw [hhost]; rfl)]
  rw [RegistryConfig.host, hbase, Except.map, Url.hostText?, hhost]
  exact congrArg Except.ok String.ofList_toList

end UrlSpelling

namespace Source

/-- A source is of the kind that a host asks for: a managed registry by the parts of its host,
with a wish for the size of its pages, and a catalog for any other host. -/
def Fits (host : String) (pageSize : Nat) : Source → Prop
  | managed c => ∃ r, EcrHost.identify host = some r ∧ c = .ofHost r pageSize
  | catalog _ => EcrHost.identify host = none

/-- A source is that of a managed registry, by the parts of its host, or that of a catalog. -/
theorem create_cases {files : Files} {hasConnector : Bool} {config : RegistryConfig}
    {source : Source} (h : create files hasConnector config = .ok source) :
    ∃ host, config.host = .ok host ∧
      ((∃ r, EcrHost.identify host = some r ∧ source = .managed (.ofHost r config.pageSize)) ∨
        ∃ s, EcrHost.identify host = none ∧ CatalogSource.create files config = .ok s ∧
          source = .catalog s) := by
  rw [create] at h
  cases hhost : config.host with
  | error e =>
    rw [hhost] at h
    cases h
  | ok host =>
    refine ⟨host, rfl, ?_⟩
    rw [hhost] at h
    dsimp only [bind, Except.bind] at h
    -- A managed host needs a connector, any other host makes a catalog.
    cases hid : EcrHost.identify host with
    | some r =>
      rw [hid] at h
      cases hasConnector with
      | true =>
        cases h
        exact .inl ⟨r, rfl, rfl⟩
      | false => cases h
    | none =>
      rw [hid] at h
      -- Whatever stops the catalog from being set up, its host is no managed one.
      cases hcatalog : CatalogSource.create files config with
      | error e =>
        rw [hcatalog] at h
        cases h
      | ok s =>
        rw [hcatalog] at h
        cases h
        exact .inr ⟨s, rfl, rfl, rfl⟩

/-- A source is of the kind that the host of its registry asks for. -/
theorem fits_of_create {files : Files} {hasConnector : Bool} {config : RegistryConfig}
    {source : Source} (h : create files hasConnector config = .ok source) :
    ∃ host, config.host = .ok host ∧ source.Fits host config.pageSize := by
  obtain ⟨host, hhost, ⟨r, hid, rfl⟩ | ⟨s, hid, -, rfl⟩⟩ := create_cases h
  · exact ⟨host, hhost, r, hid, rfl⟩
  · exact ⟨host, hhost, hid⟩

/-- However the host of a managed registry is spelled, it is listed through its service if there
is a connector, with the parts of its host and a page size that registries accept, and refused by
name if there is none; nothing else of the configuration matters. And a source that is created
is always of the kind that the host asks for. -/
theorem create_routes :
    (∀ (h : EcrHost) (u : UrlSpelling) (config : RegistryConfig) (files : Files),
      h.Proper → u.Of h.render → config.url = String.ofList u.chars →
        create files true config =
            .ok (.managed ⟨h.render, h.region, h.account, clampPageSize config.pageSize⟩) ∧
          create files false config =
            .error (.unsupportedRegistry h.render "no ECR connector configured")) ∧
    ∀ (config : RegistryConfig) (files : Files) (hasConnector : Bool) (source : Source),
      create files hasConnector config = .ok source →
        ∃ host, config.host = .ok host ∧ source.Fits host config.pageSize := by
  constructor
  · intro h u config files hproper hu hurl
    have hhost := UrlSpelling.host_of_spelling hproper hu hurl
    have hid := EcrHost.identify_render hproper.noDot.1 hproper.noDot.2
    exact ⟨create_of_managed hhost hid, create_of_managed_of_no_connector hhost hid⟩
  · intro config files hasConnector source
    exact fits_of_create

/-- A spelling in letters of both cases, with a port, a path and blanks and slashes around it. -/
theorem create_routes_mixed :
    let h : EcrHost := ⟨"123456789012", "cn-north-1", .china⟩
    let u : UrlSpelling := {
      before := " \t".toList
      after := "\n".toList
      scheme := some "HTTPs".toList
      host := "123456789012.dkr.ECR.cn-North-1.amazonaws.COM.cn".toList
      port := some "0443".toList
      path := "/Team-A//7".toList
      slashes := 2 }
    let config : RegistryConfig := {
      url := " \tHTTPs://123456789012.dkr.ECR.cn-North-1.amazonaws.COM.cn:0443/Team-A//7//\n"
      auth := .bearer "token"
      pageSize := 1000 }
    let source : Source := .managed
      ⟨"123456789012.dkr.ecr.cn-north-1.amazonaws.com.cn", "cn-north-1", "123456789012", 100⟩
    h.Proper ∧ u.Of h.render ∧ config.url = String.ofList u.chars ∧
      create (fun _ => .error .absent) true config = .ok source ∧
      create (fun _ => .error .absent) false config = .error (.unsupportedRegistry
        "123456789012.dkr.ecr.cn-north-1.amazonaws.com.cn" "no ECR connector configured") ∧
      ∃ host, config.host = .ok host ∧ source.Fits host config.pageSize := by
  intro h u config source
  have hproper : h.Proper :=
    ⟨List.all_eq_true.1 (by decide), List.all_eq_true.1 (by decide), by decide⟩
  have hu : u.Of h.render := {
    before := List.all_eq_true.1 (by decide)
    after := List.all_eq_true.1 (by decide)
    scheme := by
      rintro scheme ⟨⟩
      exact .inr (by decide)
    host := by decide +kernel
    port := by
      rintro digits ⟨⟩
      exact ⟨List.cons_ne_nil _ _, List.all_eq_true.1 (by decide), by decide⟩
    pathStarts := by
      rintro c ⟨⟩
      rfl
    path := List.all_eq_true.1 (by decide) }
  have hurl : config.url = String.ofList u.chars := by decide +kernel
  obtain ⟨hwith, hwithout⟩ := create_routes.1 h u config (fun _ => .error .absent) hproper hu hurl
  exact ⟨hproper, hu, hurl, hwith, hwithout, create_routes.2 config _ true source hwith⟩

end Source

end ImageSync
