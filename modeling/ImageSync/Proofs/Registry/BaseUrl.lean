import ImageSync.Proofs.Url.Authority
import ImageSync.Registry.Config

/-!
# `ImageSync.Proofs.Registry.BaseUrl`: the host of a base URL

A registry is configured by a text. Where the text has a scheme of the web, the base URL should have
the host that the text has as a URL. But before it is read, blanks and slashes go from its end
(`kept`), and this may change what is read.

* Slashes behind a host never matter, and blanks never do behind a slash, a query or a fragment:
  there the base URL has the scheme and the authority of the text, and is refused where the text is
  no URL (`authorityText_kept`).
* A blank in front of the slashes comes to the end with them gone, and there it is dropped.
* With nothing but slashes behind it the scheme loses its own ones, so it is taken for the host.

`baseUrl_of_scheme` tells the cases apart for every text; `baseUrl_without_host` has texts for the
last two, whose base URL has a host although they have none.
-/

set_option autoImplicit false

namespace ImageSync.RegistryConfig

open Text

/-! ### What is kept -/

/-- What is kept of the text behind the slashes of a scheme. -/
def kept (rest : List Char) : List Char := trimEndOf '/' (trimEnd rest)

section Scheme

variable {scheme rest before after : List Char} (hscheme : Url.IsWebScheme scheme)

include hscheme

/-- Blanks are trimmed off around a scheme and behind it. -/
theorem trim_scheme (hbefore : ∀ c ∈ before, isBlank c = true)
    (hafter : ∀ c ∈ after, isBlank c = true) :
    trim (before ++ (scheme ++ "://".toList ++ rest) ++ after) =
      scheme ++ "://".toList ++ trimEnd rest := by
  have hstart : trimStart (scheme ++ "://".toList ++ rest) = scheme ++ "://".toList ++ rest := by
    refine dropWhile_of_head? fun c hc => ?_
    have hmem : c ∈ scheme := by
      cases scheme with
      | nil => cases hscheme.starts
      | cons d r =>
        cases hc
        exact List.mem_cons_self
    exact (Url.plainChar_of_isDomainChar (hscheme.chars c hmem)).blank
  have hlast : ∀ c, (scheme ++ "://".toList).getLast? = some c → isBlank c = false := by
    intro c hc
    rw [List.getLast?_append] at hc
    cases hc
    rfl
  rw [trim_between hbefore hafter, trim, hstart]
  exact dropEnd_append_of_getLast? hlast rest

/-- Behind something else than slashes, a scheme is kept. -/
theorem schemedText_of_kept {url : String} (hbefore : ∀ c ∈ before, isBlank c = true)
    (hafter : ∀ c ∈ after, isBlank c = true)
    (hurl : url.toList = before ++ (scheme ++ "://".toList ++ rest) ++ after)
    (hkept : kept rest ≠ []) : schemedText url = scheme ++ "://".toList ++ kept rest := by
  have hraw : trimEndOf '/' (trim url.toList) = scheme ++ "://".toList ++ kept rest := by
    rw [hurl, trim_scheme hscheme hbefore hafter]
    refine (dropEnd_append _ _ _).trans (if_neg ?_)
    rwa [List.isEmpty_iff]
  have hmark : holdsWord "://".toList (scheme ++ "://".toList ++ kept rest) = true :=
    holdsWord_eq_true_iff.2 ⟨scheme, kept rest, rfl⟩
  rw [schemedText, hraw]
  exact if_pos hmark

/-- Behind nothing but slashes, a scheme loses its mark and is read behind another one. -/
theorem schemedText_of_kept_nil {url : String} (hbefore : ∀ c ∈ before, isBlank c = true)
    (hafter : ∀ c ∈ after, isBlank c = true)
    (hurl : url.toList = before ++ (scheme ++ "://".toList ++ rest) ++ after)
    (hkept : kept rest = []) :
    schemedText url = "https".toList ++ "://".toList ++ (scheme ++ [':']) := by
  have hraw : trimEndOf '/' (trim url.toList) = scheme ++ [':'] := by
    have hslashes : trimEndOf '/' (scheme ++ "://".toList) = scheme ++ [':'] := by
      have hlast : (scheme ++ [':']).getLast? ≠ some '/' := by
        rw [List.getLast?_concat]
        decide
      have hfront : trimEndOf '/' (scheme ++ [':'] ++ "//".toList) =
          scheme ++ [':'] ++ trimEndOf '/' "//".toList := trimEndOf_append hlast
      rwa [List.append_assoc, show trimEndOf '/' "//".toList = [] from rfl,
        List.append_nil] at hfront
    rw [hurl, trim_scheme hscheme hbefore hafter, ← hslashes]
    refine (dropEnd_append _ _ _).trans (if_pos ?_)
    rwa [List.isEmpty_iff]
  -- What is left has no mark of a scheme, so another scheme is put in front.
  have hmark : holdsWord "://".toList (scheme ++ [':']) = false := by
    rw [Bool.eq_false_iff]
    intro hholds
    obtain ⟨front, back, hword⟩ := holdsWord_eq_true_iff.1 hholds
    -- There is no slash.
    have hmem : '/' ∈ scheme ++ [':'] := by simp [hword]
    rcases List.mem_append.1 hmem with hmem | hmem
    · cases hscheme.chars '/' hmem
    · cases List.mem_singleton.1 hmem
  rw [schemedText, hraw]
  exact (if_neg (by rw [hmark]; decide)).trans (List.append_assoc ..).symm

end Scheme

/-! ### What is trimmed off -/

/-- Whether the host is the same without what is trimmed off: it has ended before, or nothing but
slashes would be read behind it. -/
def KeepsHost (rest : List Char) : Prop :=
  Url.endsWithin (kept rest) = true ∨
    ∃ slashes, (∀ c ∈ slashes, Url.Reference.isSlash c = true) ∧
      Url.cleanedEnd rest = Url.cleanedEnd (kept rest) ++ slashes

/-- What is kept of a text is the front of it. -/
theorem prefix_kept (rest : List Char) : kept rest <+: rest := by
  refine (prefix_trimEndOf _ _).trans ?_
  rw [trimEnd, ← List.reverse_suffix, List.reverse_reverse]
  exact List.dropWhile_suffix _

/-- What is dropped at the end of a URL is no part of its authority, under the condition that the
host is kept. -/
theorem authorityText_kept {rest : List Char} (h : KeepsHost rest) :
    Url.authorityText (Url.cleanedEnd rest) = Url.authorityText (Url.cleanedEnd (kept rest)) := by
  rcases h with hends | ⟨slashes, hslashes, hrest⟩
  · obtain ⟨tail, htail⟩ := prefix_kept rest
    have hsame := Url.authorityText_of_endsWithin hends tail
    rwa [htail] at hsame
  · rw [hrest]
    exact Url.authorityText_append_slashes hslashes _

/-- Without blanks and control characters the host is always the same. -/
theorem keepsHost_of_forall {rest : List Char}
    (h : ∀ c ∈ rest, Url.isEdge c = false ∧ isBlank c = false) : KeepsHost rest := by
  have htrim : trimEnd rest = rest :=
    trimEnd_of_getLast? fun c hc => (h c (List.mem_of_getLast? hc)).2
  refine .inr ⟨(rest.reverse.takeWhile (· == '/')).reverse, fun c hc => ?_, ?_⟩
  · have hslash := forall_mem_takeWhile _ _ c (List.mem_reverse.1 hc)
    rw [beq_iff_eq.1 hslash]
    rfl
  · rw [Url.cleanedEnd_eq fun c hc => (h c hc).1,
      Url.cleanedEnd_eq fun c hc => (h c ((prefix_kept rest).subset hc)).1, kept, htrim, trimEndOf,
      ← List.reverse_append, List.takeWhile_append_dropWhile, List.reverse_reverse]

/-! ### The base URL -/

/-- Whether a base URL is read from a text: it has the scheme, the user, the host and the port of
the URL that the text is, and it is refused if the text is none. -/
def ReadsHost (config : RegistryConfig) (text : List Char) : Prop :=
  match Url.parse? text with
  | some v => v.host?.isSome = true ∧
      ∃ u, config.baseUrl = .ok u ∧ u.scheme = v.scheme ∧ u.authority = v.authority
  | none => config.baseUrl = .error (.invalidUrl config.url)

variable {config : RegistryConfig} {scheme rest : List Char}

/-- A base URL is read from every text that has the authority in its place. -/
theorem readsHost_of_authorityText {cs : List Char} (hscheme : Url.IsWebScheme scheme)
    (htext : schemedText config.url = scheme ++ "://".toList ++ cs)
    (hsame : Url.authorityText (Url.cleanedEnd rest) = Url.authorityText (Url.cleanedEnd cs)) :
    config.ReadsHost (scheme ++ "://".toList ++ rest) := by
  -- Both texts have the same authority, since it comes from this part of them alone.
  have hauthority : (Url.parse? (scheme ++ "://".toList ++ rest)).bind Url.authority =
      (Url.parse? (scheme ++ "://".toList ++ cs)).bind Url.authority := by
    rw [Url.authority_parse? hscheme, Url.authority_parse? hscheme, hsame]
  -- A URL with a host has an authority, so the one text is a URL if the other is.
  have hsome : ∀ {u : Url}, u.host?.isSome = true → u.authority ≠ none := fun hhost hnone => by
    rw [Url.host?, hnone] at hhost
    cases hhost
  rw [ReadsHost, baseUrl, htext]
  cases hrest : Url.parse? (scheme ++ "://".toList ++ rest) with
  | none =>
    rw [hrest] at hauthority
    cases hcs : Url.parse? (scheme ++ "://".toList ++ cs) with
    | none => rfl
    | some u =>
      rw [hcs] at hauthority
      exact absurd hauthority.symm (hsome (Url.host_of_parse? hscheme hcs).2)
  | some v =>
    obtain ⟨hv, hhost⟩ := Url.host_of_parse? hscheme hrest
    rw [hrest] at hauthority
    cases hcs : Url.parse? (scheme ++ "://".toList ++ cs) with
    | none =>
      rw [hcs] at hauthority
      exact absurd hauthority (hsome hhost)
    | some u =>
      rw [hcs] at hauthority
      obtain ⟨hu, hhost'⟩ := Url.host_of_parse? hscheme hcs
      exact ⟨hhost, u, if_pos hhost', hu.trans hv.symm, hauthority.symm⟩

/-- The name of a scheme could be a host. -/
theorem isDomain_scheme (hscheme : Url.IsWebScheme scheme) : Url.IsDomain scheme where
  nonempty := by
    rintro rfl
    cases hscheme.starts
  chars := hscheme.chars
  plain := by rcases hscheme with h | h <;> rw [h] <;> decide
  noAddress := by rcases hscheme with h | h <;> rw [h] <;> decide

/-- A scheme and its colon, read behind another scheme, are a host without a port. -/
theorem baseUrl_of_scheme_colon (hscheme : Url.IsWebScheme scheme)
    (htext : schemedText config.url = "https".toList ++ "://".toList ++ (scheme ++ [':'])) :
    ∃ u, config.baseUrl = .ok u ∧ u.scheme = "https".toList ∧
      u.authority = some ⟨[], [], .name (scheme.map Char.toLower), none⟩ := by
  have hhttps : Url.IsWebScheme "https".toList := .inr rfl
  -- A scheme is made of letters, so it is a host as well. The colon behind it announces a port, and
  -- there is none.
  have hname := isDomain_scheme hscheme
  have hchars : ∀ c ∈ scheme ++ [':'], Url.isEdge c = false ∧ Url.endsAuthority c = false :=
    List.forall_mem_append.2
      ⟨fun c hc => ⟨(Url.plainChar_of_isDomainChar (hname.chars c hc)).edge,
        Url.endsAuthority_of_isDomainChar (hname.chars c hc)⟩, forall_mem_of_all (by decide)⟩
  have hclean : Url.cleanedEnd (scheme ++ [':']) = scheme ++ [':'] :=
    Url.cleanedEnd_eq fun c hc => (hchars c hc).1
  have hplace : Url.authorityText (scheme ++ [':']) = scheme ++ [':'] :=
    Url.authorityText_eq fun c hc => (hchars c hc).2
  have hauthority : Url.Reference.authorityAt? "https".toList (scheme ++ [':']) =
      some ⟨[], [], .name (scheme.map Char.toLower), none⟩ :=
    Url.Reference.authorityAt?_of_isDomain hname
  have hparse := Url.authority_parse? hhttps (scheme ++ [':'])
  rw [show "https".toList.map Char.toLower = "https".toList from rfl, hclean, hplace,
    hauthority] at hparse
  obtain ⟨u, hu, ha⟩ := Option.bind_eq_some_iff.1 hparse
  obtain ⟨hs, hhost⟩ := Url.host_of_parse? hhttps hu
  refine ⟨u, ?_, hs, ha⟩
  rw [baseUrl, htext, hu]
  exact if_pos hhost

/-- A text with a scheme of the web, with blanks around it, gives a base URL that goes where the
text goes as a URL, or none if the text is none, as long as something else than slashes stands
behind the scheme and what is trimmed off keeps the host. If it does not, the base URL goes where
the trimmed text goes. Behind nothing but slashes the scheme itself becomes the host, where the text
has none. -/
theorem baseUrl_of_scheme (config : RegistryConfig) {before scheme rest after : List Char}
    (hscheme : Url.IsWebScheme scheme) (hbefore : ∀ c ∈ before, isBlank c = true)
    (hafter : ∀ c ∈ after, isBlank c = true)
    (hurl : config.url.toList = before ++ (scheme ++ "://".toList ++ rest) ++ after) :
    (kept rest ≠ [] →
      config.ReadsHost (scheme ++ "://".toList ++ kept rest) ∧
        (KeepsHost rest → config.ReadsHost (scheme ++ "://".toList ++ rest))) ∧
    (kept rest = [] →
      (∃ u, config.baseUrl = .ok u ∧ u.scheme = "https".toList ∧
        u.authority = some ⟨[], [], .name (scheme.map Char.toLower), none⟩) ∧
        (KeepsHost rest → Url.parse? (scheme ++ "://".toList ++ rest) = none)) := by
  refine ⟨fun hkept => ?_, fun hkept => ⟨?_, fun hkeeps => ?_⟩⟩
  · have htext := schemedText_of_kept hscheme hbefore hafter hurl hkept
    exact ⟨readsHost_of_authorityText hscheme htext rfl, fun hkeeps =>
      readsHost_of_authorityText hscheme htext (authorityText_kept hkeeps)⟩
  · exact baseUrl_of_scheme_colon hscheme
      (schemedText_of_kept_nil hscheme hbefore hafter hurl hkept)
  · -- Nothing is left where the host should stand.
    have hauthority := Url.authority_parse? hscheme rest
    rw [authorityText_kept hkeeps, hkept] at hauthority
    rw [Option.eq_none_iff_forall_not_mem]
    intro u hu
    have hu : Url.parse? (scheme ++ "://".toList ++ rest) = some u := hu
    have hhost := (Url.host_of_parse? hscheme hu).2
    rw [hu, Option.bind_some] at hauthority
    rw [Url.host?, hauthority] at hhost
    cases hhost

/-- A user, a port that need not be written, a path and blanks around the text. -/
theorem baseUrl_of_scheme_team :
    let config : RegistryConfig := { url := " HTTP://user@registry.test:80/team//\t" }
    config.ReadsHost "HTTP://user@registry.test:80/team//".toList ∧
      config.baseUrl.toOption.map Url.render = some "http://user@registry.test/team" :=
  ⟨((@baseUrl_of_scheme _ [' '] "HTTP".toList "user@registry.test:80/team//".toList ['\t']
      (.inl (by decide +kernel)) (forall_mem_of_all (by decide)) (forall_mem_of_all (by decide))
      (by decide +kernel)).1
      (by decide +kernel)).2 (keepsHost_of_forall (forall_mem_of_all (by decide +kernel))),
    by decide +kernel⟩

/-- Three texts without a host, of which the first two have nothing but slashes behind the scheme
and the last one a blank in front of its slash. The base URL has a host for each of them. -/
theorem baseUrl_without_host :
    let host (url : String) : Option String :=
      ({ url } : RegistryConfig).baseUrl.toOption.bind Url.hostText?
    (Url.parse? "https://".toList = none ∧ host "https://" = some "https") ∧
    (Url.parse? "http:///".toList = none ∧ host "http:///" = some "http") ∧
    (Url.parse? "http://registry.test /".toList = none ∧
      host "http://registry.test /" = some "registry.test") := by
  decide +kernel

end ImageSync.RegistryConfig
