import ImageSync.Proofs.Url.Cleaning

/-!
# `ImageSync.Proofs.Url.WebUrl`: URLs that name a plain domain

A URL of the web that is written with a scheme, a domain name in ASCII, maybe a port, and maybe
a path is read part by part: no part has a character that would end it early or start another
one. `IsDomain`, `IsPort` and `IsPath` say what the parts are made of.

The main statement is `parse?_webText`: the URL has the scheme and the domain in small letters,
the port unless it is the default one, and no user, query or fragment. Its steps follow the
reader: nothing is dropped from the text (`cleaned_eq`), the scheme is cut off
(`cutScheme?_append`), there is no mark in the rest (`cutMark_of_not_mem`), and then the user
(`cutUser?_of_not_mem`), the host (`cutHost_append`, `Host.read?_of_isDomain`) and the port
(`readPort?_append`) are read.
-/

set_option autoImplicit false

namespace ImageSync.Url

open Text

/-! ### Parts of a URL -/

/-- Whether a character may stand in a domain name in ASCII. -/
def isDomainChar (c : Char) : Bool := c.isAlphanum || c == '-' || c == '.'

/-- A domain name in ASCII that needs no other form than small letters, and is no address. -/
structure IsDomain (name : List Char) : Prop where
  nonempty : name ≠ []
  chars : ∀ c ∈ name, isDomainChar c = true
  plain : Domain.isPlain (name.map Char.toLower) = true
  noAddress : endsInNumber (name.map Char.toLower) = false

/-- The number that digits write. -/
def portNumber (digits : List Char) : Nat := Nat.ofDigitChars 10 digits 0

/-- Digits that are a port. -/
structure IsPort (digits : List Char) : Prop where
  nonempty : digits ≠ []
  chars : ∀ c ∈ digits, c.isDigit = true
  bounded : portNumber digits ≤ 65535

/-- A path behind a host: nothing, or a text from a slash on without query and fragment. -/
structure IsPath (path : List Char) : Prop where
  starts : ∀ c, path.head? = some c → c = '/'
  chars : ∀ c ∈ path, isEdge c = false ∧ c ≠ '#' ∧ c ≠ '?'

/-- A port behind a host. -/
def portText : Option (List Char) → List Char
  | some digits => ':' :: digits
  | none => []

/-- The port of a URL with a scheme: only if it is not the default one. -/
def portOf? (scheme : List Char) : Option (List Char) → Option Nat
  | some digits =>
    if defaultPort? scheme = some (portNumber digits) then none else some (portNumber digits)
  | none => none

/-- What is written behind the slashes of a scheme. -/
def placeText (name : List Char) (port : Option (List Char)) (path : List Char) : List Char :=
  name ++ (portText port ++ path)

/-- A URL with a scheme, a host, a port and a path. -/
def webText (scheme name : List Char) (port : Option (List Char)) (path : List Char) :
    List Char :=
  scheme ++ ':' :: ("//".toList ++ placeText name port path)

/-! ### Characters -/

section Characters

variable {c : Char}

/-- The characters of a domain are ASCII characters. -/
theorem toNat_lt_of_isDomainChar (h : isDomainChar c = true) : c.toNat < 128 := by
  simp only [isDomainChar, Bool.or_eq_true, beq_iff_eq] at h
  obtain (h | rfl) | rfl := h
  · exact toNat_lt_of_isAlphanum h
  · decide
  · decide

/-- What holds of all characters of domain names can be looked up. -/
theorem isDomainChar_induction {p : Char → Prop}
    (hp : ∀ n < 128, isDomainChar (Char.ofNat n) = true → p (Char.ofNat n))
    (h : isDomainChar c = true) : p c := by
  have hc := hp c.toNat (toNat_lt_of_isDomainChar h)
  rw [Char.ofNat_toNat] at hc
  exact hc h

/-- Letters and digits are characters of a domain. -/
theorem isDomainChar_of_isAlphanum (h : c.isAlphanum = true) : isDomainChar c = true := by
  rw [isDomainChar, h]
  rfl

/-- A character is one of a domain name if its small letter is. -/
theorem isDomainChar_of_toLower (h : isDomainChar c.toLower = true) : isDomainChar c = true := by
  by_cases hupper : c.isUpper = true
  · have hletter : c.isAlphanum = true := by
      change (c.isUpper || c.isLower || c.isDigit) = true
      rw [hupper]
      rfl
    exact isDomainChar_of_isAlphanum hletter
  · -- Only capital letters have another small letter.
    have hsame : c.toLower = c := dif_neg fun hrange => hupper (decide_eq_true hrange)
    rwa [hsame] at h

/-- A sign that is no character of a domain is none of its characters. -/
theorem ne_of_isDomainChar {d : Char} (hd : isDomainChar d = false) (h : isDomainChar c = true) :
    c ≠ d := by
  rintro rfl
  rw [hd] at h
  cases h

/-- A character that is taken as it is, and that marks no other part of a URL. -/
structure PlainChar (c : Char) : Prop where
  edge : isEdge c = false
  blank : isBlank c = false
  separator : isSeparator .web c = false
  allowed : isDenied c.toLower = false
  fragment : c ≠ '#'
  query : c ≠ '?'
  user : c ≠ '@'
  colon : c ≠ ':'
  bracket : c ≠ '['
  escape : c ≠ '%'

/-- The characters of a domain have no meaning of their own in a URL. -/
theorem plainChar_of_isDomainChar (h : isDomainChar c = true) : PlainChar c where
  edge := isDomainChar_induction (p := fun c => isEdge c = false) (by decide +kernel) h
  blank := isDomainChar_induction (p := fun c => isBlank c = false) (by decide +kernel) h
  separator :=
    isDomainChar_induction (p := fun c => isSeparator .web c = false) (by decide +kernel) h
  allowed := isDomainChar_induction (p := fun c => isDenied c.toLower = false) (by decide +kernel) h
  fragment := ne_of_isDomainChar rfl h
  query := ne_of_isDomainChar rfl h
  user := ne_of_isDomainChar rfl h
  colon := ne_of_isDomainChar rfl h
  bracket := ne_of_isDomainChar rfl h
  escape := ne_of_isDomainChar rfl h

/-- Digits, of which a port consists, are characters of a domain, too. -/
theorem isDomainChar_of_isDigit (h : c.isDigit = true) : isDomainChar c = true := by
  refine isDomainChar_of_isAlphanum ?_
  rw [Char.isAlphanum, h, Bool.or_true]

end Characters

/-! ### Hosts -/

/-- The host of a URL is that of its authority, if there is one. -/
theorem host?_eq_name {u : Url} {a : Authority} {text : List Char} (hu : u.authority = some a)
    (ha : a.host = .name text) (htext : text ≠ []) : u.host? = some (.name text) := by
  have hnonempty : (Host.name text).isEmpty = false := List.isEmpty_eq_false_iff.2 htext
  rw [host?, hu, Option.map_some, ha, Option.filter_some, hnonempty]
  rfl

/-! ### The text -/

/-- A scheme is cut off at its colon. -/
theorem cutScheme?_append {scheme : List Char} (hfirst : scheme.head?.any Char.isAlpha = true)
    (hscheme : ∀ c ∈ scheme, isSchemeChar c = true) (rest : List Char) :
    cutScheme? (scheme ++ ':' :: rest) = some (scheme.map Char.toLower, rest) := by
  have hspan : (scheme ++ ':' :: rest).takeWhile isSchemeChar = scheme ∧
      (scheme ++ ':' :: rest).dropWhile isSchemeChar = ':' :: rest :=
    span_eq hscheme fun c hc => by
      cases hc
      rfl
  have hhead : (scheme ++ ':' :: rest).head?.any Char.isAlpha = true := by
    cases scheme with
    | nil => cases hfirst
    | cons c r => exact hfirst
  rw [cutScheme?, if_pos hhead, hspan.1, hspan.2]
  rfl

/-! ### The user, the host and the port -/

section Authority

variable {kind : SchemeKind} {name digits path : List Char}

/-- Without a sign for it in front of the path there is no user. -/
theorem Reference.cutUser?_of_not_mem (r : Reference) {place : List Char}
    (hplace : ∀ c ∈ place, isSeparator kind c = false ∧ c ≠ '@')
    (hpath : ∀ c, path.head? = some c → isSeparator kind c = true) :
    r.cutUser? kind (place ++ path) = some ([], [], place ++ path) := by
  have hregion : (place ++ path).takeWhile (fun c => !isSeparator kind c) = place :=
    (span_eq (fun c hc => by rw [(hplace c hc).1]; rfl) fun c hc => by rw [hpath c hc]; rfl).1
  -- The reader looks for the last sign, so it looks from the end.
  have hsign : '@' ∉ place.reverse := fun hmem =>
    (hplace '@' (List.mem_reverse.1 hmem)).2 rfl
  simp only [cutUser?, hregion, cutFirst?_eq_none hsign]

/-- The text of a host ends at a colon or a separator. -/
theorem Reference.cutHost_append {rest : List Char}
    (hname : ∀ c ∈ name, isSeparator kind c = false ∧ c ≠ ':' ∧ c ≠ '[')
    (hrest : ∀ c, rest.head? = some c → c = ':' ∨ isSeparator kind c = true) :
    cutHost kind false (name ++ rest) = (name, rest) := by
  -- By induction on the name. None of its characters opens a bracket, so the first colon ends it.
  induction name with
  | nil =>
    cases rest with
    | nil => rfl
    | cons c r =>
      have hc : ((c == ':' && !false) || isSeparator kind c) = true := by
        rcases hrest c rfl with rfl | hc
        · rfl
        · rw [hc, Bool.or_true]
      rw [List.nil_append, cutHost, if_pos hc]
  | cons c name ih =>
    obtain ⟨⟨hsep, hcolon, hbracket⟩, hname⟩ := List.forall_mem_cons.1 hname
    have hc : ((c == ':' && !false) || isSeparator kind c) = false := by
      rw [hsep, beq_eq_false_iff_ne.2 hcolon]
      rfl
    have hopen : (if c == '[' then true else c != ']' && false) = false := by
      rw [beq_eq_false_iff_ne.2 hbracket, Bool.and_false]
      rfl
    rw [List.cons_append, cutHost, hc, hopen, ih hname]
    rfl

/-- A text in ASCII without escapes is decoded as it is. -/
theorem decodedText?_ascii {cs : List Char} (h : ∀ c ∈ cs, c.toNat < 128 ∧ c ≠ '%') :
    decodedText? cs = some cs := by
  -- An ASCII character is encoded as one byte.
  have hbytes : percentDecode cs = cs.map fun c => UInt8.ofNat c.toNat := by
    induction cs with
    | nil => rfl
    | cons c r ih =>
      obtain ⟨⟨hc, hescape⟩, hr⟩ := List.forall_mem_cons.1 h
      have hbyte : String.utf8EncodeChar c = [UInt8.ofNat c.toNat] := by
        have hle : c.val.toNat ≤ 127 := Nat.le_of_lt_succ hc
        rw [String.utf8EncodeChar]
        simp only [hle, if_pos]
        rfl
      rw [percentDecode, ih hr, hbyte]
      · rfl
      · rintro a b r rfl rfl
        exact hescape rfl
  have hascii : ∀ c ∈ cs, (UInt8.ofNat c.toNat).toNat = c.toNat := by
    intro c hc
    rw [UInt8.toNat_ofNat']
    exact Nat.mod_eq_of_lt (Nat.lt_trans (h c hc).1 (by decide))
  have hsmall : ∀ b ∈ cs.map (fun c => UInt8.ofNat c.toNat), b.toNat < 0x80 := by
    intro b hb
    obtain ⟨c, hc, rfl⟩ := List.mem_map.1 hb
    rw [hascii c hc]
    exact (h c hc).1
  rw [decodedText?, hbytes, decodeUtf8?_ascii hsmall, List.map_map]
  congr 1
  refine (List.map_congr_left fun c hc => ?_).trans (List.map_id cs)
  show Char.ofNat (UInt8.ofNat c.toNat).toNat = c
  rw [hascii c hc, Char.ofNat_toNat]

/-- The host of a plain domain name is the name in small letters. -/
theorem Host.read?_of_isDomain (h : IsDomain name) :
    Host.read? name = some (.name (name.map Char.toLower)) := by
  have hchars := fun c hc => plainChar_of_isDomainChar (h.chars c hc)
  have hdecoded : decodedText? name = some name := decodedText?_ascii fun c hc =>
    ⟨toNat_lt_of_isDomainChar (h.chars c hc), (hchars c hc).escape⟩
  have hallowed : (name.map Char.toLower).any isDenied = false := by
    rw [List.any_eq_false]
    intro d hd
    obtain ⟨c, hc, rfl⟩ := List.mem_map.1 hd
    exact Bool.not_eq_true _ ▸ (hchars c hc).allowed
  have hdomain := asciiDomain?_of_plain h.plain hallowed
  have hnonempty : (name.map Char.toLower).isEmpty = false := by
    rw [List.isEmpty_eq_false_iff]
    exact fun hnil => h.nonempty (List.map_eq_nil_iff.1 hnil)
  rw [read?]
  · simp only [hdecoded, hdomain, Option.bind_eq_bind, Option.bind_some, hnonempty, h.noAddress]
    rfl
  · rintro r rfl
    exact (hchars '[' List.mem_cons_self).bracket rfl

/-- Behind the colon of a port there are digits. -/
theorem portText_chars {port : Option (List Char)} (hport : ∀ digits ∈ port, IsPort digits) :
    ∀ c ∈ portText port, isDomainChar c = true ∨ c = ':' := by
  intro c hc
  cases port with
  | none => cases hc
  | some digits =>
    rcases List.mem_cons.1 hc with rfl | hc
    · exact .inr rfl
    · exact .inl (isDomainChar_of_isDigit ((hport digits rfl).chars c hc))

/-- A port ends with its digits. -/
theorem Reference.readPort?_append (scheme : List Char) (hport : IsPort digits)
    (hpath : IsPath path) :
    readPort? scheme (digits ++ path) = some (portOf? scheme (some digits), path) := by
  have hspan : (digits ++ path).takeWhile Char.isDigit = digits :=
    (span_eq hport.chars fun c hc => by
      rw [hpath.starts c hc]
      rfl).1
  have hnumber : digits.foldl (fun n c => n * 10 + (c.toNat - '0'.toNat)) 0 =
      portNumber digits := by
    simp only [portNumber, Nat.ofDigitChars, Nat.mul_comm]
  -- Behind the digits there is a path or nothing, and that is where a port may end.
  have hhead : (path.head?.any fun c => c != '/' && c != '\\') = false := by
    cases hpath' : path.head? with
    | none => rfl
    | some c =>
      rw [hpath.starts c hpath']
      rfl
  simp only [readPort?, hspan, List.drop_left, hnumber, hhead]
  rw [if_neg (Nat.not_lt.2 hport.bounded), List.isEmpty_eq_false_iff.2 hport.nonempty]
  by_cases hdefault : defaultPort? scheme = some (portNumber digits)
  · simp [portOf?, hdefault]
  · simp [portOf?, hdefault]

/-- An authority without a user is read part by part. -/
theorem Reference.withAuthority?_placeText (r : Reference) {scheme : List Char}
    {port : Option (List Char)} (hscheme : schemeKind scheme = .web) (hname : IsDomain name)
    (hport : ∀ digits ∈ port, IsPort digits) (hpath : IsPath path) :
    r.withAuthority? scheme (placeText name port path) =
      some (r.complete scheme
        (some ⟨[], [], .name (name.map Char.toLower), portOf? scheme port⟩)
        (.segments (rootedPath .web path))) := by
  have hchars := fun c hc => plainChar_of_isDomainChar (hname.chars c hc)
  have hslash : ∀ c, path.head? = some c → isSeparator .web c = true := fun c hc => by
    rw [hpath.starts c hc]
    rfl
  -- No at sign stands in front of the path, so there is no user.
  have hplace : ∀ c ∈ name ++ portText port, isSeparator .web c = false ∧ c ≠ '@' := by
    intro c hc
    rcases List.mem_append.1 hc with hc | hc
    · exact ⟨(hchars c hc).separator, (hchars c hc).user⟩
    · rcases portText_chars hport c hc with h | rfl
      · have hplain := plainChar_of_isDomainChar h
        exact ⟨hplain.separator, hplain.user⟩
      · decide
  have huser : r.cutUser? .web (placeText name port path) =
      some ([], [], placeText name port path) := by
    rw [placeText, ← List.append_assoc]
    exact r.cutUser?_of_not_mem hplace hslash
  have hhost : cutHost .web false (placeText name port path) = (name, portText port ++ path) := by
    refine cutHost_append (fun c hc => ?_) fun c hc => ?_
    · exact ⟨(hchars c hc).separator, (hchars c hc).colon, (hchars c hc).bracket⟩
    · cases port with
      | none => exact .inr (hslash c hc)
      | some digits =>
        cases hc
        exact .inl rfl
  have hnonempty : (Host.name (name.map Char.toLower)).isEmpty = false := by
    rw [Host.isEmpty, List.isEmpty_eq_false_iff]
    exact fun hnil => hname.nonempty (List.map_eq_nil_iff.1 hnil)
  have hread := Host.read?_of_isDomain hname
  -- With the scheme known, the reader is opened one part after the other.
  rw [withAuthority?, hscheme]
  dsimp only [bind]
  rw [huser, Option.bind_some]
  dsimp only
  rw [hhost]
  dsimp only
  rw [if_neg SchemeKind.noConfusion, hread, Option.bind_some, hnonempty]
  -- A port is read only behind a colon, and a path does not start with one.
  cases port with
  | none =>
    cases path with
    | nil => rfl
    | cons c path =>
      obtain rfl := hpath.starts c rfl
      rfl
  | some digits =>
    have hport := readPort?_append scheme (hport digits rfl) hpath
    change (readPort? scheme (digits ++ path)).bind _ = _
    rw [hport]
    rfl

end Authority

/-! ### URLs -/

section Text

variable {scheme name path : List Char} {port : Option (List Char)}

/-- The schemes of the web that registries are reached by. -/
def IsWebScheme (scheme : List Char) : Prop :=
  scheme.map Char.toLower = "http".toList ∨ scheme.map Char.toLower = "https".toList

/-- A web scheme, in small letters, is of the kind of web URLs. -/
theorem IsWebScheme.schemeKind_eq (h : IsWebScheme scheme) :
    schemeKind (scheme.map Char.toLower) = .web := by
  rcases h with h | h <;> rw [h] <;> decide

/-- The characters of a web scheme could be those of a domain. -/
theorem IsWebScheme.chars (h : IsWebScheme scheme) : ∀ c ∈ scheme, isDomainChar c = true := by
  have hlower : (scheme.map Char.toLower).all isDomainChar = true := by
    rcases h with h | h <;> rw [h] <;> decide
  exact fun c hc =>
    isDomainChar_of_toLower (List.all_eq_true.1 hlower _ (List.mem_map_of_mem hc))

/-- A web scheme starts with a letter, in small or capital letters. -/
theorem IsWebScheme.starts (h : IsWebScheme scheme) :
    scheme.head?.any Char.isAlpha = true := by
  have hhead : (scheme.map Char.toLower).head? = some 'h' := by
    rcases h with h' | h' <;> rw [h'] <;> rfl
  have hchars := h.chars
  cases scheme with
  | nil => cases hhead
  | cons c r =>
    -- That the small letter is a letter has to be turned into that of the character itself.
    have hc : c.toLower = 'h' → c.isAlpha = true :=
      isDomainChar_induction (p := fun c => c.toLower = 'h' → c.isAlpha = true)
        (by decide +kernel) (hchars c List.mem_cons_self)
    exact hc (Option.some.inj hhead)

variable (hscheme : IsWebScheme scheme) (hname : IsDomain name)
  (hport : ∀ digits ∈ port, IsPort digits) (hpath : IsPath path)

section Marks

include hname hport hpath

/-- Every character behind the scheme stays, and none is the mark of a query or a fragment. -/
theorem placeText_chars :
    ∀ c ∈ placeText name port path, isEdge c = false ∧ c ≠ '#' ∧ c ≠ '?' := by
  have hplain : ∀ c, isDomainChar c = true → isEdge c = false ∧ c ≠ '#' ∧ c ≠ '?' := fun c hc =>
    have h := plainChar_of_isDomainChar hc
    ⟨h.edge, h.fragment, h.query⟩
  intro c hc
  rcases List.mem_append.1 hc with hc | hc
  · exact hplain c (hname.chars c hc)
  · rcases List.mem_append.1 hc with hc | hc
    · rcases portText_chars hport c hc with h | rfl
      · exact hplain c h
      · decide
    · exact hpath.chars c hc

end Marks

include hscheme hname hport hpath

/-- Of the text, the scheme is cut off. -/
theorem read_webText : Reference.read (webText scheme name port path) =
    ⟨some (scheme.map Char.toLower), "//".toList ++ placeText name port path, none, none⟩ := by
  have hchars : ∀ c ∈ ':' :: ("//".toList ++ placeText name port path),
      isEdge c = false ∧ c ≠ '#' ∧ c ≠ '?' := by
    have hplace := placeText_chars hname hport hpath
    have hslashes : ∀ c ∈ "//".toList, isEdge c = false ∧ c ≠ '#' ∧ c ≠ '?' := by
      intro c hc
      obtain rfl : c = '/' := by simpa using hc
      decide
    exact List.forall_mem_cons.2 ⟨by decide, List.forall_mem_append.2 ⟨hslashes, hplace⟩⟩
  -- Nothing is dropped, for no character is a blank or a control character.
  have hclean : cleaned (webText scheme name port path) = webText scheme name port path := by
    refine cleaned_eq (List.forall_mem_append.2 ⟨fun c hc => ?_, fun c hc => (hchars c hc).1⟩)
    exact (plainChar_of_isDomainChar (hscheme.chars c hc)).edge
  have hcut : cutScheme? (webText scheme name port path) =
      some (scheme.map Char.toLower, "//".toList ++ placeText name port path) := by
    refine cutScheme?_append hscheme.starts (fun c hc => ?_) _
    exact isDomainChar_induction (p := fun c => isSchemeChar c = true) (by decide +kernel)
      (hscheme.chars c hc)
  have hfragment : '#' ∉ "//".toList ++ placeText name port path := fun hmem =>
    (hchars '#' (List.mem_cons_of_mem _ hmem)).2.1 rfl
  have hquery : '?' ∉ "//".toList ++ placeText name port path := fun hmem =>
    (hchars '?' (List.mem_cons_of_mem _ hmem)).2.2 rfl
  simp only [Reference.read, hclean, hcut, cutMark_of_not_mem hfragment,
    cutMark_of_not_mem hquery]

/-- A text with a scheme, a domain name, a port and a path is read part by part. -/
theorem parse?_webText :
    parse? (webText scheme name port path) =
      some ⟨scheme.map Char.toLower,
        some ⟨[], [], .name (name.map Char.toLower), portOf? (scheme.map Char.toLower) port⟩,
        .segments (Reference.rootedPath .web path), none, none⟩ := by
  have hslashes : ("//".toList ++ placeText name port path).takeWhile Reference.isSlash =
      "//".toList := by
    refine (span_eq (List.all_eq_true.1 (by decide)) fun c hc => ?_).1
    -- The first character is one of the name.
    have hmem : c ∈ name := by
      cases hparts : name with
      | nil => exact absurd hparts hname.nonempty
      | cons d r =>
        rw [hparts] at hc
        cases hc
        exact List.mem_cons_self
    have hplain := (plainChar_of_isDomainChar (hname.chars c hmem)).separator
    simpa [isSeparator, Reference.isSlash] using hplain
  rw [parse?, read_webText hscheme hname hport hpath, Reference.resolve?]
  simp only [hscheme.schemeKind_eq, Option.filter_none, hslashes, List.drop_left]
  rw [Reference.withAuthority?_placeText _ hscheme.schemeKind_eq hname hport hpath]
  rfl

end Text

end ImageSync.Url
