import SentryWms.Webhook.UrlNormalize

/-!
# The spellings of one endpoint

A delivery URL is spelled out from a scheme, user information, a host, a port, a path, a
query and a fragment. Its canonical form identifies the spellings of one endpoint, except
that it loses the brackets of an IPv6 address and all the slashes at the end of a path.
-/

namespace SentryWms.Webhook

open Relational Urllib Urllib.SplitResult

/-! ## Spellings -/

/-- The characters that end or divide a network location. -/
def netlocStops : List Char := ['/', '?', '#', '@', ':', '[', ']']

/-- The host of a URL: a DNS name or an IPv4 address, or an IPv6 address that stands in
brackets. -/
inductive Host where
  | name (text : Text) (nonempty : text ≠ []) (plain : Plain netlocStops text)
      (ascii : text.all (·.toNat < 128) = true)
  | address (text : Text) (plain : Plain ['/', '?', '#', '@', '[', ']'] text)
      (ascii : text.all (·.toNat < 128) = true) (colons : 2 ≤ text.count ':')

namespace Host

/-- The host as a URL spells it. -/
def text : Host → Text
  | .name text _ _ _ => text
  | .address text _ _ _ => '[' :: (text ++ [']'])

/-- The host without brackets. -/
def inner : Host → Text
  | .name text _ _ _ => text
  | .address text _ _ _ => text

def isAddress : Host → Bool
  | .name _ _ _ _ => false
  | .address _ _ _ _ => true

end Host

/-- An http or https URL, as it is spelled. -/
structure Spelling where
  scheme : Text
  isHttp : lower scheme = "http".toList ∨ lower scheme = "https".toList
  userinfo : Option Text
  userinfoPlain : ∀ text ∈ userinfo, Plain ['/', '?', '#', '[', ']'] text
  userinfoAscii : ∀ text ∈ userinfo, text.all (·.toNat < 128) = true
  host : Host
  port : Option Text
  portDigits : ∀ text ∈ port, text.all Char.isDigit = true
  portRange : ∀ text ∈ port, Nat.ofDigitChars 10 text 0 ≤ 65535
  path : Text
  pathPlain : Plain ['?', '#'] path
  pathSlash : ∀ char ∈ path.head?, char = '/'
  query : Option Text
  queryPlain : ∀ text ∈ query, Plain ['#'] text
  fragment : Option Text
  fragmentPlain : ∀ text ∈ fragment, Plain [] text

namespace Spelling

def text (url : Spelling) : Text :=
  written url.scheme (writtenNetloc url.userinfo url.host.text url.port) url.path url.query
    url.fragment

def portNumber (url : Spelling) : Option ℕ :=
  match url.port with
  | none => none
  | some [] => none
  | some (digit :: digits) => some (Nat.ofDigitChars 10 (digit :: digits) 0)

/-- The port that a request goes to. -/
def effectivePort (url : Spelling) : Option ℕ :=
  url.portNumber.or (defaultPort (lower url.scheme))

/-- Two URLs are the same but for their paths: they may differ in the case of the scheme
and the host, in a default port that one of them spells out, and in the fragment. -/
structure SameButPath (left right : Spelling) : Prop where
  scheme : lower left.scheme = lower right.scheme
  userinfo : left.userinfo = right.userinfo
  host : lower left.host.text = lower right.host.text
  port : left.effectivePort = right.effectivePort
  query : left.query.getD [] = right.query.getD []

/-- Two URLs are spellings of one endpoint: their paths differ in a slash at the end. -/
def SameEndpoint (left right : Spelling) : Prop :=
  SameButPath left right ∧ slashless left.path = slashless right.path

/-- Two URLs differ in more than their spelling. -/
def Differ (left right : Spelling) : Prop :=
  lower left.host.text ≠ lower right.host.text ∨ left.effectivePort ≠ right.effectivePort ∨
    slashless left.path ≠ slashless right.path ∨ left.query.getD [] ≠ right.query.getD []

/-- Two URLs differ only in how many slashes end their paths, and one ends with two. -/
structure DifferInSlashes (left right : Spelling) : Prop where
  same : SameButPath left right
  path : rstripSlashes left.path = rstripSlashes right.path
  count : slashesAtEnd left.path ≠ slashesAtEnd right.path
  two : 2 ≤ slashesAtEnd left.path ∨ 2 ≤ slashesAtEnd right.path

end Spelling

/-! ## What the claims of the canonical form are -/

/-- The canonical form identifies exactly the spellings of one endpoint, among the given
URLs and the tombstones that they left. -/
structure Identifies (checks : Checks) (urls : List Spelling) : Prop where
  idempotent : ∀ url ∈ urls, ∃ canonical,
    canonicalizeDeliveryUrl checks url.text = .ok canonical ∧
      canonicalizeDeliveryUrl checks canonical = .ok canonical
  same : ∀ left ∈ urls, ∀ right ∈ urls, left.SameEndpoint right →
    canonicalizeDeliveryUrl checks left.text = canonicalizeDeliveryUrl checks right.text
  differ : ∀ left ∈ urls, ∀ right ∈ urls, left.Differ right →
    canonicalizeDeliveryUrl checks left.text ≠ canonicalizeDeliveryUrl checks right.text
  fires : ∀ (tombstones : Table UrlTombstone) (source : ℕ → Spelling),
    (∀ entry ∈ tombstones.entries, source entry.1 ∈ urls ∧
      canonicalizeDeliveryUrl checks (source entry.1).text =
        .ok entry.2.deliveryUrlCanonical) →
    ∀ url ∈ urls, ∀ canonical, canonicalizeDeliveryUrl checks url.text = .ok canonical →
      ∀ acknowledge,
        (checkUrlTombstone tombstones canonical acknowledge ≠ .passed none ↔
          ∃ entry ∈ tombstones.entries, entry.2.acknowledgedAt = none ∧
            url.SameEndpoint (source entry.1))

/-! ## Reading a spelling -/

section Reading

variable {checks : Checks}

theorem isHttp_alpha {scheme : Text}
    (hhttp : lower scheme = "http".toList ∨ lower scheme = "https".toList) :
    scheme ≠ [] ∧ ∀ char ∈ scheme, char.isAlpha = true := by
  constructor
  · rintro rfl
    rcases hhttp with hlower | hlower <;> simp [SplitResult.lower] at hlower
  · rcases hhttp with hlower | hlower <;> exact isAlpha_of_lower hlower (by simp)

theorem toNat_of_isDigit {char : Char} (hdigit : char.isDigit = true) :
    48 ≤ char.toNat ∧ char.toNat ≤ 57 := by
  simp only [Char.isDigit, Bool.and_eq_true, decide_eq_true_eq, ge_iff_le,
    UInt32.le_iff_toNat_le] at hdigit
  have hval : char.toNat = char.val.toNat := rfl
  have hzero : '0'.val.toNat = 48 ∧ '9'.val.toNat = 57 := ⟨rfl, rfl⟩
  omega

theorem plain_of_digits {digits : Text} (hdigits : digits.all Char.isDigit = true) :
    Plain netlocStops digits := by
  intro char hchar
  have hrange := toNat_of_isDigit (List.all_eq_true.mp hdigits char hchar)
  have hne : ∀ other : Char, other.toNat < 48 ∨ 57 < other.toNat → char ≠ other := by
    rintro other hother rfl
    omega
  constructor
  · simp [isUnsafe, hne '\t' (by decide), hne '\r' (by decide), hne '\n' (by decide)]
  · simp [netlocStops, hne '/' (by decide), hne '?' (by decide), hne '#' (by decide),
      hne '@' (by decide), hne ':' (by decide), hne '[' (by decide), hne ']' (by decide)]

theorem ascii_of_digits {digits : Text} (hdigits : digits.all Char.isDigit = true) :
    digits.all (·.toNat < 128) = true := by
  rw [List.all_eq_true] at hdigits ⊢
  intro char hchar
  have hrange := toNat_of_isDigit (hdigits char hchar)
  simp only [decide_eq_true_eq]
  omega

variable {userinfo port : Option Text} {host : Text}

theorem plain_writtenNetloc {stops : List Char} (hstops : stops ⊆ ['/', '?', '#', '[', ']'])
    (huserinfo : ∀ text ∈ userinfo, Plain ['/', '?', '#', '[', ']'] text)
    (hhost : Plain stops host) (hport : ∀ text ∈ port, text.all Char.isDigit = true) :
    Plain stops (writtenNetloc userinfo host port) := by
  have hseparator : ∀ char, isUnsafe char = false → char ∉ ['/', '?', '#', '[', ']'] →
      Plain stops [char] := by
    intro char hsafe hother stop hstop
    rw [List.mem_singleton.mp hstop]
    exact ⟨hsafe, fun hmem => hother (hstops hmem)⟩
  apply Plain.append
  · cases userinfo with
    | none => exact Plain.nil _
    | some userinfo =>
        exact ((huserinfo userinfo rfl).mono hstops).append (hseparator '@' rfl (by decide))
  · apply hhost.append
    cases port with
    | none => exact Plain.nil _
    | some digits =>
        have hdigits := (plain_of_digits (hport digits rfl)).mono
          (List.Subset.trans hstops (by decide))
        exact (hseparator ':' rfl (by decide)).append hdigits

theorem ascii_writtenNetloc (huserinfo : ∀ text ∈ userinfo, text.all (·.toNat < 128) = true)
    (hhost : host.all (·.toNat < 128) = true)
    (hport : ∀ text ∈ port, text.all Char.isDigit = true) :
    (writtenNetloc userinfo host port).all (·.toNat < 128) = true := by
  have hfirst : ((userinfo.map (· ++ ['@'])).getD []).all (·.toNat < 128) = true := by
    cases userinfo with
    | none => rfl
    | some userinfo => simpa using huserinfo userinfo rfl
  have hlast : ((port.map (':' :: ·)).getD []).all (·.toNat < 128) = true := by
    cases port with
    | none => rfl
    | some digits => simpa using ascii_of_digits (hport digits rfl)
  rw [writtenNetloc, List.all_append, List.all_append, hfirst, hhost, hlast]
  rfl

theorem checkBrackets_writtenNetloc
    (huserinfo : ∀ text ∈ userinfo, Plain ['/', '?', '#', '[', ']'] text)
    (hhost : Plain ['[', ']'] host) (hport : ∀ text ∈ port, text.all Char.isDigit = true) :
    checkBrackets checks (writtenNetloc userinfo host port) = .ok () := by
  have hplain : Plain ['[', ']'] (writtenNetloc userinfo host port) :=
    plain_writtenNetloc (by decide) huserinfo hhost hport
  have hopen : (writtenNetloc userinfo host port).contains '[' = false := by
    simpa using hplain.not_mem (by simp : '[' ∈ ['[', ']'])
  have hclose : (writtenNetloc userinfo host port).contains ']' = false := by
    simpa using hplain.not_mem (by simp : ']' ∈ ['[', ']'])
  rw [checkBrackets, hopen, hclose]

/-! ## The canonical spelling -/

namespace Host

def lowered : Host → Host
  | .name text nonempty plain ascii =>
      .name (lower text) (by simpa using nonempty) (plain.lower (by simp [netlocStops]))
        (ascii_lower ascii)
  | .address text plain ascii colons =>
      .address (lower text) (plain.lower (by simp)) (ascii_lower ascii)
        (colons.trans (List.count_le_count_map (f := Char.toLower) (x := ':')))

end Host

namespace Spelling

def canonicalPort (url : Spelling) : Option Text :=
  if url.portNumber.isSome ∧ defaultPort (lower url.scheme) = url.portNumber then none
  else url.portNumber.map (Nat.toDigits 10)

theorem portNumber_le (url : Spelling) : ∀ number ∈ url.portNumber, number ≤ 65535 := by
  intro number hnumber
  rw [portNumber] at hnumber
  cases hport : url.port with
  | none => simp [hport] at hnumber
  | some digits =>
      cases digits with
      | nil => simp [hport] at hnumber
      | cons digit digits =>
          have hrange := url.portRange _ hport
          simp only [hport, Option.mem_some_iff] at hnumber
          omega

theorem canonicalPort_digits (url : Spelling) :
    ∀ digits ∈ url.canonicalPort, digits.all Char.isDigit = true ∧
      Nat.ofDigitChars 10 digits 0 ≤ 65535 := by
  intro digits hdigits
  rw [canonicalPort] at hdigits
  split at hdigits
  · simp at hdigits
  · obtain ⟨number, hnumber, rfl⟩ := Option.map_eq_some_iff.mp hdigits
    constructor
    · exact List.all_eq_true.mpr fun char hchar =>
        Nat.isDigit_of_mem_toDigits (by decide) (by decide) hchar
    · rw [Nat.ofDigitChars_ten_toDigits]
      exact url.portNumber_le number hnumber

def canonical (url : Spelling) : Spelling where
  scheme := lower url.scheme
  isHttp := by simpa using url.isHttp
  userinfo := url.userinfo
  userinfoPlain := url.userinfoPlain
  userinfoAscii := url.userinfoAscii
  host := url.host.lowered
  port := url.canonicalPort
  portDigits := fun digits hdigits => (url.canonicalPort_digits digits hdigits).1
  portRange := fun digits hdigits => (url.canonicalPort_digits digits hdigits).2
  path := canonicalPath url.path
  pathPlain := canonicalPath_plain url.pathPlain (by decide)
  pathSlash := by
    intro char hchar
    rw [head?_canonicalPath url.pathSlash, Option.mem_some_iff] at hchar
    exact hchar.symm
  query := if url.query.getD [] = [] then none else url.query
  queryPlain := by
    intro text htext
    split at htext
    · simp at htext
    · exact url.queryPlain text htext
  fragment := none
  fragmentPlain := by simp

end Spelling

/-! ## What the code computes -/

namespace Spelling

variable {url : Spelling}

/-- The text that the code puts together: the host has lost its brackets. -/
def assembled (url : Spelling) : Text :=
  written (lower url.scheme) (writtenNetloc url.userinfo (lower url.host.inner)
    url.canonicalPort) (canonicalPath url.path)
    (if url.query.getD [] = [] then none else some (url.query.getD [])) none

def parts (url : Spelling) : SplitResult :=
  ⟨lower url.scheme, writtenNetloc url.userinfo url.host.text url.port, url.path,
    url.query.getD [], url.fragment.getD []⟩

theorem portPlain (url : Spelling) : ∀ text ∈ url.port, Plain ['@', '['] text :=
  fun text htext => (plain_of_digits (url.portDigits text htext)).mono (by decide)

theorem hostinfo_parts (url : Spelling) :
    url.parts.hostinfo = (url.host.inner, url.port.getD []) := by
  cases hhost : url.host with
  | name text nonempty plain ascii =>
      have hnetloc : url.parts.netloc = writtenNetloc url.userinfo text url.port := by
        rw [parts, hhost]
        rfl
      exact hostinfo_writtenNetloc hnetloc (plain.mono (by decide)) url.portPlain
  | address text plain ascii colons =>
      have hnetloc : url.parts.netloc =
          writtenNetloc url.userinfo ('[' :: (text ++ [']'])) url.port := by
        rw [parts, hhost]
        rfl
      exact hostinfo_bracketed hnetloc (plain.mono (by decide))
        fun digits hdigits => (url.portPlain digits hdigits).not_mem (by simp)

theorem rpartition_parts (url : Spelling) :
    rpartition '@' url.parts.netloc =
      (url.userinfo, url.host.text ++ (url.port.map (':' :: ·)).getD []) := by
  have hhost : '@' ∉ url.host.text := by
    cases hhost : url.host with
    | name text nonempty plain ascii => exact plain.not_mem (by decide)
    | address text plain ascii colons =>
        simpa [Host.text] using plain.not_mem (by decide : '@' ∈ ['/', '?', '#', '@', '[', ']'])
  exact rpartition_writtenNetloc hhost
    fun digits hdigits => (url.portPlain digits hdigits).not_mem (by simp)

theorem userinfoText_parts (url : Spelling) :
    userinfoText url.parts = (url.userinfo.map (· ++ ['@'])).getD [] := by
  rw [userinfoText, username, password, SplitResult.userinfo, rpartition_parts]
  cases url.userinfo with
  | none => rfl
  | some userinfo =>
      have hjoin := partition_join ':' userinfo
      cases hpassword : (partition ':' userinfo).2 with
      | none =>
          rw [hpassword] at hjoin
          simpa [hpassword] using hjoin
      | some password =>
          rw [hpassword, Option.map_some, Option.getD_some] at hjoin
          simp only [hjoin, Option.map_some, Option.getD_some]

theorem port_parts (url : Spelling) : url.parts.port = .ok url.portNumber := by
  have hinfo := url.hostinfo_parts
  cases hport : url.port with
  | none =>
      have hempty : url.parts.hostinfo.2 = [] := by rw [hinfo, hport]; rfl
      simp [SplitResult.port, hempty, portNumber, hport]
  | some digits =>
      have hdigits : url.parts.hostinfo.2 = digits := by rw [hinfo, hport]; rfl
      rw [port_of_digits (by rw [hdigits]; exact url.portDigits digits hport)
        (by rw [hdigits]; exact url.portRange digits hport), hdigits]
      cases digits <;> simp [portNumber, hport]

theorem hostPlain (url : Spelling) : Plain ['/', '?', '#'] url.host.text := by
  cases hhost : url.host with
  | name text nonempty plain ascii => exact plain.mono (by decide)
  | address text plain ascii colons =>
      have hinner : Plain ['/', '?', '#'] text := plain.mono (by decide)
      intro char hchar
      have hcases : char = '[' ∨ char ∈ text ∨ char = ']' := by
        simpa [Host.text] using hchar
      rcases hcases with rfl | hmem | rfl
      · exact ⟨rfl, by decide⟩
      · exact hinner char hmem
      · exact ⟨rfl, by decide⟩

theorem hostAscii (url : Spelling) : url.host.text.all (·.toNat < 128) = true := by
  cases hhost : url.host with
  | name text nonempty plain ascii => exact ascii
  | address text plain ascii colons => simpa [Host.text] using ascii

theorem urlsplit_text (url : Spelling) :
    urlsplit checks url.text =
      (checkBrackets checks url.parts.netloc).bind fun _ => .ok url.parts := by
  obtain ⟨hscheme, halpha⟩ := isHttp_alpha url.isHttp
  exact urlsplit_written hscheme halpha
    (plain_writtenNetloc (by decide) url.userinfoPlain url.hostPlain url.portDigits)
    (ascii_writtenNetloc url.userinfoAscii url.hostAscii url.portDigits)
    url.pathPlain url.pathSlash url.queryPlain url.fragmentPlain

theorem writtenNetloc_ne_nil {userinfo port : Option Text} {host : Text} (hhost : host ≠ []) :
    writtenNetloc userinfo host port ≠ [] := by
  simp [writtenNetloc, hhost]

theorem inner_ne_nil (url : Spelling) : url.host.inner ≠ [] := by
  cases hhost : url.host with
  | name text nonempty plain ascii => exact nonempty
  | address text plain ascii colons =>
      rintro hnil
      have hempty : text = [] := hnil
      simp [hempty] at colons

theorem canonicalize_text (hcheck : checkBrackets checks url.parts.netloc = .ok ()) :
    canonicalizeDeliveryUrl checks url.text = .ok url.assembled := by
  have hlower : lower url.parts.scheme = lower url.scheme := lower_lower _
  have hpath : (canonicalPath url.parts.path).head? = some '/' :=
    head?_canonicalPath url.pathSlash
  have hhost : lower (url.parts.hostname.getD []) = lower url.host.inner := by
    rw [lower_hostname, hostinfo_parts]
  have hnetloc : userinfoText url.parts ++ lower url.host.inner ++
      ((if url.portNumber.isSome ∧ defaultPort (lower url.scheme) = url.portNumber then none
        else url.portNumber).map fun number => ':' :: Nat.toDigits 10 number).getD [] =
      writtenNetloc url.userinfo (lower url.host.inner) url.canonicalPort := by
    rw [userinfoText_parts, writtenNetloc, canonicalPort, List.append_assoc]
    congr 2
    split <;> simp [Function.comp_def]
  have hscheme : lower url.scheme ≠ [] := by
    simpa using (isHttp_alpha url.isHttp).1
  rw [canonicalizeDeliveryUrl, urlsplit_text, hcheck]
  simp only [Except.bind, bind, pure, Except.pure, port_parts, hhost, hlower]
  rw [hnetloc, urlunsplit_eq_written hscheme
    (writtenNetloc_ne_nil (by simpa using url.inner_ne_nil)) hpath]
  rfl

theorem checkBrackets_name (hhost : url.host.isAddress = false) :
    checkBrackets checks url.parts.netloc = .ok () := by
  cases hname : url.host with
  | address text plain ascii colons =>
      rw [hname] at hhost
      exact Bool.noConfusion hhost
  | name text nonempty plain ascii =>
      rw [parts, hname]
      exact checkBrackets_writtenNetloc url.userinfoPlain (plain.mono (by decide))
        url.portDigits

/-! ## Ports -/

theorem canonicalPort_eq (url : Spelling) :
    url.canonicalPort = if url.effectivePort = defaultPort (lower url.scheme) then none
      else url.effectivePort.map (Nat.toDigits 10) := by
  rw [canonicalPort, effectivePort]
  cases hnumber : url.portNumber with
  | none => simp
  | some number =>
      by_cases hdefault : defaultPort (lower url.scheme) = some number
      · simp [hdefault]
      · simp [hdefault, Ne.symm hdefault]

theorem portNumber_canonical (url : Spelling) :
    url.canonical.portNumber = if url.effectivePort = defaultPort (lower url.scheme) then none
      else url.effectivePort := by
  have hport : url.canonical.port = url.canonicalPort := rfl
  rw [portNumber, hport, canonicalPort_eq]
  by_cases hdefault : url.effectivePort = defaultPort (lower url.scheme)
  · simp [hdefault]
  · cases hnumber : url.effectivePort with
    | none =>
        rw [hnumber] at hdefault
        simp [hdefault]
    | some number =>
        rw [hnumber] at hdefault
        simp only [if_neg hdefault, Option.map_some]
        have hdigits : Nat.ofDigitChars 10 (Nat.toDigits 10 number) 0 = number :=
          Nat.ofDigitChars_ten_toDigits
        cases hlist : Nat.toDigits 10 number with
        | nil => exact absurd hlist Nat.toDigits_ne_nil
        | cons digit digits => rw [← hdigits, hlist]

theorem effectivePort_canonical (url : Spelling) :
    url.canonical.effectivePort = url.effectivePort := by
  have hscheme : lower url.canonical.scheme = lower url.scheme := lower_lower _
  rw [effectivePort, portNumber_canonical, hscheme]
  by_cases hdefault : url.effectivePort = defaultPort (lower url.scheme)
  · simp [hdefault]
  · rw [if_neg hdefault]
    cases hnumber : url.effectivePort with
    | some number => rfl
    | none =>
        rw [effectivePort, Option.or_eq_none_iff] at hnumber
        rw [hnumber.2]
        rfl

variable {left right : Spelling}

theorem effectivePort_of_canonicalPort (hscheme : lower left.scheme = lower right.scheme)
    (hport : left.canonicalPort.getD [] = right.canonicalPort.getD []) :
    left.effectivePort = right.effectivePort := by
  have hread : ∀ url : Spelling, url.effectivePort =
      if url.canonicalPort.getD [] = [] then defaultPort (lower url.scheme)
      else some (Nat.ofDigitChars 10 (url.canonicalPort.getD []) 0) := by
    intro url
    rw [canonicalPort_eq]
    by_cases hdefault : url.effectivePort = defaultPort (lower url.scheme)
    · simp [hdefault]
    · cases hnumber : url.effectivePort with
      | none =>
          rw [effectivePort, Option.or_eq_none_iff] at hnumber
          simp [hnumber.2]
      | some number =>
          rw [hnumber] at hdefault
          simp [hdefault, Nat.toDigits_ne_nil, Nat.ofDigitChars_ten_toDigits]
  rw [hread left, hread right, hport, hscheme]

/-! ## URLs with a name for their host -/

theorem text_lowered (url : Spelling) :
    url.host.lowered.text = lower url.host.text := by
  cases url.host with
  | name text nonempty plain ascii => rfl
  | address text plain ascii colons => simp [Host.lowered, Host.text]

theorem assembled_name (hhost : url.host.isAddress = false) :
    url.assembled = url.canonical.text := by
  have hinner : lower url.host.inner = url.host.lowered.text := by
    cases hname : url.host with
    | name text nonempty plain ascii => rfl
    | address text plain ascii colons =>
        rw [hname] at hhost
        exact Bool.noConfusion hhost
  have hquery : (if url.query.getD [] = [] then none else some (url.query.getD [])) =
      if url.query.getD [] = [] then none else url.query := by
    cases url.query with
    | none => simp
    | some query => simp
  rw [assembled, hinner, hquery]
  rfl

theorem assembled_of_same (hsame : SameButPath left right)
    (hinner : lower left.host.inner = lower right.host.inner)
    (hpath : canonicalPath left.path = canonicalPath right.path) :
    left.assembled = right.assembled := by
  have hport : left.canonicalPort = right.canonicalPort := by
    rw [canonicalPort_eq, canonicalPort_eq, hsame.port, hsame.scheme]
  rw [assembled, assembled, hsame.scheme, hsame.userinfo, hinner, hport, hpath, hsame.query]

theorem isAddress_canonical (url : Spelling) :
    url.canonical.host.isAddress = url.host.isAddress := by
  rw [canonical]
  cases url.host <;> rfl

theorem query_canonical (url : Spelling) :
    url.canonical.query.getD [] = url.query.getD [] := by
  have hquery : url.canonical.query =
      if url.query.getD [] = [] then none else url.query := rfl
  rw [hquery]
  split
  · rename_i hempty
    rw [hempty]
    rfl
  · rfl

theorem inner_lowered (url : Spelling) : url.host.lowered.inner = lower url.host.inner := by
  cases url.host <;> rfl

theorem assembled_canonical (url : Spelling) : url.canonical.assembled = url.assembled := by
  have hhost : lower url.canonical.host.text = lower url.host.text := by
    have hlowered : url.canonical.host.text = lower url.host.text := url.text_lowered
    rw [hlowered, lower_lower]
  have hinner : lower url.canonical.host.inner = lower url.host.inner := by
    have hlowered : url.canonical.host.inner = lower url.host.inner := url.inner_lowered
    rw [hlowered, lower_lower]
  exact assembled_of_same
    ⟨lower_lower _, rfl, hhost, url.effectivePort_canonical, url.query_canonical⟩ hinner
    (canonicalPath_idem _)

theorem canonicalize_name (hhost : url.host.isAddress = false) :
    canonicalizeDeliveryUrl checks url.text = .ok url.assembled ∧
      canonicalizeDeliveryUrl checks url.assembled = .ok url.assembled := by
  refine ⟨canonicalize_text (checkBrackets_name hhost), ?_⟩
  have hcanonical : url.canonical.host.isAddress = false := by
    rw [isAddress_canonical, hhost]
  rw [assembled_name hhost, canonicalize_text (checkBrackets_name hcanonical),
    assembled_canonical, assembled_name hhost]

theorem same_of_assembled (hleft : left.host.isAddress = false)
    (hright : right.host.isAddress = false) (heq : left.assembled = right.assembled) :
    SameButPath left right ∧ rstripSlashes left.path = rstripSlashes right.path := by
  have hparts : left.canonical.parts = right.canonical.parts := by
    let checks : Checks := ⟨fun _ => true, fun _ => true⟩
    have hread : ∀ url : Spelling, url.host.isAddress = false →
        urlsplit checks url.assembled = .ok url.canonical.parts := by
      intro url hhost
      have hcanonical : url.canonical.host.isAddress = false := by
        rw [isAddress_canonical, hhost]
      rw [assembled_name hhost, urlsplit_text, checkBrackets_name hcanonical]
      rfl
    have hok := hread right hright
    rw [← heq, hread left hleft] at hok
    exact Except.ok.inj hok
  have hscheme : lower left.scheme = lower right.scheme := by
    have hlower : lower (lower left.scheme) = lower (lower right.scheme) :=
      congrArg SplitResult.scheme hparts
    simpa using hlower
  have hinfo : left.canonical.parts.hostinfo = right.canonical.parts.hostinfo :=
    congrArg hostinfo hparts
  have huser := congrArg (fun parts : SplitResult => rpartition '@' parts.netloc) hparts
  simp only [rpartition_parts] at huser
  rw [hostinfo_parts, hostinfo_parts] at hinfo
  obtain ⟨hinner, hport⟩ := Prod.mk.inj hinfo
  have hnames : ∀ url : Spelling, url.host.isAddress = false →
      url.canonical.host.inner = lower url.host.text := by
    intro url hhost
    cases hname : url.host with
    | name text nonempty plain ascii => simp [canonical, hname, Host.lowered, Host.inner, Host.text]
    | address text plain ascii colons =>
        rw [hname] at hhost
        exact Bool.noConfusion hhost
  rw [hnames left hleft, hnames right hright] at hinner
  have hquery : left.canonical.query.getD [] = right.canonical.query.getD [] :=
    congrArg SplitResult.query hparts
  rw [query_canonical, query_canonical] at hquery
  exact ⟨⟨hscheme, (Prod.mk.inj huser).1, hinner,
    effectivePort_of_canonicalPort hscheme hport, hquery⟩,
    canonicalPath_inj.mp (congrArg SplitResult.path hparts)⟩

/-! ## URLs with an address in brackets -/

theorem plain_lower_inner (url : Spelling) :
    Plain ['/', '?', '#', '@', '[', ']'] (lower url.host.inner) := by
  cases url.host with
  | name text nonempty plain ascii => exact (plain.mono (by decide)).lower (by simp)
  | address text plain ascii colons => exact plain.lower (by simp)

theorem ascii_lower_inner (url : Spelling) :
    (lower url.host.inner).all (·.toNat < 128) = true := by
  cases url.host with
  | name text nonempty plain ascii => exact ascii_lower ascii
  | address text plain ascii colons => exact ascii_lower ascii

/-- The text that the code puts together is split again. -/
theorem urlsplit_assembled (url : Spelling) :
    urlsplit checks url.assembled =
      .ok ⟨lower url.scheme, writtenNetloc url.userinfo (lower url.host.inner)
        url.canonicalPort, canonicalPath url.path, url.query.getD [], []⟩ := by
  obtain ⟨hscheme, halpha⟩ := isHttp_alpha url.canonical.isHttp
  have hdigits := fun digits hdigits => (url.canonicalPort_digits digits hdigits).1
  have hquery : ∀ text ∈ (if url.query.getD [] = [] then none
      else some (url.query.getD [])), Plain ['#'] text := by
    intro text htext
    cases hquery : url.query with
    | none => simp [hquery] at htext
    | some query =>
        rw [hquery] at htext
        split at htext
        · simp at htext
        · obtain rfl := Option.some.inj htext
          exact url.queryPlain _ hquery
  have hsplit : urlsplit checks url.assembled =
      (checkBrackets checks (writtenNetloc url.userinfo (lower url.host.inner)
        url.canonicalPort)).bind fun _ =>
          .ok ⟨lower (lower url.scheme), writtenNetloc url.userinfo (lower url.host.inner)
            url.canonicalPort, canonicalPath url.path,
            (if url.query.getD [] = [] then none else some (url.query.getD [])).getD [],
            (none : Option Text).getD []⟩ :=
    urlsplit_written hscheme halpha
      (plain_writtenNetloc (by decide) url.userinfoPlain
        (url.plain_lower_inner.mono (by decide)) hdigits)
      (ascii_writtenNetloc url.userinfoAscii url.ascii_lower_inner hdigits)
      url.canonical.pathPlain url.canonical.pathSlash hquery (by simp)
  have hkept : (if url.query.getD [] = [] then none else some (url.query.getD [])).getD [] =
      url.query.getD [] := by
    by_cases hempty : url.query.getD [] = [] <;> simp [hempty]
  rw [hsplit, checkBrackets_writtenNetloc url.userinfoPlain
    (url.plain_lower_inner.mono (by decide)) hdigits, lower_lower, hkept]
  rfl

theorem canonicalize_assembled_address (hhost : url.host.isAddress = true) :
    ∃ message, canonicalizeDeliveryUrl checks url.assembled = .error message := by
  have hcolons : 2 ≤ (lower url.host.inner).count ':' := by
    cases haddress : url.host with
    | name text nonempty plain ascii =>
        rw [haddress] at hhost
        exact Bool.noConfusion hhost
    | address text plain ascii colons =>
        exact colons.trans (List.count_le_count_map (f := Char.toLower) (x := ':'))
  set parts : SplitResult := ⟨lower url.scheme,
    writtenNetloc url.userinfo (lower url.host.inner) url.canonicalPort,
    canonicalPath url.path, url.query.getD [], []⟩ with hparts
  have hnetloc : parts.netloc =
      writtenNetloc url.userinfo (lower url.host.inner) url.canonicalPort := rfl
  obtain ⟨message, hport⟩ := port_of_colons hnetloc
    (url.plain_lower_inner.mono (by decide))
    (fun digits hdigits =>
      (plain_of_digits (url.canonicalPort_digits digits hdigits).1).mono (by decide)) hcolons
  refine ⟨message, ?_⟩
  rw [canonicalizeDeliveryUrl, urlsplit_assembled]
  simp only [bind, Except.bind, ← hparts, hport]

end Spelling

/-! ## Which URLs the canonical form identifies rightly -/

variable {left right : Spelling}

theorem Spelling.slashless_ne_of_differInSlashes
    (hdiffer : DifferInSlashes left right) : slashless left.path ≠ slashless right.path := by
  intro heq
  have hcount := (slashless_inj.mp heq).2
  have hne := hdiffer.count
  rcases hdiffer.two with htwo | htwo <;> omega

theorem Spelling.slashless_eq_of_not_differInSlashes (hsame : SameButPath left right)
    (hpath : rstripSlashes left.path = rstripSlashes right.path)
    (hnot : ¬ DifferInSlashes left right) : slashless left.path = slashless right.path := by
  apply slashless_inj.mpr ⟨hpath, ?_⟩
  by_contra hcount
  exact hnot ⟨hsame, hpath, by omega, by omega⟩

theorem Spelling.inner_eq_text {url : Spelling} (hhost : url.host.isAddress = false) :
    url.host.inner = url.host.text := by
  cases haddress : url.host with
  | name text nonempty plain ascii => rfl
  | address text plain ascii colons =>
      rw [haddress] at hhost
      exact Bool.noConfusion hhost

theorem Spelling.assembled_of_sameButPath (hleft : left.host.isAddress = false)
    (hright : right.host.isAddress = false) (hsame : SameButPath left right)
    (hpath : rstripSlashes left.path = rstripSlashes right.path) :
    left.assembled = right.assembled := by
  apply assembled_of_same hsame _ (canonicalPath_inj.mpr hpath)
  rw [inner_eq_text hleft, inner_eq_text hright, hsame.host]

theorem Spelling.assembled_eq_iff (hleft : left.host.isAddress = false)
    (hright : right.host.isAddress = false) (hnot : ¬ DifferInSlashes left right) :
    left.assembled = right.assembled ↔ SameEndpoint left right := by
  constructor
  · intro heq
    obtain ⟨hsame, hpath⟩ := same_of_assembled hleft hright heq
    exact ⟨hsame, slashless_eq_of_not_differInSlashes hsame hpath hnot⟩
  · rintro ⟨hsame, hslashless⟩
    exact assembled_of_sameButPath hleft hright hsame (slashless_inj.mp hslashless).1

theorem Spelling.SameEndpoint.not_differ
    (hsame : SameEndpoint left right) : ¬ Differ left right := by
  rintro (hhost | hport | hpath | hquery)
  · exact hhost hsame.1.host
  · exact hport hsame.1.port
  · exact hpath hsame.2
  · exact hquery hsame.1.query

theorem isAddress_of_idempotent {url : Spelling} {canonical : Text}
    (hfirst : canonicalizeDeliveryUrl checks url.text = .ok canonical)
    (hagain : canonicalizeDeliveryUrl checks canonical = .ok canonical) :
    url.host.isAddress = false := by
  by_contra haddress
  rw [Bool.not_eq_false] at haddress
  cases hcheck : checkBrackets checks url.parts.netloc with
  | error message =>
      rw [canonicalizeDeliveryUrl, Spelling.urlsplit_text, hcheck] at hfirst
      cases hfirst
  | ok passed =>
      have hcanonical : canonical = url.assembled :=
        Except.ok.inj (hfirst.symm.trans (Spelling.canonicalize_text hcheck))
      obtain ⟨message, herror⟩ : ∃ message,
          canonicalizeDeliveryUrl checks url.assembled = .error message :=
        Spelling.canonicalize_assembled_address haddress
      rw [hcanonical, herror] at hagain
      cases hagain

/-- Among given URLs the canonical form identifies exactly the spellings of one endpoint
if and only if no host is an address in brackets, and no two URLs differ only in how many
slashes end their paths, with two at one of the ends. -/
theorem identifies_iff (checks : Checks) (urls : List Spelling) :
    Identifies checks urls ↔
      (∀ url ∈ urls, url.host.isAddress = false) ∧
        ∀ left ∈ urls, ∀ right ∈ urls, ¬ Spelling.DifferInSlashes left right := by
  constructor
  · intro hidentifies
    have hnames : ∀ url ∈ urls, url.host.isAddress = false := by
      intro url hurl
      obtain ⟨canonical, hfirst, hagain⟩ := hidentifies.idempotent url hurl
      exact isAddress_of_idempotent hfirst hagain
    refine ⟨hnames, fun left hleft right hright hdiffer => ?_⟩
    apply hidentifies.differ left hleft right hright
      (.inr (.inr (.inl (Spelling.slashless_ne_of_differInSlashes hdiffer))))
    rw [(Spelling.canonicalize_name (hnames left hleft)).1,
      (Spelling.canonicalize_name (hnames right hright)).1,
      Spelling.assembled_of_sameButPath (hnames left hleft) (hnames right hright)
        hdiffer.same hdiffer.path]
  · rintro ⟨hnames, hslashes⟩
    have heq : ∀ left ∈ urls, ∀ right ∈ urls,
        left.assembled = right.assembled ↔ left.SameEndpoint right :=
      fun left hleft right hright => Spelling.assembled_eq_iff (hnames left hleft)
        (hnames right hright) (hslashes left hleft right hright)
    have hok : ∀ url ∈ urls, canonicalizeDeliveryUrl checks url.text = .ok url.assembled :=
      fun url hurl => (Spelling.canonicalize_name (hnames url hurl)).1
    refine ⟨?_, ?_, ?_, ?_⟩
    · intro url hurl
      exact ⟨url.assembled, Spelling.canonicalize_name (hnames url hurl)⟩
    · intro left hleft right hright hsame
      rw [hok left hleft, hok right hright, (heq left hleft right hright).mpr hsame]
    · intro left hleft right hright hdiffer hcanonical
      rw [hok left hleft, hok right hright] at hcanonical
      exact ((heq left hleft right hright).mp (Except.ok.inj hcanonical)).not_differ hdiffer
    · intro tombstones source hsource url hurl canonical hcanonical acknowledge
      rw [hok url hurl] at hcanonical
      obtain rfl := Except.ok.inj hcanonical
      have hmatch : ∀ entry ∈ tombstones.entries,
          entry.2.deliveryUrlCanonical = url.assembled ↔
            url.SameEndpoint (source entry.1) := by
        intro entry hentry
        obtain ⟨hlisted, hrow⟩ := hsource entry hentry
        rw [hok _ hlisted] at hrow
        rw [← Except.ok.inj hrow, eq_comm]
        exact heq url hurl _ hlisted
      rw [checkUrlTombstone_fires]
      constructor
      · rintro ⟨tombstoneId, row, hrow, hurlRow, hopen⟩
        exact ⟨(tombstoneId, row), hrow, hopen, (hmatch _ hrow).mp hurlRow⟩
      · rintro ⟨⟨tombstoneId, row⟩, hrow, hopen, hsame⟩
        exact ⟨tombstoneId, row, hrow, (hmatch _ hrow).mpr hsame, hopen⟩

end Reading

/-! ## URLs that are not identified -/

/-- `https://[::1]:8443/hook`. -/
def loopbackHook : Spelling where
  scheme := "https".toList
  isHttp := .inr rfl
  userinfo := none
  userinfoPlain := by simp
  userinfoAscii := by simp
  host := .address [':', ':', '1'] (by simp [Plain, isUnsafe]) (by simp) (by decide)
  port := some ['8', '4', '4', '3']
  portDigits := by decide
  portRange := by decide
  path := "/hook".toList
  pathPlain := by simp [Plain, isUnsafe]
  pathSlash := by simp
  query := none
  queryPlain := by simp
  fragment := none
  fragmentPlain := by simp

/-- `https://example/hook` with slashes behind it. -/
def exampleHook (slashes : ℕ) : Spelling where
  scheme := "https".toList
  isHttp := .inr rfl
  userinfo := none
  userinfoPlain := by simp
  userinfoAscii := by simp
  host := .name ['e', 'x', 'a', 'm', 'p', 'l', 'e'] (by simp)
    (by simp [Plain, isUnsafe, netlocStops]) (by simp)
  port := none
  portDigits := by simp
  portRange := by simp
  path := "/hook".toList ++ List.replicate slashes '/'
  pathPlain := by simp [Plain, isUnsafe, or_imp, forall_and]
  pathSlash := by simp
  query := none
  queryPlain := by simp
  fragment := none
  fragmentPlain := by simp

def loopbackChecks : Checks := ⟨fun address => address == "::1".toList, fun _ => true⟩

/-- The brackets of an address are lost, and with them its canonical form; and a path with
two slashes at its end is taken for the path without. -/
theorem brackets_and_slashes_are_lost :
    ¬ Identifies loopbackChecks [loopbackHook] ∧
      ¬ Identifies loopbackChecks [exampleHook 0, exampleHook 2] := by
  constructor
  · intro hidentifies
    obtain ⟨canonical, hfirst, hagain⟩ := hidentifies.idempotent loopbackHook (by simp)
    have hlost : canonicalizeDeliveryUrl loopbackChecks loopbackHook.text =
        .ok "https://::1:8443/hook".toList := by rfl
    have hread : canonicalizeDeliveryUrl loopbackChecks "https://::1:8443/hook".toList =
        .error "Port could not be cast to integer value as ':1:8443'" := by rfl
    rw [hlost] at hfirst
    obtain rfl := Except.ok.inj hfirst
    rw [hread] at hagain
    cases hagain
  · intro hidentifies
    apply hidentifies.differ (exampleHook 0) (by simp) (exampleHook 2) (by simp)
      (.inr (.inr (.inl (by decide))))
    rfl

end SentryWms.Webhook
