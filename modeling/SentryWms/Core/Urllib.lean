import Mathlib

/-!
# URLs as `urllib.parse` reads them

Splitting a URL into its five components and putting them together again, over lists of
characters. What the standard library checks by other modules (that a bracketed host is an
IPv6 address, that a network location is stable under normalization) is left open.
-/

namespace Urllib

abbrev Text : Type := List Char

/-! ## Cutting texts -/

/-- `text.partition(separator)`: what stands before the first separator, and what after
it if there is one. -/
def partition (separator : Char) : Text → Text × Option Text
  | [] => ([], none)
  | char :: rest =>
      if char = separator then ([], some rest)
      else (char :: (partition separator rest).1, (partition separator rest).2)

/-- `text.rpartition(separator)`: what stands before the last separator if there is one,
and what after it. -/
def rpartition (separator : Char) (text : Text) : Option Text × Text :=
  let (after, before) := partition separator text.reverse
  (before.map List.reverse, after.reverse)

section Partition

variable {separator : Char} {before after text : Text}

theorem partition_append (hbefore : separator ∉ before) :
    partition separator (before ++ separator :: after) = (before, some after) := by
  induction before with
  | nil => simp [partition]
  | cons char before ih =>
      rw [List.mem_cons, not_or] at hbefore
      obtain ⟨hchar, hrest⟩ := hbefore
      simp only [List.cons_append, partition, if_neg (Ne.symm hchar), ih hrest]

theorem partition_of_not_mem (htext : separator ∉ text) :
    partition separator text = (text, none) := by
  induction text with
  | nil => rfl
  | cons char text ih =>
      rw [List.mem_cons, not_or] at htext
      obtain ⟨hchar, hrest⟩ := htext
      simp only [partition, if_neg (Ne.symm hchar), ih hrest]

theorem rpartition_append (hafter : separator ∉ after) :
    rpartition separator (before ++ separator :: after) = (some before, after) := by
  have hreverse : (before ++ separator :: after).reverse =
      after.reverse ++ separator :: before.reverse := by simp
  rw [rpartition, hreverse, partition_append (by simpa using hafter)]
  simp

theorem rpartition_of_not_mem (htext : separator ∉ text) :
    rpartition separator text = (none, text) := by
  rw [rpartition, partition_of_not_mem (by simpa using htext)]
  simp

/-- What is cut is joined again. -/
theorem partition_join (separator : Char) (text : Text) :
    (partition separator text).1 ++
      ((partition separator text).2.map (separator :: ·)).getD [] = text := by
  induction text with
  | nil => rfl
  | cons char text ih =>
      by_cases hchar : char = separator
      · simp [partition, hchar]
      · simpa [partition, hchar] using ih

end Partition

/-! ## Components -/

structure SplitResult where
  scheme : Text
  netloc : Text
  path : Text
  query : Text
  fragment : Text

namespace SplitResult

/-- `_userinfo`: the user name and the password. -/
def userinfo (parts : SplitResult) : Option Text × Option Text :=
  match (rpartition '@' parts.netloc).1 with
  | none => (none, none)
  | some userinfo => ((partition ':' userinfo).1, (partition ':' userinfo).2)

def username (parts : SplitResult) : Option Text := parts.userinfo.1

def password (parts : SplitResult) : Option Text := parts.userinfo.2

/-- `_hostinfo`: the host and the text of the port. -/
def hostinfo (parts : SplitResult) : Text × Text :=
  let hostinfo := (rpartition '@' parts.netloc).2
  match (partition '[' hostinfo).2 with
  | some bracketed =>
      let (hostname, rest) := partition ']' bracketed
      (hostname, (partition ':' (rest.getD [])).2.getD [])
  | none =>
      let (hostname, port) := partition ':' hostinfo
      (hostname, port.getD [])

/-- `text.lower()`, of a text of ASCII characters. -/
def lower (text : Text) : Text := text.map Char.toLower

/-- `hostname`: in lower case but for the zone of an address. -/
def hostname (parts : SplitResult) : Option Text :=
  let hostname := parts.hostinfo.1
  if hostname = [] then none
  else
    let (hostname, zone) := partition '%' hostname
    some (lower hostname ++ (zone.map ('%' :: ·)).getD [])

def port (parts : SplitResult) : Except String (Option ℕ) :=
  let port := parts.hostinfo.2
  if port = [] then .ok none
  else if port.all Char.isDigit then
    if Nat.ofDigitChars 10 port 0 ≤ 65535 then .ok (some (Nat.ofDigitChars 10 port 0))
    else .error "Port out of range 0-65535"
  else .error ("Port could not be cast to integer value as '" ++ String.ofList port ++ "'")

end SplitResult

/-! ## Splitting -/

/-- What the standard library leaves to other modules: whether what stands in brackets is
an IPv6 address, and whether normalization keeps a network location. -/
structure Checks where
  bracketedHost : Text → Bool
  normalizedNetloc : Text → Bool

/-- The characters that are dropped wherever they stand. -/
def isUnsafe (char : Char) : Bool := char = '\t' || char = '\r' || char = '\n'

/-- The characters that a network location ends before. -/
def isDelimiter (char : Char) : Bool := char = '/' || char = '?' || char = '#'

def isSchemeChar (char : Char) : Bool :=
  char.isAlphanum || char = '+' || char = '-' || char = '.'

/-- The scheme, in lower case, and the rest; no scheme where none can be read. -/
def splitScheme (url : Text) : Text × Text :=
  match partition ':' url with
  | (first :: scheme, some rest) =>
      if first.isAlpha && (first :: scheme).all isSchemeChar then
        (SplitResult.lower (first :: scheme), rest)
      else ([], url)
  | _ => ([], url)

/-- Brackets stand in pairs and around an address. -/
def checkBrackets (checks : Checks) (netloc : Text) : Except String Unit :=
  match netloc.contains '[', netloc.contains ']' with
  | false, false => .ok ()
  | true, true =>
      let bracketed := (partition '[' netloc).2.getD []
      if checks.bracketedHost (partition ']' bracketed).1 then .ok ()
      else .error "does not appear to be an IPv4 or IPv6 address"
  | _, _ => .error "Invalid IPv6 URL"

/-- The path, the query and the fragment. -/
def splitRest (checks : Checks) (scheme netloc url : Text) : Except String SplitResult :=
  let (url, fragment) := partition '#' url
  let (path, query) := partition '?' url
  if netloc.all (·.toNat < 128) || checks.normalizedNetloc netloc then
    .ok ⟨scheme, netloc, path, query.getD [], fragment.getD []⟩
  else .error "netloc contains invalid characters under NFKC normalization"

def urlsplit (checks : Checks) (url : Text) : Except String SplitResult :=
  let (scheme, url) := splitScheme
    ((url.dropWhile (·.toNat ≤ 32)).filter fun char => !isUnsafe char)
  match url with
  | '/' :: '/' :: rest => do
      let netloc := rest.takeWhile fun char => !isDelimiter char
      checkBrackets checks netloc
      splitRest checks scheme netloc (rest.dropWhile fun char => !isDelimiter char)
  | url => splitRest checks scheme [] url

/-! ## Putting together -/

def usesNetloc (scheme : Text) : Bool :=
  ["", "ftp", "http", "gopher", "nntp", "telnet", "imap", "wais", "file", "mms", "https",
    "shttp", "snews", "prospero", "rtsp", "rtsps", "rtspu", "rsync", "svn", "svn+ssh",
    "sftp", "nfs", "git", "git+ssh", "ws", "wss"].any fun name => name.toList == scheme

def urlunsplit (parts : SplitResult) : Text :=
  let url :=
    if parts.netloc ≠ [] ∨ (parts.scheme ≠ [] ∧ usesNetloc parts.scheme) ∨
        parts.path.take 2 = ['/', '/'] then
      ['/', '/'] ++ parts.netloc ++
        (if parts.path ≠ [] ∧ parts.path.head? ≠ some '/' then '/' :: parts.path
         else parts.path)
    else parts.path
  let url := if parts.scheme = [] then url else parts.scheme ++ ':' :: url
  let url := if parts.query = [] then url else url ++ '?' :: parts.query
  if parts.fragment = [] then url else url ++ '#' :: parts.fragment

/-! ## Reading a URL that is written out -/

/-- A URL from its parts. -/
def written (scheme netloc path : Text) (query fragment : Option Text) : Text :=
  scheme ++ ':' :: '/' :: '/' :: (netloc ++ path ++
    (query.map ('?' :: ·)).getD [] ++ (fragment.map ('#' :: ·)).getD [])

section Written

variable {checks : Checks} {scheme netloc path : Text} {query fragment : Option Text}

/-- No character of the text is dropped, and none is among the given ones. -/
def Plain (stops : List Char) (text : Text) : Prop :=
  ∀ char ∈ text, isUnsafe char = false ∧ char ∉ stops

theorem Plain.nil (stops : List Char) : Plain stops [] := by simp [Plain]

variable {stops : List Char}

theorem Plain.append {left right : Text} (hleft : Plain stops left)
    (hright : Plain stops right) : Plain stops (left ++ right) := by
  intro char hchar
  rcases List.mem_append.mp hchar with hmem | hmem
  · exact hleft char hmem
  · exact hright char hmem

variable {text : Text}

theorem Plain.mono {fewer : List Char} (htext : Plain stops text)
    (hfewer : fewer ⊆ stops) : Plain fewer text :=
  fun char hchar => ⟨(htext char hchar).1, fun hmem => (htext char hchar).2 (hfewer hmem)⟩

variable {char : Char}

theorem Plain.not_mem (htext : Plain stops text) (hstop : char ∈ stops) : char ∉ text :=
  fun hmem => (htext char hmem).2 hstop

theorem isAlpha_of_toLower (hlower : char.toLower.isAlpha = true) :
    char.isAlpha = true := by
  unfold Char.toLower at hlower
  split at hlower
  · rename_i hupper
    simp only [Char.isAlpha, Char.isUpper, Bool.or_eq_true, decide_eq_true_eq]
    left
    exact hupper
  · exact hlower

theorem isAlpha_of_lower {name : Text} (hlower : SplitResult.lower text = name)
    (hname : ∀ char ∈ name, char.isAlpha = true) : ∀ char ∈ text, char.isAlpha = true := by
  intro char hchar
  apply isAlpha_of_toLower
  apply hname
  rw [← hlower]
  exact List.mem_map_of_mem hchar

theorem isSchemeChar_of_isAlpha (halpha : char.isAlpha = true) :
    isSchemeChar char = true := by
  simp [isSchemeChar, Char.isAlphanum, halpha]

theorem ne_of_isAlpha {other : Char} (halpha : char.isAlpha = true)
    (hother : other.isAlpha = false) : char ≠ other := by
  rintro rfl
  rw [halpha] at hother
  exact Bool.noConfusion hother

theorem toNat_of_isAlpha (halpha : char.isAlpha = true) :
    65 ≤ char.toNat ∧ char.toNat < 128 := by
  simp only [Char.isAlpha, Char.isUpper, Char.isLower, Bool.or_eq_true, decide_eq_true_eq,
    Bool.and_eq_true, ge_iff_le, UInt32.le_iff_toNat_le] at halpha
  have hval : char.toNat = char.val.toNat := rfl
  have hupper : 'Z'.val.toNat = 90 ∧ 'A'.val.toNat = 65 := ⟨rfl, rfl⟩
  have hlower : 'z'.val.toNat = 122 ∧ 'a'.val.toNat = 97 := ⟨rfl, rfl⟩
  omega

theorem isUnsafe_of_isAlpha (halpha : char.isAlpha = true) :
    isUnsafe char = false := by
  have htab := ne_of_isAlpha halpha (by decide : ('\t' : Char).isAlpha = false)
  have hreturn := ne_of_isAlpha halpha (by decide : ('\r' : Char).isAlpha = false)
  have hline := ne_of_isAlpha halpha (by decide : ('\n' : Char).isAlpha = false)
  simp [isUnsafe, htab, hreturn, hline]

/-- A scheme of letters is read off. -/
theorem splitScheme_append {rest : Text} (hscheme : scheme ≠ [])
    (halpha : ∀ char ∈ scheme, char.isAlpha = true) :
    splitScheme (scheme ++ ':' :: rest) = (SplitResult.lower scheme, rest) := by
  have hcolon : ':' ∉ scheme := fun hmem =>
    ne_of_isAlpha (halpha ':' hmem) (by decide : (':' : Char).isAlpha = false) rfl
  rw [splitScheme, partition_append hcolon]
  cases scheme with
  | nil => exact absurd rfl hscheme
  | cons first letters =>
      have hfirst := halpha first List.mem_cons_self
      have hall : (first :: letters).all isSchemeChar = true :=
        List.all_eq_true.mpr fun char hchar => isSchemeChar_of_isAlpha (halpha char hchar)
      simp [hfirst, hall]

/-- What follows a network location begins with a delimiter. -/
theorem takeWhile_netloc {rest : Text} (hnetloc : Plain ['/', '?', '#'] netloc)
    (hrest : ∀ char ∈ rest.head?, isDelimiter char = true) :
    (netloc ++ rest).takeWhile (fun char => !isDelimiter char) = netloc ∧
      (netloc ++ rest).dropWhile (fun char => !isDelimiter char) = rest := by
  have hinside : ∀ char ∈ netloc, (!isDelimiter char) = true := by
    intro char hchar
    have hstop := (hnetloc char hchar).2
    simp only [List.mem_cons, List.not_mem_nil, or_false, not_or] at hstop
    simp [isDelimiter, hstop]
  have houtside : rest.takeWhile (fun char => !isDelimiter char) = [] ∧
      rest.dropWhile (fun char => !isDelimiter char) = rest := by
    cases rest with
    | nil => exact ⟨rfl, rfl⟩
    | cons first rest => simp [hrest first rfl]
  rw [List.takeWhile_append_of_pos hinside, List.dropWhile_append_of_pos hinside,
    houtside.1, houtside.2, List.append_nil]
  exact ⟨rfl, rfl⟩

/-- The parts of a URL that is written out are read back. -/
theorem splitRest_written (hpath : Plain ['?', '#'] path)
    (hquery : ∀ text ∈ query, Plain ['#'] text)
    (hascii : netloc.all (·.toNat < 128) = true) :
    splitRest checks scheme netloc (path ++ (query.map ('?' :: ·)).getD [] ++
        (fragment.map ('#' :: ·)).getD []) =
      .ok ⟨scheme, netloc, path, query.getD [], fragment.getD []⟩ := by
  have hquestion : '?' ∉ path := hpath.not_mem (by simp)
  have hhash : '#' ∉ path ++ (query.map ('?' :: ·)).getD [] := by
    rw [List.mem_append, not_or]
    refine ⟨hpath.not_mem (by simp), ?_⟩
    cases query with
    | none => simp
    | some text => simpa using (hquery text rfl).not_mem (by simp)
  have hcut : partition '#' (path ++ (query.map ('?' :: ·)).getD [] ++
      (fragment.map ('#' :: ·)).getD []) =
        (path ++ (query.map ('?' :: ·)).getD [], fragment) := by
    cases fragment with
    | none => simpa using partition_of_not_mem hhash
    | some text => exact partition_append hhash
  have hcut' : partition '?' (path ++ (query.map ('?' :: ·)).getD []) = (path, query) := by
    cases query with
    | none => simpa using partition_of_not_mem hquestion
    | some text => exact partition_append hquestion
  simp only [splitRest, hcut, hcut', hascii, Bool.true_or, if_true]

theorem isUnsafe_of_mem_rest (hpath : Plain ['?', '#'] path)
    (hquery : ∀ text ∈ query, Plain ['#'] text) (hfragment : ∀ text ∈ fragment, Plain [] text)
    (hchar : char ∈ path ++ (query.map ('?' :: ·)).getD [] ++ (fragment.map ('#' :: ·)).getD []) : isUnsafe char = false := by
  rcases List.mem_append.mp hchar with hmem | hmem
  · rcases List.mem_append.mp hmem with hmem | hmem
    · exact (hpath char hmem).1
    · cases query with
      | none => simp at hmem
      | some text =>
          rcases List.mem_cons.mp hmem with rfl | hmem
          · rfl
          · exact (hquery text rfl char hmem).1
  · cases fragment with
    | none => simp at hmem
    | some text =>
        rcases List.mem_cons.mp hmem with rfl | hmem
        · rfl
        · exact (hfragment text rfl char hmem).1

theorem isDelimiter_head_rest (hslash : ∀ char ∈ path.head?, char = '/') :
    ∀ char ∈ (path ++ (query.map ('?' :: ·)).getD [] ++
      (fragment.map ('#' :: ·)).getD []).head?, isDelimiter char = true := by
  cases path with
  | cons first path =>
      have hfirst : first = '/' := hslash first rfl
      simp [hfirst, isDelimiter]
  | nil =>
      cases query with
      | some text => simp [isDelimiter]
      | none =>
          cases fragment with
          | some text => simp [isDelimiter]
          | none => simp

/-- A URL that is written out is split into the parts it was written from. -/
theorem urlsplit_written (hscheme : scheme ≠ [])
    (halpha : ∀ char ∈ scheme, char.isAlpha = true)
    (hnetloc : Plain ['/', '?', '#'] netloc)
    (hascii : netloc.all (·.toNat < 128) = true)
    (hpath : Plain ['?', '#'] path) (hslash : ∀ char ∈ path.head?, char = '/')
    (hquery : ∀ text ∈ query, Plain ['#'] text) (hfragment : ∀ text ∈ fragment, Plain [] text) :
    urlsplit checks (written scheme netloc path query fragment) =
      (checkBrackets checks netloc).bind fun _ =>
        .ok ⟨SplitResult.lower scheme, netloc, path, query.getD [], fragment.getD []⟩ := by
  set rest := path ++ (query.map ('?' :: ·)).getD [] ++ (fragment.map ('#' :: ·)).getD []
    with hrest
  have hwritten : written scheme netloc path query fragment =
      scheme ++ ':' :: '/' :: '/' :: (netloc ++ rest) := by
    simp [written, hrest, List.append_assoc]
  have hsafe : ∀ char ∈ written scheme netloc path query fragment,
      (!isUnsafe char) = true := by
    intro char hchar
    have hparts : char ∈ scheme ∨ char = ':' ∨ char = '/' ∨ char ∈ netloc ∨ char ∈ rest := by
      simpa [hwritten, or_assoc] using hchar
    rcases hparts with hmem | rfl | rfl | hmem | hmem
    · simp [isUnsafe_of_isAlpha (halpha char hmem)]
    · rfl
    · rfl
    · simp [(hnetloc char hmem).1]
    · simp [isUnsafe_of_mem_rest hpath hquery hfragment hmem]
  have hstart : (written scheme netloc path query fragment).dropWhile (·.toNat ≤ 32) =
      written scheme netloc path query fragment := by
    obtain ⟨first, letters, rfl⟩ := List.exists_cons_of_ne_nil hscheme
    have hfirst := toNat_of_isAlpha (halpha first List.mem_cons_self)
    have hnot : ¬ first.toNat ≤ 32 := by omega
    simp [written, hnot]
  have hhead : ∀ char ∈ rest.head?, isDelimiter char = true := isDelimiter_head_rest hslash
  obtain ⟨htake, hdrop⟩ := takeWhile_netloc hnetloc hhead
  rw [urlsplit, hstart, List.filter_eq_self.mpr hsafe, hwritten,
    splitScheme_append hscheme halpha]
  simp only [htake, hdrop]
  rw [hrest, splitRest_written hpath hquery hascii]
  rfl

end Written

/-! ## Lower case -/

section Lower

open SplitResult

variable {char other : Char} {stops : List Char} {text : Text}

/-- A character keeps its case or becomes a letter. -/
theorem toLower_eq_or (char : Char) :
    char.toLower = char ∨ (97 ≤ char.toLower.toNat ∧ char.toLower.toNat ≤ 122) := by
  by_cases hupper : char.val ≥ 'A'.val ∧ char.val ≤ 'Z'.val
  · right
    have hlow : 65 ≤ char.val.toNat := UInt32.le_iff_toNat_le.mp hupper.1
    have hhigh : char.val.toNat ≤ 90 := UInt32.le_iff_toNat_le.mp hupper.2
    have hval : char.toLower.toNat = (char.val + ('a'.val - 'A'.val)).toNat := by
      rw [Char.toLower, dif_pos hupper]
      rfl
    have hshift : ('a'.val - 'A'.val).toNat = 32 := rfl
    rw [hval, UInt32.toNat_add, hshift]
    omega
  · left
    rw [Char.toLower, dif_neg hupper]

@[simp]
theorem lower_lower (text : Text) : lower (lower text) = lower text := by
  simp [lower]

@[simp]
theorem lower_append (left right : Text) : lower (left ++ right) = lower left ++ lower right :=
  List.map_append

@[simp]
theorem lower_cons (char : Char) (text : Text) :
    lower (char :: text) = char.toLower :: lower text := rfl

@[simp]
theorem lower_eq_nil : lower text = [] ↔ text = [] := List.map_eq_nil_iff

/-- A text that avoids characters which are no letters avoids them in lower case. -/
theorem Plain.lower (hstops : ∀ stop ∈ stops, stop.toNat < 97 ∨ 122 < stop.toNat)
    (htext : Plain stops text) : Plain stops (lower text) := by
  intro char hchar
  obtain ⟨origin, horigin, rfl⟩ := List.mem_map.mp hchar
  have hplain := htext origin horigin
  rcases toLower_eq_or origin with hsame | hletter
  · rw [hsame]
    exact hplain
  · constructor
    · have htab : origin.toLower ≠ '\t' := fun heq => by
        rw [heq] at hletter
        exact absurd hletter.1 (by decide)
      have hreturn : origin.toLower ≠ '\r' := fun heq => by
        rw [heq] at hletter
        exact absurd hletter.1 (by decide)
      have hline : origin.toLower ≠ '\n' := fun heq => by
        rw [heq] at hletter
        exact absurd hletter.1 (by decide)
      simp [isUnsafe, htab, hreturn, hline]
    · intro hstop
      have hrange := hstops _ hstop
      omega

theorem ascii_lower (htext : text.all (·.toNat < 128) = true) :
    (SplitResult.lower text).all (·.toNat < 128) = true := by
  rw [List.all_eq_true] at htext ⊢
  intro char hchar
  obtain ⟨origin, horigin, rfl⟩ := List.mem_map.mp hchar
  rcases toLower_eq_or origin with hsame | hletter
  · rw [hsame]
    exact htext origin horigin
  · simp only [decide_eq_true_eq]
    omega

end Lower

/-! ## Network locations -/

/-- A network location from its parts. -/
def writtenNetloc (userinfo : Option Text) (host : Text) (port : Option Text) : Text :=
  (userinfo.map (· ++ ['@'])).getD [] ++ (host ++ (port.map (':' :: ·)).getD [])

section Netloc

open SplitResult

variable {parts : SplitResult} {userinfo port : Option Text} {host : Text}

/-- The user information is read back. -/
theorem rpartition_writtenNetloc (hhost : '@' ∉ host) (hport : ∀ text ∈ port, '@' ∉ text) :
    rpartition '@' (writtenNetloc userinfo host port) =
      (userinfo, host ++ (port.map (':' :: ·)).getD []) := by
  have hafter : '@' ∉ host ++ (port.map (':' :: ·)).getD [] := by
    rw [List.mem_append, not_or]
    refine ⟨hhost, ?_⟩
    cases port with
    | none => simp
    | some text => simpa using hport text rfl
  cases userinfo with
  | none => simpa [writtenNetloc] using rpartition_of_not_mem hafter
  | some userinfo =>
      have hwritten : writtenNetloc (some userinfo) host port =
          userinfo ++ '@' :: (host ++ (port.map (':' :: ·)).getD []) := by
        simp [writtenNetloc]
      rw [hwritten, rpartition_append hafter]

/-- The host and the port are read back. -/
theorem hostinfo_writtenNetloc (hnetloc : parts.netloc = writtenNetloc userinfo host port)
    (hhost : Plain ['@', ':', '[', ']'] host) (hport : ∀ text ∈ port, Plain ['@', '['] text) :
    parts.hostinfo = (host, port.getD []) := by
  have hrest : rpartition '@' (writtenNetloc userinfo host port) =
      (userinfo, host ++ (port.map (':' :: ·)).getD []) :=
    rpartition_writtenNetloc (hhost.not_mem (by simp))
      fun text htext => (hport text htext).not_mem (by simp)
  have hbracket : '[' ∉ host ++ (port.map (':' :: ·)).getD [] := by
    rw [List.mem_append, not_or]
    refine ⟨hhost.not_mem (by simp), ?_⟩
    cases port with
    | none => simp
    | some text => simpa using (hport text rfl).not_mem (by simp)
  have hcolon : ':' ∉ host := hhost.not_mem (by simp)
  have hcut : partition ':' (host ++ (port.map (':' :: ·)).getD []) = (host, port) := by
    cases port with
    | none => simpa using partition_of_not_mem hcolon
    | some text => exact partition_append hcolon
  simp only [hostinfo, hnetloc, hrest, partition_of_not_mem hbracket, hcut]

/-- The address in brackets and the port are read back. -/
theorem hostinfo_bracketed {address : Text}
    (hnetloc : parts.netloc = writtenNetloc userinfo ('[' :: (address ++ [']'])) port)
    (haddress : Plain ['@', ']'] address) (hport : ∀ text ∈ port, '@' ∉ text) :
    parts.hostinfo = (address, port.getD []) := by
  have hat : '@' ∉ '[' :: (address ++ [']']) := by
    simpa using haddress.not_mem (by simp : '@' ∈ ['@', ']'])
  have hrest : rpartition '@' (writtenNetloc userinfo ('[' :: (address ++ [']'])) port) =
      (userinfo, '[' :: (address ++ [']']) ++ (port.map (':' :: ·)).getD []) :=
    rpartition_writtenNetloc hat hport
  have hclose : ']' ∉ address := haddress.not_mem (by simp)
  have hopen : partition '[' ('[' :: (address ++ [']']) ++ (port.map (':' :: ·)).getD []) =
      ([], some (address ++ ']' :: (port.map (':' :: ·)).getD [])) := by
    simp [partition]
  have hcut : (partition ':' ((port.map (':' :: ·)).getD [])).2.getD [] = port.getD [] := by
    cases port <;> simp [partition]
  simp only [hostinfo, hnetloc, hrest, hopen, partition_append hclose, Option.getD_some, hcut]

/-- Lower case reaches the zone of an address too. -/
theorem lower_hostname (parts : SplitResult) :
    lower (parts.hostname.getD []) = lower parts.hostinfo.1 := by
  rw [hostname]
  by_cases hempty : parts.hostinfo.1 = []
  · simp [hempty]
  · have hjoin := partition_join '%' parts.hostinfo.1
    rw [if_neg hempty]
    dsimp only
    rw [Option.getD_some, lower_append, lower_lower, ← lower_append, hjoin]

theorem port_of_digits (hport : parts.hostinfo.2.all Char.isDigit = true)
    (hrange : Nat.ofDigitChars 10 parts.hostinfo.2 0 ≤ 65535) :
    parts.port = .ok (if parts.hostinfo.2 = [] then none
      else some (Nat.ofDigitChars 10 parts.hostinfo.2 0)) := by
  rw [SplitResult.port]
  by_cases hempty : parts.hostinfo.2 = []
  · simp [hempty]
  · simp only [hempty, if_false, hport, if_true, hrange]

/-- A port that is no number. -/
theorem port_of_not_digits (hport : parts.hostinfo.2.all Char.isDigit = false) :
    ∃ message, parts.port = .error message := by
  have hne : parts.hostinfo.2 ≠ [] := by
    intro hempty
    simp [hempty] at hport
  exact ⟨_, by rw [SplitResult.port, if_neg hne, hport]; rfl⟩

/-- What follows the first colon of a host with several colons is no port. -/
theorem port_of_colons (hnetloc : parts.netloc = writtenNetloc userinfo host port)
    (hhost : Plain ['@', '[', ']'] host) (hport : ∀ text ∈ port, Plain ['@', '['] text)
    (hcolons : 2 ≤ host.count ':') : ∃ message, parts.port = .error message := by
  have hcolon : ':' ∈ host := List.count_pos_iff.mp (by omega)
  obtain ⟨before, after, rfl, hbefore⟩ := List.eq_append_cons_of_mem hcolon
  have hafter : ':' ∈ after := by
    rw [List.count_append, List.count_cons_self, List.count_eq_zero.mpr hbefore] at hcolons
    exact List.count_pos_iff.mp (by omega)
  have hwritten : writtenNetloc userinfo (before ++ ':' :: after) port =
      writtenNetloc userinfo before (some (after ++ (port.map (':' :: ·)).getD [])) := by
    simp [writtenNetloc]
  have hfirst : Plain ['@', ':', '[', ']'] before := by
    intro char hchar
    have hplain := hhost char (List.mem_append_left _ hchar)
    have hne : char ≠ ':' := fun heq => hbefore (heq ▸ hchar)
    refine ⟨hplain.1, ?_⟩
    simpa [hne] using hplain.2
  have hrest : Plain ['@', '['] (after ++ (port.map (':' :: ·)).getD []) := by
    apply Plain.append
    · intro char hchar
      have hmem : char ∈ before ++ ':' :: after := by simp [hchar]
      exact hhost.mono (by decide) char hmem
    · cases port with
      | none => exact Plain.nil _
      | some text =>
          intro char hchar
          rcases List.mem_cons.mp hchar with rfl | hmem
          · exact ⟨rfl, by decide⟩
          · exact hport text rfl char hmem
  have hinfo := hostinfo_writtenNetloc (hnetloc.trans hwritten) hfirst fun text htext => by
    obtain rfl := Option.some.inj htext
    exact hrest
  apply port_of_not_digits
  rw [hinfo, List.all_eq_false]
  exact ⟨':', by simp [hafter], by decide⟩

end Netloc

/-- The parts of a URL with a network location are written out. -/
theorem urlunsplit_eq_written {scheme netloc path query : Text} (hscheme : scheme ≠ [])
    (hnetloc : netloc ≠ []) (hpath : path.head? = some '/') :
    urlunsplit ⟨scheme, netloc, path, query, []⟩ =
      written scheme netloc path (if query = [] then none else some query) none := by
  by_cases hquery : query = []
  · simp [urlunsplit, written, hscheme, hnetloc, hpath, hquery]
  · simp [urlunsplit, written, hscheme, hnetloc, hpath, hquery]

end Urllib
