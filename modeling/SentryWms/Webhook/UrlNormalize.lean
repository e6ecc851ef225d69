import SentryWms.Core.Urllib
import SentryWms.Core.Table

/-!
# Canonical delivery URLs

`services/webhook_dispatcher/url_normalize.py`: the canonical form of a delivery URL, and
the gate of `routes/admin/admin_webhooks.py` that refuses a URL whose canonical form a
deleted subscription left behind.
-/

namespace SentryWms.Webhook

open Relational Urllib Urllib.SplitResult

/-! ## The canonical form -/

/-- `_DEFAULT_PORTS.get(scheme)`. -/
def defaultPort (scheme : Text) : Option ℕ :=
  if scheme = "http".toList then some 80
  else if scheme = "https".toList then some 443
  else none

/-- `userinfo`, with the separator behind it. -/
def userinfoText (parts : SplitResult) : Text :=
  match parts.username with
  | none => []
  | some username =>
      (match parts.password with
        | none => username
        | some password => username ++ ':' :: password) ++ ['@']

def rstripSlashes (path : Text) : Text := path.rdropWhile (· = '/')

/-- The path without the slashes at its end. -/
def canonicalPath (path : Text) : Text :=
  let path := if path = [] then ['/'] else path
  if path ≠ ['/'] ∧ path.getLast? = some '/' then
    if rstripSlashes path = [] then ['/'] else rstripSlashes path
  else path

def canonicalizeDeliveryUrl (checks : Checks) (url : Text) : Except String Text := do
  let parts ← urlsplit checks url
  let scheme := lower parts.scheme
  let host := lower (parts.hostname.getD [])
  let port ← parts.port
  let port := if port.isSome ∧ defaultPort scheme = port then none else port
  let netloc := userinfoText parts ++ host ++
    (port.map fun number => ':' :: Nat.toDigits 10 number).getD []
  pure (urlunsplit ⟨scheme, netloc, canonicalPath parts.path, parts.query, []⟩)

/-! ## The gate -/

/-- A row of `webhook_subscriptions_tombstones`. -/
structure UrlTombstone where
  deliveryUrlCanonical : Text
  acknowledgedAt : Option ℕ

/-- What the gate answers: a refusal with the status code 409, or a pass with the row to
acknowledge. -/
inductive GateAnswer where
  | refused (tombstoneId : ℕ)
  | passed (tombstoneId : Option ℕ)

def checkUrlTombstone (tombstones : Table UrlTombstone) (canonicalUrl : Text)
    (acknowledgeUrlReuse : Bool) : GateAnswer :=
  match (tombstones.select fun row =>
      row.deliveryUrlCanonical == canonicalUrl && row.acknowledgedAt.isNone).getLast? with
  | none => .passed none
  | some (tombstoneId, _) =>
      if acknowledgeUrlReuse then .passed (some tombstoneId) else .refused tombstoneId

theorem checkUrlTombstone_fires {tombstones : Table UrlTombstone} {canonicalUrl : Text}
    {acknowledgeUrlReuse : Bool} :
    checkUrlTombstone tombstones canonicalUrl acknowledgeUrlReuse ≠ .passed none ↔
      ∃ tombstoneId row, (tombstoneId, row) ∈ tombstones.entries ∧
        row.deliveryUrlCanonical = canonicalUrl ∧ row.acknowledgedAt = none := by
  set rows := tombstones.select fun row =>
    row.deliveryUrlCanonical == canonicalUrl && row.acknowledgedAt.isNone with hrows
  have hmem : ∀ entry, entry ∈ rows ↔ entry ∈ tombstones.entries ∧
      entry.2.deliveryUrlCanonical = canonicalUrl ∧ entry.2.acknowledgedAt = none := by
    intro entry
    rw [hrows, Table.mem_select]
    simp
  rw [checkUrlTombstone, ← hrows]
  cases hlast : rows.getLast? with
  | none =>
      have hnil : rows = [] := List.getLast?_eq_none_iff.mp hlast
      constructor
      · intro hfires
        exact absurd rfl hfires
      · rintro ⟨tombstoneId, row, hrow⟩
        have hin := (hmem (tombstoneId, row)).mpr hrow
        rw [hnil] at hin
        exact absurd hin List.not_mem_nil
  | some entry =>
      have hentry := (hmem entry).mp (List.mem_of_getLast? hlast)
      constructor
      · intro _
        exact ⟨entry.1, entry.2, hentry⟩
      · intro _
        cases acknowledgeUrlReuse <;> simp

/-! ## Paths -/

section Paths

variable {path path' : Text}

def slashesAtEnd (path : Text) : ℕ := (path.rtakeWhile (· = '/')).length

def slashless (path : Text) : Text :=
  if path.getLast? = some '/' then path.dropLast else path

theorem rstripSlashes_plain {stops : List Char} (hpath : Plain stops path) :
    Plain stops (rstripSlashes path) :=
  fun char hchar =>
    hpath char ((List.rdropWhile_prefix (fun char => decide (char = '/')) path).subset hchar)

theorem rstripSlashes_append (path : Text) :
    rstripSlashes path ++ List.replicate (slashesAtEnd path) '/' = path := by
  have hslashes : path.rtakeWhile (· = '/') =
      List.replicate (slashesAtEnd path) '/' := by
    apply List.eq_replicate_of_mem
    intro char hchar
    simpa using List.mem_rtakeWhile_imp hchar
  rw [← hslashes, rstripSlashes, List.rdropWhile_append_rtakeWhile]

@[simp]
theorem rstripSlashes_idem (path : Text) :
    rstripSlashes (rstripSlashes path) = rstripSlashes path :=
  List.rdropWhile_idempotent _ _

theorem getLast?_rstripSlashes (path : Text) :
    (rstripSlashes path).getLast? ≠ some '/' := by
  intro hlast
  have hne : rstripSlashes path ≠ [] := by
    intro hnil
    simp [hnil] at hlast
  have hnot := List.rdropWhile_last_not (fun char => decide (char = '/')) path hne
  rw [List.getLast?_eq_some_getLast hne, Option.some.injEq] at hlast
  exact hnot (decide_eq_true hlast)

theorem rstripSlashes_append_replicate (path : Text) (count : ℕ) :
    rstripSlashes (path ++ List.replicate count '/') = rstripSlashes path := by
  induction count with
  | zero => simp
  | succ count ih =>
      rw [List.replicate_succ', ← List.append_assoc, rstripSlashes,
        List.rdropWhile_concat_pos _ _ _ (by simp)]
      exact ih

theorem canonicalPath_eq (path : Text) :
    canonicalPath path = if rstripSlashes path = [] then ['/'] else rstripSlashes path := by
  have hempty : rstripSlashes [] = [] := rfl
  have hroot : rstripSlashes ['/'] = [] := by decide
  by_cases hnil : path = []
  · simp [canonicalPath, hnil, hempty]
  by_cases hslash : path = ['/']
  · simp [canonicalPath, hslash, hroot]
  by_cases hlast : path.getLast? = some '/'
  · simp [canonicalPath, hnil, hslash, hlast]
  · have hsame : rstripSlashes path = path := by
      apply (List.rdropWhile_eq_self_iff).mpr
      intro hne hchar
      apply hlast
      rw [List.getLast?_eq_some_getLast hne, of_decide_eq_true hchar]
    simp [canonicalPath, hnil, hslash, hlast, hsame]

theorem canonicalPath_idem (path : Text) :
    canonicalPath (canonicalPath path) = canonicalPath path := by
  have hroot : rstripSlashes ['/'] = [] := by decide
  rw [canonicalPath_eq path]
  by_cases hempty : rstripSlashes path = []
  · simp [canonicalPath_eq, hempty, hroot]
  · simp [canonicalPath_eq, hempty]

theorem canonicalPath_inj :
    canonicalPath path = canonicalPath path' ↔ rstripSlashes path = rstripSlashes path' := by
  have hroot : ∀ path : Text, rstripSlashes path ≠ ['/'] := by
    intro path heq
    apply getLast?_rstripSlashes path
    rw [heq]
    rfl
  rw [canonicalPath_eq, canonicalPath_eq]
  by_cases hempty : rstripSlashes path = [] <;> by_cases hempty' : rstripSlashes path' = []
  · simp [hempty, hempty']
  · simp [hempty, hempty', Ne.symm hempty', Ne.symm (hroot path')]
  · simp [hempty, hempty', hroot path]
  · simp [hempty, hempty']

theorem canonicalPath_plain {stops : List Char} (hpath : Plain stops path)
    (hslash : '/' ∉ stops) : Plain stops (canonicalPath path) := by
  rw [canonicalPath_eq]
  split
  · intro char hchar
    obtain rfl := List.mem_singleton.mp hchar
    exact ⟨rfl, hslash⟩
  · exact rstripSlashes_plain hpath

theorem head?_canonicalPath (hpath : ∀ char ∈ path.head?, char = '/') :
    (canonicalPath path).head? = some '/' := by
  rw [canonicalPath_eq]
  by_cases hempty : rstripSlashes path = []
  · simp [hempty]
  · rw [if_neg hempty]
    have hwhole := rstripSlashes_append path
    obtain ⟨first, rest, hcons⟩ := List.exists_cons_of_ne_nil hempty
    rw [hcons] at hwhole ⊢
    have hfirst : first = '/' := by
      apply hpath
      rw [← hwhole]
      rfl
    rw [hfirst]
    rfl

theorem slashless_eq (path : Text) :
    slashless path = rstripSlashes path ++ List.replicate (slashesAtEnd path - 1) '/' := by
  have hwhole := rstripSlashes_append path
  cases hcount : slashesAtEnd path with
  | zero =>
      rw [hcount] at hwhole
      have hsame : rstripSlashes path = path := by simpa using hwhole
      have hlast : path.getLast? ≠ some '/' := by
        rw [← hsame]
        exact getLast?_rstripSlashes path
      simp [slashless, hlast, hsame]
  | succ count =>
      rw [hcount, List.replicate_succ', ← List.append_assoc] at hwhole
      have hlast : path.getLast? = some '/' := by
        rw [← hwhole]
        simp
      rw [slashless, if_pos hlast, ← hwhole, List.dropLast_concat, hwhole]
      simp

theorem slashless_inj :
    slashless path = slashless path' ↔
      rstripSlashes path = rstripSlashes path' ∧
        slashesAtEnd path - 1 = slashesAtEnd path' - 1 := by
  rw [slashless_eq, slashless_eq]
  constructor
  · intro heq
    have hcore := congrArg rstripSlashes heq
    rw [rstripSlashes_append_replicate, rstripSlashes_append_replicate, rstripSlashes_idem,
      rstripSlashes_idem] at hcore
    refine ⟨hcore, ?_⟩
    rw [hcore] at heq
    have hlength := congrArg List.length heq
    simpa using hlength
  · rintro ⟨hcore, hcount⟩
    rw [hcore, hcount]

end Paths

end SentryWms.Webhook
