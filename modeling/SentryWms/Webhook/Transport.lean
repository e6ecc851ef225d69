import SentryWms.Core.Ipaddress
import SentryWms.Webhook.Dispatch

/-!
# The transport of a delivery

The SSRF guard resolves the host of the delivery URL and refuses the request if an
answer is an internal address; then the HTTP library resolves the host again and
connects. Both run in a thread that the client waits for a limited time. The guard
sees only the answers to its own lookup, so the connections of a request are
confined to public addresses exactly as far as the second lookup adds none to the
first.
-/

namespace SentryWms.Webhook

open Ipaddress

/-! ## The guard -/

/-- What `urlparse(url).hostname` makes of the delivery URL. -/
inductive Hostname where
  | name (host : String)
  | absent
  | malformed
deriving DecidableEq

/-- A result of `socket.getaddrinfo`. -/
inductive SockAddr where
  | inet (address : BitVec 32)
  | inet6 (address : BitVec 128) (scopeId : Option String)
  | otherFamily
deriving DecidableEq

/-- The outcome of `socket.getaddrinfo`. -/
inductive Lookup where
  | answers (results : List SockAddr)
  | gaierror
  | otherError
deriving DecidableEq

/-- Why the guard does not let a request through. -/
inductive GuardError where
  | ssrfRejected
  | otherError

/-- The address of a result, without its scope. -/
def SockAddr.address? : SockAddr → Option IpAddress
  | .inet address => some (.v4 address)
  | .inet6 address _ => some (.v6 address)
  | .otherFamily => none

def Lookup.addresses : Lookup → List IpAddress
  | .answers results => (results.filterMap SockAddr.address?).eraseDups
  | .gaierror | .otherError => []

def inImdsV6Net : IpAddress → Bool
  | .v4 _ => false
  | .v6 address => within address (v6 [0xfd00, 0xec2]) 32

def isDisallowedAddress (address : IpAddress) : Bool :=
  if address.isPrivate || address.isLoopback || address.isLinkLocal ||
      address.isUnspecified || address.isMulticast || address.isReserved then true
  else inImdsV6Net address

def resolveUrlAddresses (hostname : Hostname) (lookup : Lookup) :
    Except GuardError (List IpAddress) :=
  match hostname with
  | .malformed => .error .otherError
  | .absent => .error .ssrfRejected
  | .name _ =>
      match lookup with
      | .gaierror => .error .ssrfRejected
      | .otherError => .error .otherError
      | .answers _ =>
          if lookup.addresses.isEmpty then .error .ssrfRejected
          else .ok lookup.addresses

def assertUrlSafe (allowInternalWebhooks : Bool) (hostname : Hostname)
    (lookup : Lookup) : Except GuardError (List IpAddress) :=
  if allowInternalWebhooks then .ok []
  else
    match resolveUrlAddresses hostname lookup with
    | .error error => .error error
    | .ok addresses =>
        if (addresses.filter isDisallowedAddress).isEmpty then .ok addresses
        else .error .ssrfRejected

/-! ## The request -/

/-- The classes of exceptions that `classify_exception` tells apart. -/
inductive RequestError where
  | sslError
  | connectTimeout
  | readTimeout
  | tooManyRedirects
  | connectionError
  | other
deriving DecidableEq

/-- What `session.post` comes to. The advertised length of the body is what `int`
reads from the header. -/
inductive PostResult where
  | response (statusCode : ℕ) (advertised : Option ℤ)
  | error (error : RequestError)
deriving DecidableEq

/-- All that the network does during one call of `send`: the guard's lookup, the
library's own lookup, the addresses the library opens connections to, what the
request comes to and when the thread has a result. -/
structure Exchange where
  hostname : Hostname
  guardLookup : Lookup
  postLookup : Lookup
  dialed : List IpAddress
  post : PostResult
  finishedAfter : Option ℕ
deriving DecidableEq

/-- The settings of a client: the wall-clock cap in milliseconds, and the opt-out
`SENTRY_ALLOW_INTERNAL_WEBHOOKS`. -/
structure Client where
  timeout : ℕ
  allowInternalWebhooks : Bool

/-- What the request thread puts on its queue. -/
inductive ThreadResult where
  | ssrf
  | err (error : RequestError)
  | ok (statusCode : ℕ) (advertised : Option ℤ)

def doRequest (client : Client) (exchange : Exchange) : ThreadResult :=
  match assertUrlSafe client.allowInternalWebhooks exchange.hostname
      exchange.guardLookup with
  | .error .ssrfRejected => .ssrf
  | .error .otherError => .err .other
  | .ok _ =>
      match exchange.post with
      | .response statusCode advertised => .ok statusCode advertised
      | .error error => .err error

/-- The connections that `_do_request` opens, whether or not the client still waits
for it. -/
def connections (client : Client) (exchange : Exchange) : List IpAddress :=
  match assertUrlSafe client.allowInternalWebhooks exchange.hostname
      exchange.guardLookup with
  | .error _ => []
  | .ok _ => exchange.dialed

def classifyException : RequestError → String
  | .sslError => "tls"
  | .connectTimeout => "timeout"
  | .readTimeout => "timeout"
  | .tooManyRedirects => "unknown"
  | .connectionError => "connection"
  | .other => "unknown"

def classifyStatusCode (statusCode : ℕ) : String :=
  if 200 ≤ statusCode ∧ statusCode < 300 then "unknown"
  else if 500 ≤ statusCode ∧ statusCode < 600 then "5xx"
  else if 300 ≤ statusCode ∧ statusCode < 400 then "redirected"
  else "4xx"

def maxResponseBodyBytes : ℤ := 64 * 1024

def answer (statusCode : ℕ) (advertised : Option ℤ) : HttpResponse :=
  if maxResponseBodyBytes < advertised.getD 0 then
    let kind := classifyStatusCode statusCode
    { statusCode := some statusCode
      errorKind := some
        (if kind = "4xx" ∨ kind = "5xx" ∨ kind = "redirected" then kind else "5xx") }
  else if 200 ≤ statusCode ∧ statusCode < 300 then
    { statusCode := some statusCode, errorKind := none }
  else
    { statusCode := some statusCode, errorKind := some (classifyStatusCode statusCode) }

/-- The thread has put its result on the queue before the wall-clock cap. -/
def inTime (client : Client) (exchange : Exchange) : Bool :=
  exchange.finishedAfter.any fun elapsed => elapsed < client.timeout

def send (client : Client) (exchange : Exchange) : HttpResponse :=
  if inTime client exchange then
    match doRequest client exchange with
    | .ssrf => { statusCode := none, errorKind := some "ssrf_rejected" }
    | .err error => { statusCode := none, errorKind := some (classifyException error) }
    | .ok statusCode advertised => answer statusCode advertised
  else { statusCode := none, errorKind := some "timeout" }

/-! ## What the guard decides -/

theorem isPrivate_of_imds {address : IpAddress} (himds : inImdsV6Net address = true) :
    address.isPrivate = true := by
  cases address with
  | v4 address => cases himds
  | v6 address =>
      have hmapped : ipv4Mapped address = none := by
        rw [Option.eq_none_iff_forall_ne_some]
        intro carried hcarried
        exact absurd (within_overlap himds (within_of_mapped hcarried) (by decide)
          (by decide)) (by decide)
      have hprivate : inAny privateNetworks6 address = true :=
        inAny_eq_true.mpr ⟨(v6 [0xfc00], 7), by decide,
          within_trans (by decide : 7 ≤ 32) (by decide) (by decide) himds⟩
      have hexception : inAny privateExceptions6 address = false := by
        rw [Bool.eq_false_iff]
        intro hin
        obtain ⟨network, hmem, hwithin⟩ := inAny_eq_true.mp hin
        have hlength : ∀ network ∈ privateExceptions6, network.2 ≤ 128 ∧
            within (v6 [0xfd00, 0xec2]) network.1 (min 32 network.2) = false := by
          decide
        obtain ⟨hshort, hdisjoint⟩ := hlength network hmem
        rw [within_overlap himds hwithin (by decide) hshort] at hdisjoint
        cases hdisjoint
      change isPrivate6 address = true
      simp [isPrivate6, hmapped, hprivate, hexception]

theorem isDisallowedAddress_eq_isInternal (address : IpAddress) :
    isDisallowedAddress address = address.isInternal := by
  rw [IpAddress.isInternal_eq_isSpecial, Bool.eq_iff_iff]
  unfold isDisallowedAddress IpAddress.isSpecial
  constructor
  · intro hdisallowed
    split at hdisallowed
    · rename_i hspecial
      simp only [Bool.or_eq_true] at hspecial ⊢
      tauto
    · simp [isPrivate_of_imds hdisallowed]
  · intro hspecial
    rw [if_pos]
    simp only [Bool.or_eq_true] at hspecial ⊢
    tauto

/-- The host has no address that the guard could check. -/
def Unresolved (exchange : Exchange) : Prop :=
  exchange.hostname = .absent ∨
    ∃ host, exchange.hostname = .name host ∧
      (exchange.guardLookup = .gaierror ∨
        ∃ results, exchange.guardLookup = .answers results ∧
          exchange.guardLookup.addresses = [])

def ResolvesInternally (exchange : Exchange) : Prop :=
  (∃ host, exchange.hostname = .name host) ∧
    ∃ address ∈ exchange.guardLookup.addresses, address.isInternal = true

variable {addresses : List IpAddress}

theorem filter_isDisallowed_eq_nil :
    (addresses.filter isDisallowedAddress).isEmpty = true ↔
      ∀ address ∈ addresses, address.isInternal = false := by
  simp [isDisallowedAddress_eq_isInternal]

variable {exchange : Exchange}

theorem assertUrlSafe_ssrfRejected {allowInternalWebhooks : Bool} :
    assertUrlSafe allowInternalWebhooks exchange.hostname exchange.guardLookup =
        .error .ssrfRejected ↔
      allowInternalWebhooks = false ∧
        (Unresolved exchange ∨ ResolvesInternally exchange) := by
  unfold assertUrlSafe Unresolved ResolvesInternally
  cases allowInternalWebhooks with
  | true => simp
  | false =>
      cases hhostname : exchange.hostname with
      | malformed => simp [resolveUrlAddresses]
      | absent => simp [resolveUrlAddresses]
      | name host =>
          cases hlookup : exchange.guardLookup with
          | gaierror => simp [resolveUrlAddresses]
          | otherError => simp [resolveUrlAddresses, Lookup.addresses]
          | answers results =>
              by_cases hnone : Lookup.addresses (.answers results) = []
              · simp [resolveUrlAddresses, hnone]
              · by_cases hpublic : ∀ address ∈ Lookup.addresses (.answers results),
                    address.isInternal = false
                · simp [resolveUrlAddresses, hnone, isDisallowedAddress_eq_isInternal]
                · simp [resolveUrlAddresses, hnone, isDisallowedAddress_eq_isInternal]

theorem addresses_of_resolved {hostname : Hostname} {lookup : Lookup}
    (hresolved : resolveUrlAddresses hostname lookup = .ok addresses) :
    addresses = lookup.addresses := by
  unfold resolveUrlAddresses at hresolved
  split at hresolved
  · cases hresolved
  · cases hresolved
  · split at hresolved
    · cases hresolved
    · cases hresolved
    · split at hresolved
      · cases hresolved
      · cases hresolved
        rfl

theorem not_internal_of_assertUrlSafe {hostname : Hostname} {lookup : Lookup}
    (hsafe : assertUrlSafe false hostname lookup = .ok addresses) :
    ∀ address ∈ lookup.addresses, address.isInternal = false := by
  rw [assertUrlSafe, if_neg Bool.false_ne_true] at hsafe
  cases hresolved : resolveUrlAddresses hostname lookup with
  | error error =>
      rw [hresolved] at hsafe
      cases hsafe
  | ok resolved =>
      rw [hresolved] at hsafe
      dsimp only at hsafe
      rw [addresses_of_resolved hresolved] at hsafe
      by_cases hpublic : (lookup.addresses.filter isDisallowedAddress).isEmpty = true
      · exact filter_isDisallowed_eq_nil.mp hpublic
      · rw [if_neg hpublic] at hsafe
        cases hsafe

/-! ## Where the connections go -/

/-- The guard does not let the request through. -/
def Refused (client : Client) (exchange : Exchange) : Prop :=
  client.allowInternalWebhooks = false ∧
    (Unresolved exchange ∨ ResolvesInternally exchange ∨
      exchange.hostname = .malformed ∨ exchange.guardLookup = .otherError)

/-- Among the answers to the library's lookup, those that the guard has not checked
are public. -/
def AddsNoInternal (client : Client) (exchange : Exchange) : Prop :=
  ∀ address ∈ exchange.postLookup.addresses,
    (client.allowInternalWebhooks = true ∨
      address ∉ exchange.guardLookup.addresses) → address.isInternal = false

/-- The library connects to addresses of its own lookup, and to nothing else. -/
def FromOwnLookup (exchange : Exchange) (dialed : List IpAddress) : Prop :=
  ∀ address ∈ dialed, address ∈ exchange.postLookup.addresses

instance (exchange : Exchange) (dialed : List IpAddress) :
    Decidable (FromOwnLookup exchange dialed) := by
  unfold FromOwnLookup
  infer_instance

theorem assertUrlSafe_otherError {allowInternalWebhooks : Bool}
    (herror : assertUrlSafe allowInternalWebhooks exchange.hostname exchange.guardLookup = .error .otherError) :
    allowInternalWebhooks = false ∧
      (exchange.hostname = .malformed ∨ exchange.guardLookup = .otherError) := by
  unfold assertUrlSafe resolveUrlAddresses at herror
  cases allowInternalWebhooks with
  | true => cases herror
  | false =>
      cases hhostname : exchange.hostname with
      | malformed => exact ⟨rfl, .inl rfl⟩
      | absent => simp [hhostname] at herror
      | name host =>
          cases hlookup : exchange.guardLookup with
          | gaierror => simp [hhostname, hlookup] at herror
          | otherError => exact ⟨rfl, .inr rfl⟩
          | answers results =>
              simp only [hhostname, hlookup, Bool.false_eq_true, if_false] at herror
              split at herror
              · rename_i hresolved
                split at hresolved <;> cases hresolved
                cases herror
              · split at herror <;> cases herror

theorem not_ok_of_refused {client : Client} (hrefused : Refused client exchange)
    (addresses : List IpAddress) :
    assertUrlSafe client.allowInternalWebhooks exchange.hostname exchange.guardLookup ≠
      .ok addresses := by
  obtain ⟨hactive, hunresolved | hinternal | hmalformed | herror⟩ := hrefused
  · simp [assertUrlSafe_ssrfRejected.mpr ⟨hactive, .inl hunresolved⟩]
  · simp [assertUrlSafe_ssrfRejected.mpr ⟨hactive, .inr hinternal⟩]
  · simp [hactive, hmalformed, assertUrlSafe, resolveUrlAddresses]
  · cases hhostname : exchange.hostname <;>
      simp [hactive, herror, assertUrlSafe, resolveUrlAddresses]

theorem refused_of_error {client : Client} {error : GuardError}
    (hguard : assertUrlSafe client.allowInternalWebhooks exchange.hostname exchange.guardLookup = .error error) : Refused client exchange := by
  cases error with
  | ssrfRejected =>
      obtain ⟨hactive, hunresolved | hinternal⟩ := assertUrlSafe_ssrfRejected.mp hguard
      · exact ⟨hactive, .inl hunresolved⟩
      · exact ⟨hactive, .inr (.inl hinternal)⟩
  | otherError =>
      obtain ⟨hactive, herror⟩ := assertUrlSafe_otherError hguard
      exact ⟨hactive, .inr (.inr herror)⟩

/-- The connections of a request go to public addresses, whichever of its answers the
library dials, exactly when the guard refuses the request or the second lookup adds
no internal address to the first. -/
theorem connections_public_iff (client : Client) (exchange : Exchange) :
    (∀ dialed, FromOwnLookup exchange dialed →
      ∀ address ∈ connections client { exchange with dialed },
        address.isInternal = false) ↔
      Refused client exchange ∨ AddsNoInternal client exchange := by
  cases hguard : assertUrlSafe client.allowInternalWebhooks exchange.hostname
      exchange.guardLookup with
  | error error =>
      have hnone : ∀ dialed, connections client { exchange with dialed } = [] := by
        intro dialed
        simp only [connections, hguard]
      constructor
      · intro _
        exact .inl (refused_of_error hguard)
      · intro _ dialed _ address hmem
        rw [hnone] at hmem
        cases hmem
  | ok addresses =>
      have hdialed : ∀ dialed, connections client { exchange with dialed } = dialed := by
        intro dialed
        simp only [connections, hguard]
      constructor
      · intro hpublic
        right
        intro address hmem _
        have hsingle : FromOwnLookup exchange [address] := by
          intro address' hmem'
          rwa [List.mem_singleton.mp hmem']
        exact hpublic [address] hsingle address (by rw [hdialed]; exact List.mem_singleton_self _)
      · rintro (hrefused | hadds) dialed hown address hmem
        · exact absurd hguard (not_ok_of_refused hrefused addresses)
        · rw [hdialed] at hmem
          by_cases hchecked : client.allowInternalWebhooks = true ∨
              address ∉ exchange.guardLookup.addresses
          · exact hadds address (hown address hmem) hchecked
          · rw [not_or, not_not, Bool.not_eq_true] at hchecked
            rw [hchecked.1] at hguard
            exact not_internal_of_assertUrlSafe hguard address hchecked.2

/-! ## A rebound name -/

/-- The guard's lookup answers a public address, the library's lookup the metadata
service. -/
def reboundExchange : Exchange where
  hostname := .name "hooks.example.com"
  guardLookup := .answers [.inet (v4 93 184 216 34)]
  postLookup := .answers [.inet (v4 169 254 169 254)]
  dialed := [.v4 (v4 169 254 169 254)]
  post := .response 200 (some 2)
  finishedAfter := some 35

def productionClient : Client where
  timeout := 10000
  allowInternalWebhooks := false

theorem rebound_name_reached :
    ¬ ∀ client exchange, client.allowInternalWebhooks = false →
      FromOwnLookup exchange exchange.dialed →
      ∀ address ∈ connections client exchange, address.isInternal = false := by
  intro hclaim
  have hown : FromOwnLookup reboundExchange reboundExchange.dialed := by
    decide
  have hpublic := hclaim productionClient reboundExchange rfl hown
    (.v4 (v4 169 254 169 254)) (by decide)
  exact absurd hpublic (by decide)

end SentryWms.Webhook
