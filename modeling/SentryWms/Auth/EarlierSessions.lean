import SentryWms.Auth.AuthRequests

/-!
# A password change ends the earlier sessions

A token is judged by the second of its issue against the second in which the transaction
of the last change began. The judgement is right for every token if the change commits
before any token of that second is issued, and if no refresh issues a token on the strength
of one that the change has outdated in the meantime.
-/

namespace SentryWms.Auth

open ReadCommitted Interleaving Transition

/-! ## The property -/

/-- A token is a token itself, or was refreshed from it, or from one that was. -/
inductive ObtainedFrom (issued : List Issued) (origin : ℕ) : ℕ → Prop where
  | itself : ObtainedFrom issued origin origin
  | refreshed {source token : ℕ} {entry : Issued} :
      ObtainedFrom issued origin source → issued[token]? = some entry →
        entry.source = some source → ObtainedFrom issued origin token

/-- No token has passed `require_auth` after a password change that was committed after it,
or a token it was obtained from, was issued. -/
def SessionsEnded {τ : Type} (db : Database τ) : Prop :=
  ∀ token changes, (token, changes) ∈ db.passed → ∀ (origin : ℕ) (entry : Issued),
    ObtainedFrom db.issued origin token → db.issued[origin]? = some entry →
      changes ≤ entry.changes

/-! ## The user's row -/

section Rows

variable {τ : Type} {account : Version (Account τ)} {txn : ℕ}

/-- An open transaction has changed the password of the row, or nothing. -/
def Pending : Version (Account τ) → Prop
  | .stable _ => True
  | .written _ none _ => False
  | .written _ (some committed) latest =>
      latest = committed ∨ committed.changes < latest.changes

theorem Pending.write_same (hpending : Pending account) :
    Pending (account.write txn account.latest) := by
  cases account with
  | stable value => exact .inl rfl
  | written writer committed latest =>
      cases committed with
      | none => exact hpending
      | some committed => exact hpending

theorem Pending.write_change (hpending : Pending account) {value : Account τ}
    (hvalue : account.latest.changes < value.changes) : Pending (account.write txn value) := by
  cases account with
  | stable value => exact .inr hvalue
  | written writer committed latest =>
      cases committed with
      | none => exact hpending
      | some committed =>
          rcases hpending with rfl | hchanged
          · exact .inr hvalue
          · exact .inr (hchanged.trans hvalue)

theorem committed_write (value : Account τ) :
    (account.write txn value).committed = account.committed := by
  cases account <;> rfl

theorem Pending.undo (hpending : Pending account) : Pending (account.undo txn) := by
  cases account with
  | stable value => trivial
  | written writer committed latest =>
      cases committed with
      | none => cases hpending
      | some committed =>
          rw [Version.undo]
          split
          · trivial
          · exact hpending

theorem Pending.settle (hpending : Pending account) : Pending (account.settle txn) := by
  cases account with
  | stable value => trivial
  | written writer committed latest =>
      rw [Version.settle]
      split
      · trivial
      · exact hpending

end Rows

variable {τ : Type} [Field τ] [LinearOrder τ] [FloorRing τ]

/-! ## The condition -/

/-- When a password change is committed, every token issued so far is outdated by it, and
when a token is refreshed, it is not outdated by then. -/
def AllowedToken (db : Database τ) (txn : ℕ) : Statement τ → Prop
  | .commit =>
      ((db.account.heldBy txn).all fun written =>
        db.account.committed.any (fun account => account.changes == written.changes) ||
          db.issued.all fun entry => outdated entry.payload written.passwordChangedAt) = true
  | .issueToken (some source) =>
      (db.issued[source]?.any fun entry => db.account.committed.any fun account =>
        !outdated entry.payload account.passwordChangedAt) = true
  | _ => True

instance (db : Database τ) (txn : ℕ) (statement : Statement τ) :
    Decidable (AllowedToken db txn statement) := by
  cases statement with
  | issueToken source => cases source <;> unfold AllowedToken <;> infer_instance
  | _ => unfold AllowedToken; infer_instance

/-! ## The invariant -/

/-- The tokens as judged by a committed row: those that were obtained from a token issued
before its last change are outdated. -/
structure Judged (issued : List Issued) (account : Account τ) : Prop where
  changes : ∀ (token : ℕ) (entry : Issued), issued[token]? = some entry → entry.changes ≤ account.changes
  outdated : ∀ (origin token : ℕ) (earlier entry : Issued), ObtainedFrom issued origin token →
    issued[origin]? = some earlier → issued[token]? = some entry →
    earlier.changes < account.changes → outdated entry.payload account.passwordChangedAt = true

/-- A token is refreshed from an earlier one. -/
def Sourced (issued : List Issued) : Prop :=
  ∀ (token : ℕ) (entry : Issued), issued[token]? = some entry → ∀ source,
    entry.source = some source → source < token

/-- The invariant of the user's row, the tokens, and those that have passed. -/
structure Invariant (account : Version (Account τ)) (issued : List Issued)
    (passed : List (ℕ × ℕ)) : Prop where
  pending : Pending account
  judged : ∀ committed, account.committed = some committed → Judged issued committed
  sources : Sourced issued
  known : ∀ token changes, (token, changes) ∈ passed → token < issued.length
  ended : ∀ token changes, (token, changes) ∈ passed → ∀ (origin : ℕ) (entry : Issued),
    ObtainedFrom issued origin token → issued[origin]? = some entry → changes ≤ entry.changes

variable {account : Version (Account τ)} {issued : List Issued} {passed : List (ℕ × ℕ)}
  {txn : ℕ}

/-! ## The end of a transaction -/

theorem Invariant.rewrite (hinvariant : Invariant account issued passed)
    {after : Version (Account τ)} (hpending : Pending after)
    (hcommitted : after.committed = account.committed) : Invariant after issued passed :=
  { hinvariant with
    pending := hpending
    judged := fun committed h => hinvariant.judged committed (hcommitted ▸ h) }

theorem Invariant.settle (hinvariant : Invariant account issued passed)
    (hallowed : ((account.heldBy txn).all fun written =>
      account.committed.any (fun before => before.changes == written.changes) ||
        issued.all fun entry => outdated entry.payload written.passwordChangedAt) = true) :
    Invariant (account.settle txn) issued passed := by
  refine { hinvariant with pending := hinvariant.pending.settle, judged := ?_ }
  intro settled hsettled
  cases account with
  | stable value => exact hinvariant.judged settled hsettled
  | written writer committed latest =>
      by_cases hwriter : writer = txn
      · cases committed with
        | none => exact hinvariant.pending.elim
        | some before =>
            rw [Version.settle, if_pos hwriter] at hsettled
            obtain rfl : latest = settled := Option.some.inj hsettled
            have hbefore := hinvariant.judged before rfl
            rcases hinvariant.pending with rfl | hchanged
            · exact hbefore
            · have hall : issued.all (fun entry =>
                  outdated entry.payload latest.passwordChangedAt) = true := by
                simpa [Version.heldBy, hwriter, Version.committed, hchanged.ne] using hallowed
              refine ⟨fun token entry hentry => ?_, fun origin token earlier entry _ _ hentry _ => ?_⟩
              · exact (hbefore.changes token entry hentry).trans hchanged.le
              · exact List.all_eq_true.mp hall entry (List.mem_of_getElem? hentry)
      · rw [Version.settle, if_neg hwriter] at hsettled
        exact hinvariant.judged settled hsettled

/-! ## Issuing a token -/

variable {token : ℕ}

theorem ObtainedFrom.before {new : Issued} {origin : ℕ} (hsources : Sourced issued)
    (hobtained : ObtainedFrom (issued ++ [new]) origin token)
    (htoken : token < issued.length) :
    ObtainedFrom issued origin token := by
  induction hobtained with
  | itself => exact .itself
  | @refreshed source token entry _ hentry hsource ih =>
      rw [List.getElem?_append_left htoken] at hentry
      have hearlier := hsources token entry hentry source hsource
      exact .refreshed (ih (hearlier.trans htoken)) hentry hsource

theorem ObtainedFrom.origin_le {origin : ℕ} (hsources : Sourced issued)
    (hobtained : ObtainedFrom issued origin token) : origin ≤ token := by
  induction hobtained with
  | itself => exact le_rfl
  | @refreshed source token entry _ hentry hsource ih =>
      exact ih.trans (hsources token entry hentry source hsource).le

variable {committed : Account τ}

theorem Invariant.issue (hinvariant : Invariant account issued passed) {new : Issued}
    (hcommitted : account.committed = some committed)
    (hchanges : new.changes = committed.changes)
    (hsource : ∀ source, new.source = some source → ∃ entry, issued[source]? = some entry ∧ outdated entry.payload committed.passwordChangedAt = false) :
    Invariant account (issued ++ [new]) passed := by
  have hnew : ∀ {token entry}, (issued ++ [new])[token]? = some entry →
      issued[token]? = some entry ∨ token = issued.length ∧ entry = new := by
    intro token entry hentry
    rcases lt_trichotomy token issued.length with hlt | heq | hgt
    · exact .inl (List.getElem?_append_left hlt ▸ hentry)
    · subst heq
      rw [List.getElem?_concat_length] at hentry
      exact .inr ⟨rfl, (Option.some.inj hentry).symm⟩
    · rw [List.getElem?_eq_none (by simp; omega)] at hentry
      cases hentry
  have hlength : ∀ {token entry}, issued[token]? = some entry → token < issued.length :=
    fun hentry => (List.getElem?_eq_some_iff.mp hentry).1
  have hsources : Sourced (issued ++ [new]) := by
    intro token entry hentry source hfrom
    rcases hnew hentry with hold | ⟨rfl, rfl⟩
    · exact hinvariant.sources token entry hold source hfrom
    · obtain ⟨earlier, hearlier, -⟩ := hsource source hfrom
      exact hlength hearlier
  have hjudged := hinvariant.judged committed hcommitted
  refine ⟨hinvariant.pending, ?_, hsources, ?_, ?_⟩
  · intro account' haccount'
    obtain rfl : committed = account' := Option.some.inj (hcommitted.symm.trans haccount')
    refine ⟨fun token entry hentry => ?_, ?_⟩
    · rcases hnew hentry with hold | ⟨-, rfl⟩
      · exact hjudged.changes token entry hold
      · exact hchanges.le
    · intro origin token earlier entry hobtained hearlier hentry hlt
      rcases hnew hentry with hold | ⟨rfl, rfl⟩
      · have hbefore := hobtained.before hinvariant.sources (hlength hold)
        have horigin := (hbefore.origin_le hinvariant.sources).trans_lt (hlength hold)
        rw [List.getElem?_append_left horigin] at hearlier
        exact hjudged.outdated origin token earlier entry hbefore hearlier hold hlt
      · cases hobtained with
        | itself =>
            rw [List.getElem?_concat_length] at hearlier
            obtain rfl := Option.some.inj hearlier
            exact absurd hlt (hchanges ▸ lt_irrefl _)
        | @refreshed source _ found hfrom hfound hsourced =>
            obtain rfl : entry = found := by
              rw [List.getElem?_concat_length] at hfound
              exact Option.some.inj hfound
            obtain ⟨known, hknown, hvalid⟩ := hsource source hsourced
            have hbefore := hfrom.before hinvariant.sources (hlength hknown)
            have horigin := (hbefore.origin_le hinvariant.sources).trans_lt (hlength hknown)
            rw [List.getElem?_append_left horigin] at hearlier
            have hold := hjudged.outdated origin source earlier known hbefore hearlier hknown hlt
            rw [hvalid] at hold
            cases hold
  · intro token changes hpassed
    rw [List.length_append]
    exact (hinvariant.known token changes hpassed).trans_le (Nat.le_add_right _ _)
  · intro token changes hpassed origin entry hobtained hentry
    have htoken := hinvariant.known token changes hpassed
    have hbefore := hobtained.before hinvariant.sources htoken
    have horigin := (hbefore.origin_le hinvariant.sources).trans_lt htoken
    rw [List.getElem?_append_left horigin] at hentry
    exact hinvariant.ended token changes hpassed origin entry hbefore hentry

/-! ## Judging a token -/

variable {endpoint : String}

theorem not_outdated_of_judge {payload : Payload}
    (hjudge : judge endpoint payload committed = .passed) :
    outdated payload committed.passwordChangedAt = false := by
  rw [judge] at hjudge
  split at hjudge
  · cases hjudge
  · split at hjudge
    · cases hjudge
    · next hvalid => exact Bool.eq_false_iff.mpr hvalid

theorem Invariant.pass (hinvariant : Invariant account issued passed) {entry : Issued}
    (hcommitted : account.committed = some committed) (hentry : issued[token]? = some entry)
    (hvalid : outdated entry.payload committed.passwordChangedAt = false) :
    Invariant account issued (passed ++ [(token, committed.changes)]) := by
  refine { hinvariant with known := ?_, ended := ?_ }
  · intro other changes hother
    rcases List.mem_append.mp hother with hold | hnew
    · exact hinvariant.known other changes hold
    · obtain ⟨rfl, -⟩ := Prod.mk.inj (List.mem_singleton.mp hnew)
      exact (List.getElem?_eq_some_iff.mp hentry).1
  · intro other changes hother origin earlier hobtained hearlier
    rcases List.mem_append.mp hother with hold | hnew
    · exact hinvariant.ended other changes hold origin earlier hobtained hearlier
    · obtain ⟨rfl, rfl⟩ := Prod.mk.inj (List.mem_singleton.mp hnew)
      by_contra hlt
      have hold := (hinvariant.judged committed hcommitted).outdated origin other earlier entry
        hobtained hearlier hentry (not_le.mp hlt)
      rw [hvalid] at hold
      cases hold

/-! ## Runs -/

variable {library : Library τ} {db after : Database τ}

def TokensHold (db : Database τ) : Prop :=
  Invariant db.account db.issued db.passed

theorem TokensHold.writeAttempts (hholds : TokensHold db) {key : String}
    {change : Option (Attempts τ) → Option (Attempts τ)}
    (hwrite : db.writeAttempts txn key change = some after) : TokensHold after := by
  rw [(Database.writeAttempts_eq hwrite).2]
  exact hholds

theorem TokensHold.deleteIf (hholds : TokensHold db) {key : String} {cond : Attempts τ → Bool}
    (hdelete : db.deleteIf txn key cond = some after) : TokensHold after := by
  rcases Database.deleteIf_eq hdelete with rfl | ⟨-, hwrite⟩
  · exact hholds
  · exact hholds.writeAttempts hwrite

/-- A row that is locked for a login is what it was. -/
theorem TokensHold.touch (hholds : TokensHold db) (hwrite : db.writeAccount txn id = some after) :
    TokensHold after := by
  rw [(Database.writeAccount_eq hwrite).2]
  exact hholds.rewrite hholds.pending.write_same (committed_write _)

theorem TokensHold.change (hholds : TokensHold db) {change : Account τ → Account τ}
    (hchange : ∀ account, account.changes < (change account).changes)
    (hwrite : db.writeAccount txn change = some after) : TokensHold after := by
  rw [(Database.writeAccount_eq hwrite).2]
  exact hholds.rewrite (hholds.pending.write_change (hchange _)) (committed_write _)

theorem TokensHold.checkToken (hholds : TokensHold db) {result : Database τ × Judgement}
    (hperform : performIn library db txn (.checkToken token endpoint) = some result) :
    TokensHold result.1 := by
  rw [performIn] at hperform
  split at hperform
  · next entry account hentry haccount =>
      split at hperform
      · next hjudge =>
          rw [← Option.some.inj hperform]
          exact hholds.pass haccount hentry (not_outdated_of_judge hjudge)
      · rw [← Option.some.inj hperform]
        exact hholds
  · rw [← Option.some.inj hperform]
    exact hholds

theorem TokensHold.issueToken (hholds : TokensHold db) {source : Option ℕ}
    (hallowed : AllowedToken db txn (.issueToken source)) {result : Database τ × ℕ}
    (hperform : performIn library db txn (.issueToken source) = some result) :
    TokensHold result.1 := by
  rw [← Option.some.inj hperform]
  cases hcommitted : db.account.committed with
  | none =>
      have hpending := hholds.pending
      cases haccount : db.account with
      | stable value => simp [haccount, Version.committed] at hcommitted
      | written writer committed latest =>
          obtain rfl : committed = none := by simpa [haccount, Version.committed] using hcommitted
          rw [haccount] at hpending
          exact hpending.elim
  | some committed =>
      refine Invariant.issue hholds hcommitted rfl ?_
      rintro source' rfl
      obtain ⟨entry, hentry, hvalid⟩ := (Option.any_eq_true _ _).mp hallowed
      obtain ⟨account, haccount, hvalid⟩ := (Option.any_eq_true _ _).mp hvalid
      obtain rfl : committed = account := Option.some.inj (hcommitted.symm.trans haccount)
      exact ⟨entry, hentry, by simpa using hvalid⟩

/-- One step keeps the invariant. -/
theorem TokensHold.perform (hholds : TokensHold db) {statement : Statement τ}
    (hallowed : AllowedToken db txn statement) {result : Database τ × Answer τ statement}
    (hperform : Auth.perform library db txn statement = some result) : TokensHold result.1 := by
  have hbegin : TokensHold (db.begin txn) := hholds
  cases statement with
  | wait duration =>
      obtain ⟨-, heq⟩ := Option.ite_none_right_eq_some.mp hperform
      rw [← Option.some.inj heq]
      exact hholds
  | checkRateLimit key =>
      change performIn library (db.begin txn) txn (.checkRateLimit key) = some result at hperform
      rw [performIn] at hperform
      split at hperform <;> rw [← Option.some.inj hperform] <;> exact hholds
  | touchLastLogin =>
      obtain ⟨after, hwrite, rfl⟩ := Option.map_eq_some_iff.mp hperform
      exact hbegin.touch hwrite
  | upsertFailure key =>
      obtain ⟨after, hwrite, rfl⟩ := Option.map_eq_some_iff.mp hperform
      exact hbegin.writeAttempts hwrite
  | setLocked key lockedUntil =>
      obtain ⟨after, hwrite, rfl⟩ := Option.map_eq_some_iff.mp hperform
      exact hbegin.writeAttempts hwrite
  | deleteAttempts key =>
      obtain ⟨after, hdelete, rfl⟩ := Option.map_eq_some_iff.mp hperform
      exact hbegin.deleteIf hdelete
  | deleteStale key cutoff =>
      obtain ⟨after, hdelete, rfl⟩ := Option.map_eq_some_iff.mp hperform
      exact hbegin.deleteIf hdelete
  | updatePassword passwordHash =>
      obtain ⟨after, hwrite, rfl⟩ := Option.map_eq_some_iff.mp hperform
      exact hbegin.change (fun account => Nat.lt_succ_self _) hwrite
  | commit =>
      rw [← Option.some.inj hperform]
      exact hholds.settle hallowed
  | issueToken source => exact hholds.issueToken hallowed hperform
  | checkToken token endpoint => exact hholds.checkToken hperform
  | readClock | authenticate _ _ _ | selectAttempts _ | readAccount | decodeToken _ =>
      rw [← Option.some.inj hperform]
      exact hholds

theorem TokensHold.rollback (hholds : TokensHold db) (txn : ℕ) : TokensHold (db.rollback txn) := by
  refine hholds.rewrite hholds.pending.undo ?_
  change (db.account.undo txn).committed = db.account.committed
  exact Version.committed_undo

def ClosesOnly : AuthProgram τ → Prop
  | .reply commits _ => commits = false
  | .exec _ next => ∀ answer, ClosesOnly (next answer)

omit [Field τ] [LinearOrder τ] [FloorRing τ] in
theorem requireAuth_closesOnly {handler : AuthProgram τ}
    (hhandler : ClosesOnly handler) : ClosesOnly (requireAuth token endpoint handler) := by
  intro (decoded : Bool)
  cases decoded with
  | false => rfl
  | true =>
      intro (judgement : Judgement)
      cases judgement with
      | passed => exact hhandler
      | _ => rfl

omit [Field τ] [LinearOrder τ] [FloorRing τ] in
theorem refresh_closesOnly (token : ℕ) : ClosesOnly (Auth.refresh token : AuthProgram τ) := by
  apply requireAuth_closesOnly
  intro (account : Option (Account τ))
  change ClosesOnly (if _ then _ else _)
  split
  · intro issued
    rfl
  · rfl

omit [Field τ] [LinearOrder τ] [FloorRing τ] in
theorem changePassword_closesOnly (token : ℕ) (request : ChangePasswordRequest) :
    ClosesOnly (Auth.changePassword library token request) := by
  apply requireAuth_closesOnly
  cases validatePassword library request.newPassword with
  | some message => rfl
  | none =>
      intro (account : Option (Account τ))
      change ClosesOnly (if _ then _ else _)
      split
      · intro _ _
        rfl
      · rfl

omit [LinearOrder τ] [FloorRing τ] in
theorem recordFailure_closesOnly (config : Config) (key : String) (allowLockout : Bool)
    {next : Bool → AuthProgram τ} (hnext : ∀ locked, ClosesOnly (next locked)) :
    ClosesOnly (recordFailure config library key allowLockout next) := by
  intro now _ row
  change ClosesOnly (if _ then _ else _)
  split
  · intro _ _
    exact hnext true
  · intro _
    exact hnext false

omit [LinearOrder τ] [FloorRing τ] in
theorem login_closesOnly (config : Config) (request : LoginRequest) :
    ClosesOnly (Auth.login config library request) := by
  intro (remaining : Option ℤ)
  cases remaining with
  | some remaining => rfl
  | none =>
      intro (found : Bool)
      cases found with
      | true =>
          intro _ _ _ _ _ _ token
          rfl
      | false =>
          refine recordFailure_closesOnly config _ false fun _ =>
            recordFailure_closesOnly config _ true fun locked => ?_
          cases locked <;> rfl

omit [Field τ] [LinearOrder τ] [FloorRing τ] in
theorem deleteStaleRows_closesOnly (cutoff : τ) (keys : List String) :
    ClosesOnly (deleteStaleRows cutoff keys) := by
  induction keys with
  | nil =>
      intro _
      rfl
  | cons key rest ih =>
      intro _
      exact ih

omit [LinearOrder τ] [FloorRing τ] in
theorem program_closesOnly (config : Config) (request : AuthRequest τ) :
    ClosesOnly (request.program config library) := by
  cases request with
  | wait duration =>
      intro _
      rfl
  | login request => exact login_closesOnly config request
  | refresh token => exact refresh_closesOnly token
  | changePassword token request => exact changePassword_closesOnly token request
  | access token endpoint => exact requireAuth_closesOnly rfl
  | cleanup keys =>
      intro (now : τ)
      exact deleteStaleRows_closesOnly _ keys

theorem cooperating_tokens (config : Config) (library : Library τ) :
    Cooperating (engine library) (AuthRequest.program config library) AllowedToken
      (fun db _ => TokensHold db) (fun _ _ session => ∀ program ∈ session, ClosesOnly program) where
  begins := by
    intro db replies txn _ _ request program hprogram
    obtain rfl := Option.mem_some.mp hprogram
    exact program_closesOnly config request
  performs := by
    intro db replies txn statement next result hholds hcloses hallowed hperform
    refine ⟨hholds.perform hallowed hperform, ?_, fun _ _ _ hother => hother⟩
    intro program hprogram
    obtain rfl := Option.mem_some.mp hprogram
    exact hcloses _ rfl _
  commits := by
    intro db replies txn value _ hcloses
    cases hcloses _ rfl
  refuses := fun hholds _ => hholds.rollback _
  rollsBack := fun hholds _ => ⟨hholds.rollback _, nofun, fun _ _ _ hother => hother⟩

/-- No transaction is open on the user's row, and no token has been issued yet. -/
structure AtStart (db : Database τ) : Prop where
  account : ∃ account, db.account = .stable account
  issued : db.issued = []
  passed : db.passed = []

theorem AtStart.tokensHold (hstart : AtStart db) : TokensHold db := by
  obtain ⟨account, haccount⟩ := hstart.account
  rw [TokensHold, haccount, hstart.issued, hstart.passed]
  exact ⟨trivial, fun committed _ => ⟨nofun, nofun⟩, nofun, nofun, nofun⟩

/-- In every run in which the password changes outdate what has been issued when they
commit, and no outdated token is refreshed, no token passes after a change that was
committed after its issue, or the issue of a token it was obtained from. -/
theorem sessionsEnded_of_run (config : Config) (library : Library τ)
    {acts : List (Act (AuthRequest τ))} {after : AuthSystem τ} (hstart : AtStart db)
    (hrun : Run (Interleaving.step (engine library) (AuthRequest.program config library))
      (Guarded AllowedToken) ⟨db, fun _ => none, []⟩ acts after) :
    SessionsEnded after.db := by
  have htogether : Together (fun db _ => TokensHold db)
      (fun _ _ session => ∀ program ∈ session, ClosesOnly program)
      (⟨db, fun _ => none, []⟩ : AuthSystem τ) :=
    ⟨hstart.tokensHold, nofun⟩
  exact (run_together (cooperating_tokens config library) htogether hrun).inv.ended

/-! ## A change in the second of the login -/

/-- Passwords are their own hashes, and a token is good until it expires. -/
def demoLibrary : Library ℚ where
  lower := id
  strip := id
  isAlpha := Char.isAlpha
  isDigit := Char.isDigit
  sha256Hex := id
  checkpw := fun password passwordHash => password == passwordHash
  hashpw := fun password _ => password
  jwtAccepts := fun payload now => decide (now < payload.exp)

/-- A user, a fifth of a second past a full second. -/
def oneUser : Database ℚ where
  clock := 100 + 1 / 5
  began := fun _ => none
  username := "ana"
  account := .stable ⟨"old-password-1", true, none, false, 0⟩
  loginAttempts := fun _ => .stable none
  passwordChecks := []
  inFlight := []
  abandoned := []
  issued := []
  passed := []

/-- The user logs in, changes the password some time later, and the token of the login is
used again. -/
def changeAfter (duration : ℚ) : List (Act (AuthRequest ℚ)) :=
  .start 1 (.login ⟨"ana", "old-password-1", "10.0.0.1"⟩) :: List.replicate 10 (.advance 1) ++
    .start 2 (.wait duration) :: List.replicate 2 (.advance 2) ++
    .start 3 (.changePassword 0 ⟨"old-password-1", "new-password-2", ""⟩) ::
      List.replicate 6 (.advance 3) ++
    .start 4 (.access 0 "auth.me") :: List.replicate 3 (.advance 4)

def endOf (guard : AuthSystem ℚ → Act (AuthRequest ℚ) → Prop)
    [∀ system act, Decidable (guard system act)] (acts : List (Act (AuthRequest ℚ))) :
    AuthSystem ℚ :=
  (execute (Interleaving.step (engine demoLibrary) (AuthRequest.program ⟨5, 15⟩ demoLibrary))
    guard ⟨oneUser, fun _ => none, []⟩ acts).getD ⟨oneUser, fun _ => none, []⟩

theorem oneUser_atStart : AtStart oneUser :=
  ⟨⟨_, rfl⟩, rfl, rfl⟩

theorem endOf_run (guard : AuthSystem ℚ → Act (AuthRequest ℚ) → Prop)
    [∀ system act, Decidable (guard system act)] (acts : List (Act (AuthRequest ℚ)))
    (hruns : (execute (Interleaving.step (engine demoLibrary)
      (AuthRequest.program ⟨5, 15⟩ demoLibrary)) guard
        ⟨oneUser, fun _ => none, []⟩ acts).isSome = true) :
    Run (Interleaving.step (engine demoLibrary) (AuthRequest.program ⟨5, 15⟩ demoLibrary)) guard
      ⟨oneUser, fun _ => none, []⟩ acts (endOf guard acts) := by
  obtain ⟨after, hafter⟩ := Option.isSome_iff_exists.mp hruns
  apply Run.ofExecute
  rw [endOf, hafter, Option.getD_some]

/-- A second later the token does not pass. -/
theorem sessionsEnded_changeAfter :
    SessionsEnded (endOf (Guarded AllowedToken) (changeAfter 1)).db :=
  sessionsEnded_of_run ⟨5, 15⟩ demoLibrary oneUser_atStart
    (endOf_run (Guarded AllowedToken) (changeAfter 1) (by decide +kernel))

/-- Half a second later, which is the same second, it does. -/
theorem token_of_the_same_second_passes :
    Run (Interleaving.step (engine demoLibrary) (AuthRequest.program ⟨5, 15⟩ demoLibrary))
        (fun _ _ => True) ⟨oneUser, fun _ => none, []⟩ (changeAfter (1 / 2))
        (endOf (fun _ _ => True) (changeAfter (1 / 2))) ∧
      (endOf (fun _ _ => True) (changeAfter (1 / 2))).replies =
        [.token 0, .done, .passwordChanged, .reached] ∧
      ¬ SessionsEnded (endOf (fun _ _ => True) (changeAfter (1 / 2))).db := by
  refine ⟨endOf_run _ _ (by decide +kernel), by decide +kernel, fun hended => ?_⟩
  have hissued : (endOf (fun _ _ => True) (changeAfter (1 / 2))).db.issued =
      [⟨⟨100, 28900⟩, none, 0⟩] := by
    decide +kernel
  have hlate := hended 0 1 (by decide +kernel) 0 ⟨⟨100, 28900⟩, none, 0⟩ .itself
    (by rw [hissued]; rfl)
  exact absurd hlate (by decide)

end SentryWms.Auth
