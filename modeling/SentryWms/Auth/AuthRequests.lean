import SentryWms.Core.Cooperation
import Mathlib.Algebra.Order.Floor.Ring
import Mathlib.Algebra.Order.Field.Basic

/-!
# Logging in, tokens and password changes, statement by statement

The requests on one account as the steps they take: statements of the database, readings
of the clock, and tokens issued. Time passes between any two steps. What a request does
under one transaction it does under the time at which that transaction began.
-/

namespace SentryWms.Auth

open ReadCommitted Interleaving

/-! ## Configuration and libraries -/

/-- `MAX_LOGIN_ATTEMPTS` and `LOCKOUT_MINUTES`. -/
structure Config where
  maxLoginAttempts : ℤ := 5
  lockoutMinutes : ℤ := 15

/-- The claims of a token that are read. -/
structure Payload where
  iat : ℤ
  exp : ℤ
deriving DecidableEq

/-- What the requests use of the libraries: Unicode, SHA-256, bcrypt, and whether
`jwt.decode` accepts a token at a time. -/
structure Library (τ : Type) where
  lower : String → String
  strip : String → String
  isAlpha : Char → Bool
  isDigit : Char → Bool
  sha256Hex : String → String
  checkpw : String → String → Bool
  hashpw : String → String → String
  jwtAccepts : Payload → τ → Bool

/-! ## The tables -/

/-- A row of `login_attempts`. -/
structure Attempts (τ : Type) where
  attempts : ℕ
  lockedUntil : Option τ
  lastAttempt : τ

/-- What is read of the row of `users`. `changes` is not a column: it counts the password
changes of the row. -/
structure Account (τ : Type) where
  passwordHash : String
  isActive : Bool
  passwordChangedAt : Option τ
  mustChangePassword : Bool
  changes : ℕ

/-- A token with the token it was refreshed from, if any, and the number of password
changes that were committed when it was issued. -/
structure Issued where
  payload : Payload
  source : Option ℕ
  changes : ℕ
deriving DecidableEq

/-- The clock, the times at which the open transactions began, and the rows. What follows
them is history: the password checks with their times, the logins that have passed the
lockout check and not committed what they record, the keys of those that ended without
that, the tokens issued, and the tokens that passed `require_auth` with the number of
password changes committed by then. -/
structure Database (τ : Type) where
  clock : τ
  began : ℕ → Option τ
  username : String
  account : Version (Account τ)
  loginAttempts : String → Version (Option (Attempts τ))
  passwordChecks : List (String × τ)
  inFlight : List (ℕ × String)
  abandoned : List String
  issued : List Issued
  passed : List (ℕ × ℕ)

/-! ## Statements -/

/-- The steps of the requests. -/
inductive Statement (τ : Type) where
  | wait (duration : τ)
  | readClock
  | checkRateLimit (key : String)
  | authenticate (key username password : String)
  | touchLastLogin
  | upsertFailure (key : String)
  | selectAttempts (key : String)
  | setLocked (key : String) (lockedUntil : τ)
  | deleteAttempts (key : String)
  | deleteStale (key : String) (cutoff : τ)
  | readAccount
  | updatePassword (passwordHash : String)
  | commit
  | issueToken (source : Option ℕ)
  | decodeToken (token : ℕ)
  | checkToken (token : ℕ) (endpoint : String)

/-- How `require_auth` judges a token it has decoded. -/
inductive Judgement where
  | passed
  | unauthorized
  | invalidated
  | passwordChangeRequired
deriving DecidableEq

/-- What a step returns. -/
def Answer (τ : Type) : Statement τ → Type
  | .readClock => τ
  | .checkRateLimit _ => Option ℤ
  | .authenticate _ _ _ => Bool
  | .selectAttempts _ => Option (Attempts τ)
  | .readAccount => Option (Account τ)
  | .issueToken _ => ℕ
  | .decodeToken _ => Bool
  | .checkToken _ _ => Judgement
  | _ => Unit

/-- Why a request is refused. -/
inductive Refusal where
  | tooManyAttempts (remaining : ℤ)
  | locked (lockoutMinutes : ℤ)
  | invalidCredentials
  | tokenExpired
  | notAllowed (judgement : Judgement)
  | accountDisabled
  | weakPassword (message : String)
  | currentPasswordIncorrect
deriving DecidableEq

inductive Reply where
  | refused (refusal : Refusal)
  | token (token : ℕ)
  | passwordChanged
  | reached
  | done
deriving DecidableEq

/-- A request as the steps it takes. -/
abbrev AuthProgram (τ : Type) := Program (Statement τ) (Answer τ) Reply

/-! ## The requests -/

/-- `LoginRequest`, with the address it comes from. -/
structure LoginRequest where
  username : String
  password : String
  clientIp : String

/-- `ChangePasswordRequest`, with the salt that is drawn for it. -/
structure ChangePasswordRequest where
  currentPassword : String
  newPassword : String
  salt : String

section Requests

variable {τ : Type} (config : Config) (library : Library τ)

def normalizeRateLimitKey (key : String) : String :=
  if key.length ≤ 64 then key else library.sha256Hex key

def userKey (username : String) : String :=
  "user:" ++ username

def lockKey (clientIp username : String) : String :=
  "ip:" ++ clientIp ++ "|user:" ++ username

def validatePassword (password : String) : Option String :=
  if library.lower (library.strip password) = "admin" then some "Password cannot be 'admin'"
  else if password.length < 8 then some "Password must be at least 8 characters"
  else if !password.toList.any library.isAlpha then
    some "Password must contain at least one letter"
  else if !password.toList.any library.isDigit then
    some "Password must contain at least one digit"
  else none

/-- The endpoints that a user who has to change the password may call. -/
def forcedChangeAllowedEndpoints : List String :=
  ["auth.change_password", "auth.logout", "auth.me"]

/-- `require_auth`: the token is decoded, and then judged by the user's row. -/
def requireAuth (token : ℕ) (endpoint : String) (handler : AuthProgram τ) : AuthProgram τ :=
  .exec (.decodeToken token) fun (decoded : Bool) =>
    if decoded then
      .exec (.checkToken token endpoint) fun (judgement : Judgement) =>
        if judgement = .passed then handler
        else .reply false (.refused (.notAllowed judgement))
    else .reply false (.refused .tokenExpired)

def refresh (token : ℕ) : AuthProgram τ :=
  requireAuth token "auth.refresh" <|
    .exec .readAccount fun (account : Option (Account τ)) =>
      if account.any Account.isActive then
        .exec (.issueToken (some token)) fun (issued : ℕ) => .reply false (.token issued)
      else .reply false (.refused .accountDisabled)

def changePassword (token : ℕ) (request : ChangePasswordRequest) : AuthProgram τ :=
  requireAuth token "auth.change_password" <|
    match validatePassword library request.newPassword with
    | some message => .reply false (.refused (.weakPassword message))
    | none =>
        .exec .readAccount fun (account : Option (Account τ)) =>
          if account.any fun account =>
              library.checkpw request.currentPassword account.passwordHash then
            .exec (.updatePassword (library.hashpw request.newPassword request.salt)) fun _ =>
              .exec .commit fun _ => .reply false .passwordChanged
          else .reply false (.refused .currentPasswordIncorrect)

/-- Any other endpoint behind `require_auth`. -/
def access (token : ℕ) (endpoint : String) : AuthProgram τ :=
  requireAuth token endpoint (.reply false .reached)

def resetAttempts (key : String) (next : AuthProgram τ) : AuthProgram τ :=
  .exec (.deleteAttempts (normalizeRateLimitKey library key)) fun _ =>
    .exec .commit fun _ => next

variable [Field τ]

/-- `_record_failure`. The continuation is given whether the key is now locked. -/
def recordFailure (key : String) (allowLockout : Bool) (next : Bool → AuthProgram τ) :
    AuthProgram τ :=
  .exec .readClock fun (now : τ) =>
    .exec (.upsertFailure (normalizeRateLimitKey library key)) fun _ =>
      .exec (.selectAttempts (normalizeRateLimitKey library key))
        fun (row : Option (Attempts τ)) =>
          if allowLockout && row.any fun row =>
              decide (config.maxLoginAttempts ≤ (row.attempts : ℤ)) then
            .exec (.setLocked (normalizeRateLimitKey library key)
              (now + (60 * config.lockoutMinutes : ℤ))) fun _ =>
                .exec .commit fun _ => next true
          else .exec .commit fun _ => next false

def login (request : LoginRequest) : AuthProgram τ :=
  let username := library.strip (library.lower (library.strip request.username))
  let key := lockKey request.clientIp username
  .exec (.checkRateLimit (normalizeRateLimitKey library key)) fun (remaining : Option ℤ) =>
    match remaining with
    | some remaining => .reply false (.refused (.tooManyAttempts remaining))
    | none =>
        .exec (.authenticate (normalizeRateLimitKey library key)
          (library.strip request.username) request.password) fun (found : Bool) =>
            if found then
              .exec .touchLastLogin fun _ =>
                .exec .commit fun _ =>
                  resetAttempts library (userKey username) <|
                    resetAttempts library key <|
                      .exec (.issueToken none) fun (token : ℕ) => .reply false (.token token)
            else
              recordFailure config library (userKey username) false fun _ =>
                recordFailure config library key true fun locked =>
                  if locked then .reply false (.refused (.locked config.lockoutMinutes))
                  else .reply false (.refused .invalidCredentials)

/-- The `DELETE` of `_cleanup_login_attempts_impl`, which reaches the rows in some order. -/
def deleteStaleRows (cutoff : τ) : List String → AuthProgram τ
  | [] => .exec .commit fun _ => .reply false .done
  | key :: rest => .exec (.deleteStale key cutoff) fun _ => deleteStaleRows cutoff rest

def cleanupLoginAttempts (keys : List String) : AuthProgram τ :=
  .exec .readClock fun (now : τ) => deleteStaleRows (now - 3600) keys

end Requests

/-- A request with its arguments, or time that passes. -/
inductive AuthRequest (τ : Type) where
  | wait (duration : τ)
  | login (request : LoginRequest)
  | refresh (token : ℕ)
  | changePassword (token : ℕ) (request : ChangePasswordRequest)
  | access (token : ℕ) (endpoint : String)
  | cleanup (keys : List String)

def AuthRequest.program {τ : Type} [Field τ] (config : Config) (library : Library τ) :
    AuthRequest τ → AuthProgram τ
  | .wait duration => .exec (.wait duration) fun _ => .reply false .done
  | .login request => Auth.login config library request
  | .refresh token => Auth.refresh token
  | .changePassword token request => Auth.changePassword library token request
  | .access token endpoint => Auth.access token endpoint
  | .cleanup keys => cleanupLoginAttempts keys

/-! ## Execution -/

/-- A step that is a statement on `g.db` or the session of the task, and so opens a
transaction. -/
def Statement.onSession {τ : Type} : Statement τ → Bool
  | .wait _ | .readClock | .commit | .issueToken _ | .decodeToken _ | .checkToken _ _ => false
  | _ => true

section Execution

variable {τ : Type} [Field τ] [LinearOrder τ] [FloorRing τ]

/-- `int` of a timestamp. -/
def toInt (time : τ) : ℤ :=
  if 0 ≤ time then ⌊time⌋ else ⌈time⌉

/-- The token was issued before the last password change. -/
def outdated (payload : Payload) (passwordChangedAt : Option τ) : Bool :=
  passwordChangedAt.any fun changedAt =>
    payload.iat != 0 && decide (payload.iat < toInt changedAt)

/-- How `require_auth` judges a token by the user's row. -/
def judge (endpoint : String) (payload : Payload) (account : Account τ) : Judgement :=
  if !account.isActive then .unauthorized
  else if outdated payload account.passwordChangedAt then .invalidated
  else if account.mustChangePassword && !forcedChangeAllowedEndpoints.contains endpoint then
    .passwordChangeRequired
  else .passed

/-- The claims that `generate_token` signs. -/
def generateToken (now : τ) : Payload :=
  ⟨toInt now, ⌊now + 8 * 3600⌋⟩

/-- The rest of a lockout, in whole seconds. -/
def remainingLockout (now : τ) (row : Option (Attempts τ)) : Option ℤ :=
  match row.bind Attempts.lockedUntil with
  | none => none
  | some lockedUntil => if now < lockedUntil then some (toInt (lockedUntil - now)) else none

/-- A row that `cleanup_login_attempts` deletes. -/
def stale (cutoff : τ) (row : Attempts τ) : Bool :=
  decide (row.lastAttempt < cutoff) && row.lockedUntil.all fun lockedUntil =>
    decide (lockedUntil < cutoff)

def Database.now (db : Database τ) (txn : ℕ) : τ :=
  (db.began txn).getD db.clock

/-- The transaction is open. -/
def Database.begin (db : Database τ) (txn : ℕ) : Database τ :=
  { db with began := Function.update db.began txn (some (db.now txn)) }

/-- The row of a key that a transaction sees. -/
def Database.attemptsSeen (db : Database τ) (txn : ℕ) (key : String) : Option (Attempts τ) :=
  ((db.loginAttempts key).view txn).join

/-- Write the row of a key, once it is free. -/
def Database.writeAttempts (db : Database τ) (txn : ℕ) (key : String)
    (change : Option (Attempts τ) → Option (Attempts τ)) : Option (Database τ) :=
  if (db.loginAttempts key).free txn then
    some { db with
      loginAttempts := Function.update db.loginAttempts key
        ((db.loginAttempts key).write txn (change (db.loginAttempts key).latest)) }
  else none

/-- Delete the row of a key if it is seen and meets a condition, once it is free. -/
def Database.deleteIf (db : Database τ) (txn : ℕ) (key : String) (cond : Attempts τ → Bool) :
    Option (Database τ) :=
  if (db.attemptsSeen txn key).any cond then db.writeAttempts txn key fun _ => none
  else some db

/-- Write the user's row, once it is free. -/
def Database.writeAccount (db : Database τ) (txn : ℕ) (change : Account τ → Account τ) :
    Option (Database τ) :=
  if db.account.free txn then
    some { db with account := db.account.write txn (change db.account.latest) }
  else none

def countFailure (now : τ) : Option (Attempts τ) → Option (Attempts τ)
  | none => some ⟨1, none, now⟩
  | some row => some { row with attempts := row.attempts + 1, lastAttempt := now }

/-- What a transaction has written is settled, and the logins whose row it wrote are no
longer in flight. -/
def Database.commit (db : Database τ) (txn : ℕ) : Database τ :=
  { db with
    began := Function.update db.began txn none
    account := db.account.settle txn
    loginAttempts := fun key => (db.loginAttempts key).settle txn
    inFlight := db.inFlight.filter fun entry =>
      !(entry.1 == txn && ((db.loginAttempts entry.2).heldBy txn).isSome) }

def Database.rollback (db : Database τ) (txn : ℕ) : Database τ :=
  { db with
    began := Function.update db.began txn none
    account := db.account.undo txn
    loginAttempts := fun key => (db.loginAttempts key).undo txn
    inFlight := db.inFlight.filter fun entry => entry.1 != txn
    abandoned :=
      (db.inFlight.filter fun entry => entry.1 == txn).map Prod.snd ++ db.abandoned }

/-- Take a step on a database whose transaction is open where the step needs one. -/
def performIn (library : Library τ) (db : Database τ) (txn : ℕ) :
    (statement : Statement τ) → Option (Database τ × Answer τ statement)
  | .wait duration =>
      if 0 ≤ duration then some ({ db with clock := db.clock + duration }, ()) else none
  | .readClock => some (db, db.clock)
  | .checkRateLimit key =>
      match remainingLockout db.clock (db.attemptsSeen txn key) with
      | some remaining => some (db, some remaining)
      | none => some ({ db with inFlight := (txn, key) :: db.inFlight }, none)
  | .authenticate key username password =>
      some ({ db with passwordChecks := db.passwordChecks ++ [(key, db.clock)] },
        (db.account.view txn).any fun account =>
          username == db.username && account.isActive &&
            library.checkpw password account.passwordHash)
  | .touchLastLogin => (db.writeAccount txn id).map fun db => (db, ())
  | .upsertFailure key =>
      (db.writeAttempts txn key (countFailure (db.now txn))).map fun db => (db, ())
  | .selectAttempts key => some (db, db.attemptsSeen txn key)
  | .setLocked key lockedUntil =>
      (db.writeAttempts txn key fun row => row.map fun row =>
        { row with lockedUntil := some lockedUntil, attempts := 0 }).map fun db => (db, ())
  | .deleteAttempts key => (db.deleteIf txn key fun _ => true).map fun db => (db, ())
  | .deleteStale key cutoff => (db.deleteIf txn key (stale cutoff)).map fun db => (db, ())
  | .readAccount => some (db, db.account.view txn)
  | .updatePassword passwordHash =>
      (db.writeAccount txn fun account =>
        { account with
          passwordHash
          passwordChangedAt := some (db.now txn)
          mustChangePassword := false
          changes := account.changes + 1 }).map fun db => (db, ())
  | .commit => some (db.commit txn, ())
  | .issueToken source =>
      some ({ db with
        issued := db.issued ++
          [⟨generateToken db.clock, source, (db.account.committed.map Account.changes).getD 0⟩] },
        db.issued.length)
  | .decodeToken token =>
      some (db, db.issued[token]?.any fun issued => library.jwtAccepts issued.payload db.clock)
  | .checkToken token endpoint =>
      match db.issued[token]?, db.account.committed with
      | some issued, some account =>
          if judge endpoint issued.payload account = .passed then
            some ({ db with passed := db.passed ++ [(token, account.changes)] }, .passed)
          else some (db, judge endpoint issued.payload account)
      | _, _ => some (db, .unauthorized)

/-- Take a step. -/
def perform (library : Library τ) (db : Database τ) (txn : ℕ) (statement : Statement τ) :
    Option (Database τ × Answer τ statement) :=
  performIn library (if statement.onSession then db.begin txn else db) txn statement

/-- The database as the sessions use it. -/
def engine (library : Library τ) : Engine (Database τ) (Statement τ) (Answer τ) where
  perform := perform library
  commit := Database.commit
  rollback := Database.rollback

/-! ## What a write leaves -/

variable {db after : Database τ} {txn : ℕ} {key : String}

theorem Database.writeAttempts_eq {change : Option (Attempts τ) → Option (Attempts τ)}
    (hwrite : db.writeAttempts txn key change = some after) :
    (db.loginAttempts key).free txn = true ∧ after = { db with
      loginAttempts := Function.update db.loginAttempts key
        ((db.loginAttempts key).write txn (change (db.loginAttempts key).latest)) } := by
  rw [Database.writeAttempts] at hwrite
  split at hwrite
  · next hfree => exact ⟨hfree, (Option.some.inj hwrite).symm⟩
  · cases hwrite

theorem Database.deleteIf_eq {cond : Attempts τ → Bool}
    (hdelete : db.deleteIf txn key cond = some after) :
    after = db ∨ (db.attemptsSeen txn key).any cond = true ∧
      db.writeAttempts txn key (fun _ => none) = some after := by
  rw [Database.deleteIf] at hdelete
  split at hdelete
  · next hseen => exact .inr ⟨hseen, hdelete⟩
  · exact .inl (Option.some.inj hdelete).symm

theorem Database.writeAccount_eq {change : Account τ → Account τ}
    (hwrite : db.writeAccount txn change = some after) :
    db.account.free txn = true ∧
      after = { db with account := db.account.write txn (change db.account.latest) } := by
  rw [Database.writeAccount] at hwrite
  split at hwrite
  · next hfree => exact ⟨hfree, (Option.some.inj hwrite).symm⟩
  · cases hwrite

/-- The requests in progress, and the replies given. -/
abbrev AuthSystem (τ : Type) := System (Database τ) (Statement τ) (Answer τ) Reply

end Execution

end SentryWms.Auth
