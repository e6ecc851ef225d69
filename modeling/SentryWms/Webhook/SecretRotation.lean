import SentryWms.Core.Transition
import SentryWms.Webhook.Dispatch

/-!
# Rotating the secret of a subscription

`rotate_webhook_secret` and the sign phase of `deliver_one`, statement by statement under
READ COMMITTED. A rotation deletes the previous secret, renames the primary one and inserts
a new primary. A signer finds the primary in its snapshot and locks it with FOR SHARE; if a
rotation has the row, it waits, and then looks at what has become of the row it had found.
-/

namespace SentryWms.Webhook.Secrets

open Relational Transition

/-! ## Secrets and signatures -/

/-- A row of `webhook_secrets` of the subscription. The ciphertext stands for the plaintext
that it decrypts to. -/
structure SecretRow where
  generation : ℕ
  secretCiphertext : List UInt8
  expiresAt : Option ℕ

structure SecretMaterial where
  plaintext : List UInt8
  generation : ℕ

def SecretRow.material (row : SecretRow) : SecretMaterial :=
  ⟨row.secretCiphertext, row.generation⟩

def SecretRow.primary (row : SecretRow) : Bool :=
  row.generation == 1

/-- `expires_at IS NULL OR expires_at > NOW()`. -/
def SecretRow.live (now : ℕ) (row : SecretRow) : Bool :=
  row.expiresAt.all fun expiresAt => decide (now < expiresAt)

def loadAllActiveSecrets (secrets : Table SecretRow) (now : ℕ) : List SecretMaterial :=
  (orderBy (fun entry => entry.2.generation) (secrets.select (SecretRow.live now))).map
    fun entry => entry.2.material

/-- Output of `sign_request`. -/
structure SignedRequest where
  body : List UInt8
  signature : String
  timestamp : ℕ
  secretGeneration : ℕ
deriving DecidableEq

section Signatures

variable (hmacSha256 : List UInt8 → List UInt8 → String)

/-- `compute_signature`, over the HMAC of the standard library. -/
def computeSignature (timestamp : ℕ) (body : List UInt8) (secret : SecretMaterial) : String :=
  "sha256=" ++ hmacSha256 secret.plaintext ((toString timestamp ++ ".").toUTF8.toList ++ body)

def verifySignature (timestamp : ℕ) (body : List UInt8) (givenSignature : String)
    (candidateSecrets : List SecretMaterial) : Option ℕ :=
  (candidateSecrets.find? fun secret =>
    computeSignature hmacSha256 timestamp body secret == givenSignature).map
      SecretMaterial.generation

/-- `sign_request`, of a serialized envelope. -/
def signRequest (body : List UInt8) (secret : SecretMaterial) (timestamp : ℕ) :
    SignedRequest where
  body := body
  signature := computeSignature hmacSha256 timestamp body secret
  timestamp := timestamp
  secretGeneration := secret.generation

end Signatures

/-! ## The state -/

/-- How far a rotation has come. -/
inductive RotationPhase where
  | locked
  | deleted
  | demoted
  | inserted
deriving DecidableEq

/-- A rotation that holds the row of the subscription: what it sees, and the rows that it has
written. `NOW()` is the time it began. -/
structure Rotation where
  phase : RotationPhase
  beganAt : ℕ
  secrets : Table SecretRow
  writes : List ℕ

/-- Where a delivery is, from its claim on. A signer that finds no primary raises. -/
inductive SignPhase where
  | claimed
  | waiting (rowId : ℕ)
  | signed (rowId : ℕ) (request : SignedRequest)
  | stamped (rowId : ℕ) (request : SignedRequest) (secretGeneration : ℕ)
  | raised
deriving DecidableEq

/-- A delivery in its sign phase, with its serialized envelope. -/
structure Signer where
  body : List UInt8
  phase : SignPhase

/-- A delivery whose sign transaction has committed: the generation on its row, and the
generation that its signature verifies under at that moment. -/
structure SignedDelivery where
  secretGeneration : ℕ
  verified : Option ℕ

/-- One subscription with its committed secrets. -/
structure SecretState where
  status : SubscriptionStatus
  secrets : Table SecretRow
  rotation : Option Rotation
  signers : Table Signer
  delivered : List SignedDelivery
  now : ℕ

/-- The row that a delivery holds a share lock on. -/
def SignPhase.shares : SignPhase → Option ℕ
  | .signed rowId _ => some rowId
  | .stamped rowId _ _ => some rowId
  | _ => none

/-- A delivery holds a share lock on the row. -/
def SecretState.shared (state : SecretState) (rowId : ℕ) : Bool :=
  state.signers.entries.any fun entry => entry.2.phase.shares == some rowId

def SecretState.written (state : SecretState) (rowId : ℕ) : Bool :=
  state.rotation.any fun rotation => rotation.writes.contains rowId

/-! ## Rotating -/

def dualAccept : ℕ := seconds 86400

/-- A primary becomes the previous secret. -/
def SecretRow.demote (beganAt : ℕ) (row : SecretRow) : SecretRow :=
  { row with generation := 2, expiresAt := some (beganAt + dualAccept) }

def Rotation.matching (rotation : Rotation) (cond : SecretRow → Bool) : List ℕ :=
  (rotation.secrets.select cond).map Prod.fst

/-- `DELETE FROM webhook_secrets ... generation = 2`. -/
def Rotation.deletePrevious (rotation : Rotation) : Rotation :=
  { rotation with
    phase := .deleted
    secrets := rotation.secrets.deleteWhere fun row => row.generation == 2
    writes := rotation.writes ++ rotation.matching fun row => row.generation == 2 }

/-- `UPDATE webhook_secrets SET generation = 2 ... generation = 1`. -/
def Rotation.demotePrimary (rotation : Rotation) : Rotation :=
  { rotation with
    phase := .demoted
    secrets := rotation.secrets.updateWhere SecretRow.primary (SecretRow.demote rotation.beganAt)
    writes := rotation.writes ++ rotation.matching SecretRow.primary }

/-- `INSERT INTO webhook_secrets`, of the new primary. -/
def Rotation.insertPrimary (rotation : Rotation) (plaintext : List UInt8) : Rotation :=
  { rotation with
    phase := .inserted
    secrets := rotation.secrets.insert ⟨1, plaintext, none⟩ }

def SecretState.setRotation (state : SecretState) (rotation : Rotation) : SecretState :=
  { state with rotation := some rotation }

/-! ## Signing -/

section Signing

variable (hmacSha256 : List UInt8 → List UInt8 → String)

/-- A delivery goes on. -/
def SecretState.setSigner (state : SecretState) (signerId : ℕ) (phase : SignPhase) :
    SecretState :=
  { state with signers := state.signers.modify signerId fun signer => { signer with phase } }

/-- The locking SELECT of `load_secret_for_signing`, with `sign_request` if it answers. What
it finds is what is committed when it starts. -/
def SecretState.load (state : SecretState) (body : List UInt8) (timestamp : ℕ) : SignPhase :=
  match (state.secrets.select SecretRow.primary).head? with
  | none => .raised
  | some (rowId, row) =>
      if state.written rowId then .waiting rowId
      else .signed rowId (signRequest hmacSha256 body row.material timestamp)

/-- The same SELECT after it had to wait: the row that it had found is looked at again as it
is committed now, and no other row is looked for. -/
def SecretState.recheck (state : SecretState) (rowId : ℕ) (body : List UInt8)
    (timestamp : ℕ) : SignPhase :=
  match state.secrets.get? rowId with
  | none => .raised
  | some row =>
      if row.primary then .signed rowId (signRequest hmacSha256 body row.material timestamp)
      else .raised

/-- The commit of the sign transaction, with what its signature verifies under. -/
def SecretState.deliver (state : SecretState) (signerId : ℕ) (request : SignedRequest)
    (secretGeneration : ℕ) : SecretState :=
  { state with
    signers := state.signers.delete signerId
    delivered := state.delivered ++
      [⟨secretGeneration, verifySignature hmacSha256 request.timestamp request.body
        request.signature (loadAllActiveSecrets state.secrets state.now)⟩] }

/-! ## Steps -/

/-- A statement, commit or rollback of a rotation or of a delivery, or the passing of time.
A statement that has to wait cannot be executed yet, but for the locking SELECT, which has
found its row by then. -/
inductive SecretAct where
  | rotate
  | deletePrevious
  | demotePrimary
  | insertPrimary (plaintext : List UInt8)
  | commitRotation
  | rollbackRotation
  | claim (body : List UInt8)
  | load (signerId timestamp : ℕ)
  | recheck (signerId timestamp : ℕ)
  | stamp (signerId : ℕ)
  | commitSigned (signerId : ℕ)
  | crash (signerId : ℕ)
  | wait (elapsed : ℕ)

/-- One step. The row of the subscription admits one rotation at a time, and a revoked
subscription none. -/
def secretStep (state : SecretState) : SecretAct → Option SecretState
  | .rotate =>
      if state.status = .revoked then some state
      else if state.rotation.isSome then none
      else some (state.setRotation ⟨.locked, state.now, state.secrets, []⟩)
  | .deletePrevious =>
      match state.rotation with
      | none => none
      | some rotation =>
          if rotation.phase = .locked ∧
              (rotation.matching fun row => row.generation == 2).all
                (fun rowId => !state.shared rowId) = true then
            some (state.setRotation rotation.deletePrevious)
          else none
  | .demotePrimary =>
      match state.rotation with
      | none => none
      | some rotation =>
          if rotation.phase = .deleted ∧
              (rotation.matching SecretRow.primary).all
                (fun rowId => !state.shared rowId) = true then
            some (state.setRotation rotation.demotePrimary)
          else none
  | .insertPrimary plaintext =>
      match state.rotation with
      | none => none
      | some rotation =>
          if rotation.phase = .demoted then
            some (state.setRotation (rotation.insertPrimary plaintext))
          else none
  | .commitRotation =>
      match state.rotation with
      | none => none
      | some rotation =>
          if rotation.phase = .inserted then
            some { state with secrets := rotation.secrets, rotation := none }
          else none
  | .rollbackRotation => some { state with rotation := none }
  | .claim body =>
      some { state with signers := state.signers.insert ⟨body, .claimed⟩ }
  | .load signerId timestamp =>
      match state.signers.get? signerId with
      | none => none
      | some signer =>
          if signer.phase = .claimed then
            some (state.setSigner signerId (state.load hmacSha256 signer.body timestamp))
          else none
  | .recheck signerId timestamp =>
      match state.signers.get? signerId with
      | none => none
      | some signer =>
          match signer.phase with
          | .waiting rowId =>
              if state.written rowId then none
              else some (state.setSigner signerId
                (state.recheck hmacSha256 rowId signer.body timestamp))
          | _ => none
  | .stamp signerId =>
      match state.signers.get? signerId with
      | none => none
      | some signer =>
          match signer.phase with
          | .signed rowId request =>
              some (state.setSigner signerId
                (.stamped rowId request request.secretGeneration))
          | _ => none
  | .commitSigned signerId =>
      match state.signers.get? signerId with
      | none => none
      | some signer =>
          match signer.phase with
          | .stamped _ request secretGeneration =>
              some (state.deliver hmacSha256 signerId request secretGeneration)
          | _ => none
  | .crash signerId => some { state with signers := state.signers.delete signerId }
  | .wait elapsed => some { state with now := state.now + elapsed }

end Signing

end SentryWms.Webhook.Secrets
