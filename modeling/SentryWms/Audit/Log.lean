import SentryWms.Core.HashChain
import SentryWms.Core.Transition

/-!
# The audit log

A trigger gives every row of `audit_log` its id, the hash of the row before it and
the hash of its own columns, under a lock on the chain head that the transaction keeps
until it ends. Ids come from a sequence inside the lock, so the order of ids is the
order of the trigger, and the rows of a transaction follow everything that was
committed before it took the lock. A log that is only inserted into verifies in every
state, whatever the interleaving and whichever transactions roll back.
-/

namespace SentryWms.Audit

open HashChain Transition

/-! ## Rows and hashes -/

abbrev Bytes : Type := List UInt8

/-- The columns that an INSERT supplies; `created_at` is left to its default. -/
structure NewRow where
  actionType : Option String
  entityType : Option String
  entityId : Option ℤ
  userId : Option String
  deviceId : Option String
  warehouseId : Option ℤ
  details : Option String

/-- A row of `audit_log`. The details are the text of the JSONB value, the time is in
microseconds. -/
structure AuditRow extends NewRow where
  logId : ℤ
  createdAt : Option ℤ
  prevHash : Bytes
  rowHash : Bytes

/-- `'\x00'::bytea`. -/
def genesis : Bytes := [0]

/-- `convert_to(payload, 'UTF8')`. -/
def convertTo (payload : String) : Bytes :=
  payload.toUTF8.data.toList

/-- The columns that are hashed, joined by bars. -/
def payload (row : NewRow) (createdAt : String) : String :=
  row.actionType.getD "" ++ "|" ++ row.entityType.getD "" ++ "|" ++
    (row.entityId.map toString).getD "" ++ "|" ++ row.userId.getD "" ++ "|" ++
    (row.warehouseId.map toString).getD "" ++ "|" ++ row.details.getD "" ++ "|" ++ createdAt

variable (digest : Bytes → Bytes) (render : ℤ → String)

/-- `audit_log_chain_hash`: the row as the trigger completes it. `now` is the start of
the transaction, and the default of `created_at`. -/
def auditLogChainHash (new : NewRow) (logId : ℤ) (prev : Bytes) (now : ℤ) : AuditRow :=
  let createdAt := some now
  { new with
    logId
    createdAt
    prevHash := prev
    rowHash := digest
      (prev ++ convertTo (payload new ((createdAt.map render).getD (render now)))) }

def rowPayload (row : AuditRow) : String :=
  payload row.toNewRow ((row.createdAt.map render).getD "")

/-- The loop of `verify_audit_log_chain`. -/
def verifyFrom (prev : Bytes) : List AuditRow → Option ℤ
  | [] => none
  | row :: rows =>
      if row.prevHash ≠ prev then some row.logId
      else if digest (row.prevHash ++ convertTo (rowPayload render row)) ≠ row.rowHash then
        some row.logId
      else verifyFrom row.rowHash rows

/-- `ORDER BY log_id ASC`. -/
def byLogId (rows : List AuditRow) : List AuditRow :=
  rows.insertionSort fun left right => left.logId ≤ right.logId

/-- `verify_audit_log_chain`: the id of the first row that does not fit. -/
def verifyAuditLogChain (rows : List AuditRow) : Option ℤ :=
  verifyFrom digest render genesis (byLogId rows)

/-! ## Transactions -/

/-- An open transaction: the rows it inserted, the chain head if it wrote it, whether a
statement failed, and when it began. -/
structure Session where
  rows : List AuditRow
  head : Option Bytes
  aborted : Bool
  now : ℤ

/-- The committed log and chain head, the id sequence, the holder of the lock on the
head, the open transactions and the clock. -/
structure AuditDb where
  committed : List AuditRow
  head : Bytes
  nextLogId : ℤ
  lockedBy : Option ℕ
  sessions : ℕ → Option Session
  clock : ℤ

/-- The schema as it is installed. -/
def emptyLog : AuditDb where
  committed := []
  head := genesis
  nextLogId := 1
  lockedBy := none
  sessions := fun _ => none
  clock := 0

/-- Write back one transaction. -/
def setSession (db : AuditDb) (txn : ℕ) (session : Option Session) : AuditDb :=
  { db with sessions := Function.update db.sessions txn session }

/-- `NOT NULL` of the columns. -/
def notNull (new : NewRow) : Bool :=
  new.actionType.isSome && new.entityType.isSome && new.entityId.isSome &&
    new.userId.isSome

def beginTxn (db : AuditDb) (txn : ℕ) : Option AuditDb :=
  if db.sessions txn = none then
    some (setSession db txn (some { rows := [], head := none, aborted := false, now := db.clock }))
  else none

/-- An INSERT: it waits while another transaction has the lock, and keeps the lock. The
id is taken from the sequence even if the row is refused. -/
def insert (db : AuditDb) (txn : ℕ) (new : NewRow) : Option AuditDb := do
  let session ← db.sessions txn
  if session.aborted then none
  else if db.lockedBy = none ∨ db.lockedBy = some txn then
    let row := auditLogChainHash digest render new db.nextLogId
      (session.head.getD db.head) session.now
    let held := { db with nextLogId := db.nextLogId + 1, lockedBy := some txn }
    if notNull new then
      some (setSession held txn
        (some { session with rows := session.rows ++ [row], head := some row.rowHash }))
    else some (setSession held txn (some { session with aborted := true }))
  else none

/-- Some other statement of the transaction fails. -/
def fail (db : AuditDb) (txn : ℕ) : Option AuditDb := do
  let session ← db.sessions txn
  some (setSession db txn (some { session with aborted := true }))

/-- The transaction ends and gives up the lock. -/
def release (db : AuditDb) (txn : ℕ) : AuditDb :=
  setSession
    { db with lockedBy := if db.lockedBy = some txn then none else db.lockedBy } txn none

def rollback (db : AuditDb) (txn : ℕ) : Option AuditDb := do
  let _ ← db.sessions txn
  some (release db txn)

/-- COMMIT, which rolls back a transaction that failed. -/
def commit (db : AuditDb) (txn : ℕ) : Option AuditDb := do
  let session ← db.sessions txn
  if session.aborted then some (release db txn)
  else
    some (release
      { db with
        committed := db.committed ++ session.rows
        head := session.head.getD db.head }
      txn)

/-- A step of a transaction, or the passing of time. -/
inductive Event where
  | tick (elapsed : ℕ)
  | beginTxn (txn : ℕ)
  | insert (txn : ℕ) (new : NewRow)
  | fail (txn : ℕ)
  | commit (txn : ℕ)
  | rollback (txn : ℕ)

def step (db : AuditDb) : Event → Option AuditDb
  | .tick elapsed => some { db with clock := db.clock + elapsed }
  | .beginTxn txn => beginTxn db txn
  | .insert txn new => insert digest render db txn new
  | .fail txn => fail db txn
  | .commit txn => commit db txn
  | .rollback txn => rollback db txn

/-- The check finds nothing, on the committed rows and on what any open transaction
sees. -/
structure Verifies (db : AuditDb) : Prop where
  committed : verifyAuditLogChain digest render db.committed = none
  visible : ∀ txn session, db.sessions txn = some session →
    verifyAuditLogChain digest render (db.committed ++ session.rows) = none

/-! ## The log as a chain -/

def block (row : AuditRow) : Block Bytes Bytes where
  prev := row.prevHash
  body := convertTo (rowPayload render row)
  hash := row.rowHash

def sealRow (prev body : Bytes) : Bytes :=
  digest (prev ++ body)

variable {digest render}

variable {rows : List AuditRow}

/-- The loop runs through exactly the linked chains. -/
theorem verifyFrom_eq_none {prev : Bytes} :
    verifyFrom digest render prev rows = none ↔
      Linked (sealRow digest) prev (rows.map (block render)) := by
  induction rows generalizing prev with
  | nil => simp [verifyFrom]
  | cons row rows ih =>
      rw [verifyFrom, List.map_cons, linked_cons]
      by_cases hprev : row.prevHash = prev
      · rw [if_neg (not_not.mpr hprev)]
        by_cases hhash : digest (row.prevHash ++ convertTo (rowPayload render row)) = row.rowHash
        · rw [if_neg (not_not.mpr hhash), ih]
          exact ⟨fun hrest => ⟨hprev, hhash.symm, hrest⟩, fun hrow => hrow.2.2⟩
        · rw [if_pos hhash]
          simp only [reduceCtorEq, false_iff]
          exact fun hrow => hhash hrow.2.1.symm
      · rw [if_pos hprev]
        simp only [reduceCtorEq, false_iff]
        exact fun hrow => hprev hrow.1

theorem byLogId_eq_self
    (hordered : (rows.map AuditRow.logId).Pairwise (· < ·)) : byLogId rows = rows := by
  apply List.Pairwise.insertionSort_eq
  exact (List.pairwise_map.mp hordered).imp fun hlt => le_of_lt hlt

theorem verifyAuditLogChain_eq_none :
    verifyAuditLogChain digest render rows = none ↔
      Linked (sealRow digest) genesis ((byLogId rows).map (block render)) :=
  verifyFrom_eq_none

theorem block_auditLogChainHash (new : NewRow) (logId : ℤ) (prev : Bytes) (now : ℤ) :
    Linked (sealRow digest) prev
      [block render (auditLogChainHash digest render new logId prev now)] :=
  ⟨rfl, rfl, trivial⟩

/-! ## The invariant -/

/-- A piece of the log: it continues the chain from one hash to another, in the order
of its ids, all of them from a range of the sequence. -/
structure Segment (digest : Bytes → Bytes) (render : ℤ → String) (first last : Bytes)
    (low high : ℤ) (rows : List AuditRow) : Prop where
  linked : Linked (sealRow digest) first (rows.map (block render))
  reaches : HashChain.head first (rows.map (block render)) = last
  ordered : (rows.map AuditRow.logId).Pairwise (· < ·)
  issued : ∀ row ∈ rows, low ≤ row.logId ∧ row.logId < high

theorem Segment.nil (first : Bytes) (low high : ℤ) :
    Segment digest render first first low high [] where
  linked := trivial
  reaches := rfl
  ordered := List.Pairwise.nil
  issued row hmem := by cases hmem

variable {last : Bytes} {low high : ℤ}

theorem Segment.widen {first : Bytes} {high' : ℤ}
    (hsegment : Segment digest render first last low high rows) (hhigh : high ≤ high') :
    Segment digest render first last low high' rows where
  linked := hsegment.linked
  reaches := hsegment.reaches
  ordered := hsegment.ordered
  issued row hmem :=
    ⟨(hsegment.issued row hmem).1, lt_of_lt_of_le (hsegment.issued row hmem).2 hhigh⟩

theorem Segment.append {first middle : Bytes} {bound : ℤ} {rows' : List AuditRow}
    (hfirst : Segment digest render first middle low bound rows)
    (hlast : Segment digest render middle last bound high rows') (hlow : low ≤ bound)
    (hhigh : bound ≤ high) :
    Segment digest render first last low high (rows ++ rows') where
  linked := by
    rw [List.map_append, linked_append, hfirst.reaches]
    exact ⟨hfirst.linked, hlast.linked⟩
  reaches := by rw [List.map_append, head_append, hfirst.reaches, hlast.reaches]
  ordered := by
    rw [List.map_append, List.pairwise_append]
    refine ⟨hfirst.ordered, hlast.ordered, ?_⟩
    intro logId hmem logId' hmem'
    obtain ⟨row, hrow, rfl⟩ := List.mem_map.mp hmem
    obtain ⟨row', hrow', rfl⟩ := List.mem_map.mp hmem'
    exact lt_of_lt_of_le (hfirst.issued row hrow).2 (hlast.issued row' hrow').1
  issued row hmem := by
    rcases List.mem_append.mp hmem with hrow | hrow
    · exact ⟨(hfirst.issued row hrow).1, lt_of_lt_of_le (hfirst.issued row hrow).2 hhigh⟩
    · exact ⟨le_trans hlow (hlast.issued row hrow).1, (hlast.issued row hrow).2⟩

theorem segment_auditLogChainHash (new : NewRow) (logId : ℤ) (prev : Bytes) (now : ℤ) :
    Segment digest render prev (auditLogChainHash digest render new logId prev now).rowHash
      logId (logId + 1) [auditLogChainHash digest render new logId prev now] where
  linked := block_auditLogChainHash new logId prev now
  reaches := rfl
  ordered := List.pairwise_singleton _ _
  issued row hmem := by
    rw [List.mem_singleton.mp hmem]
    exact ⟨le_refl _, Int.lt_succ _⟩

theorem Segment.verifies (hsegment : Segment digest render genesis last low high rows) :
    verifyAuditLogChain digest render rows = none := by
  rw [verifyAuditLogChain_eq_none, byLogId_eq_self hsegment.ordered]
  exact hsegment.linked

/-- The committed log reaches the chain head, and the transaction that holds the lock
continues from there; no other has written anything. -/
structure ChainHolds (digest : Bytes → Bytes) (render : ℤ → String) (db : AuditDb) :
    Prop where
  segment : ∃ bound, 1 ≤ bound ∧ bound ≤ db.nextLogId ∧
    Segment digest render genesis db.head 1 bound db.committed ∧
    ∀ txn session, db.sessions txn = some session → db.lockedBy = some txn →
      Segment digest render db.head (session.head.getD db.head) bound db.nextLogId
        session.rows
  idle : ∀ txn session, db.sessions txn = some session → db.lockedBy ≠ some txn →
    session.rows = [] ∧ session.head = none

variable {db next : AuditDb} {txn : ℕ}

theorem ChainHolds.verifies (hchain : ChainHolds digest render db) :
    Verifies digest render db := by
  obtain ⟨bound, hfirst, hbound, hcommitted, hholder⟩ := hchain.segment
  refine ⟨hcommitted.verifies, ?_⟩
  intro txn session hsession
  by_cases hlocked : db.lockedBy = some txn
  · exact (hcommitted.append (hholder txn session hsession hlocked) hfirst hbound).verifies
  · rw [(hchain.idle txn session hsession hlocked).1, List.append_nil]
    exact hcommitted.verifies

theorem emptyLog_holds : ChainHolds digest render emptyLog where
  segment := by
    refine ⟨1, le_refl _, le_refl _, Segment.nil _ _ _, ?_⟩
    intro txn session hsession
    cases hsession
  idle := by
    intro txn session hsession
    cases hsession

/-! ## What the steps preserve -/

variable {txn' : ℕ}

theorem setSession_sessions {session session' : Option Session}
    (hsession : (setSession db txn session).sessions txn' = session') :
    txn' = txn ∧ session = session' ∨ txn' ≠ txn ∧ db.sessions txn' = session' := by
  by_cases hsame : txn' = txn
  · subst hsame
    simp only [setSession, Function.update_self] at hsession
    exact .inl ⟨rfl, hsession⟩
  · simp only [setSession, Function.update_of_ne hsame] at hsession
    exact .inr ⟨hsame, hsession⟩

/-- Rewriting a transaction that writes nothing new, or has written nothing yet. -/
theorem ChainHolds.setSession (hchain : ChainHolds digest render db) {session : Session}
    (hkeeps : session.rows = [] ∧ session.head = none ∨ ∃ before,
      db.sessions txn = some before ∧ session.rows = before.rows ∧
        session.head = before.head) :
    ChainHolds digest render (setSession db txn (some session)) := by
  obtain ⟨bound, hfirst, hbound, hcommitted, hholder⟩ := hchain.segment
  refine ⟨⟨bound, hfirst, hbound, hcommitted, ?_⟩, ?_⟩
  · intro txn' session' hsession' hlocked
    rcases setSession_sessions hsession' with ⟨rfl, hsame⟩ | ⟨-, hother⟩
    · cases hsame
      rcases hkeeps with ⟨hrows, hhead⟩ | ⟨before, hbefore, hrows, hhead⟩
      · rw [hrows, hhead]
        exact Segment.nil _ _ _
      · rw [hrows, hhead]
        exact hholder _ before hbefore hlocked
    · exact hholder txn' session' hother hlocked
  · intro txn' session' hsession' hunlocked
    rcases setSession_sessions hsession' with ⟨rfl, hsame⟩ | ⟨-, hother⟩
    · cases hsame
      rcases hkeeps with hnothing | ⟨before, hbefore, hrows, hhead⟩
      · exact hnothing
      · rw [hrows, hhead]
        exact hchain.idle _ before hbefore hunlocked
    · exact hchain.idle txn' session' hother hunlocked

theorem ChainHolds.beginTxn (hchain : ChainHolds digest render db)
    (hbegin : beginTxn db txn = some next) : ChainHolds digest render next := by
  unfold Audit.beginTxn at hbegin
  split at hbegin
  · cases hbegin
    exact hchain.setSession (.inl ⟨rfl, rfl⟩)
  · cases hbegin

theorem ChainHolds.fail (hchain : ChainHolds digest render db)
    (hfail : fail db txn = some next) : ChainHolds digest render next := by
  obtain ⟨session, hsession, hnext⟩ := Option.bind_eq_some_iff.mp hfail
  cases hnext
  exact hchain.setSession (.inr ⟨session, hsession, rfl, rfl⟩)

theorem ChainHolds.hold (hchain : ChainHolds digest render db)
    (hfree : db.lockedBy = none ∨ db.lockedBy = some txn) :
    ChainHolds digest render
      { db with nextLogId := db.nextLogId + 1, lockedBy := some txn } := by
  obtain ⟨bound, hfirst, hbound, hcommitted, hholder⟩ := hchain.segment
  have hlater : db.nextLogId ≤ db.nextLogId + 1 := Int.le_add_one (le_refl _)
  refine ⟨⟨bound, hfirst, le_trans hbound hlater, hcommitted, ?_⟩, ?_⟩
  · intro txn' session hsession hlocked
    cases hlocked
    rcases hfree with hnone | hown
    · obtain ⟨hrows, hhead⟩ := hchain.idle txn session hsession (by simp [hnone])
      rw [hrows, hhead]
      exact Segment.nil _ _ _
    · exact (hholder txn session hsession hown).widen hlater
  · intro txn' session hsession hother
    apply hchain.idle txn' session hsession
    rcases hfree with hnone | hown
    · simp [hnone]
    · rw [hown]
      exact hother

theorem ChainHolds.insert (hchain : ChainHolds digest render db) {new : NewRow}
    (hinsert : insert digest render db txn new = some next) :
    ChainHolds digest render next := by
  obtain ⟨session, hsession, hnext⟩ := Option.bind_eq_some_iff.mp hinsert
  split at hnext
  · cases hnext
  split at hnext
  · rename_i hfree
    have hheld := hchain.hold hfree
    split at hnext
    · cases hnext
      obtain ⟨bound, hfirst, hbound, hcommitted, hholder⟩ := hchain.segment
      have hlater : db.nextLogId ≤ db.nextLogId + 1 := Int.le_add_one (le_refl _)
      -- What the transaction has written so far, before this row.
      have hwritten : Segment digest render db.head (session.head.getD db.head) bound
          db.nextLogId session.rows := by
        by_cases hlocked : db.lockedBy = some txn
        · exact hholder txn session hsession hlocked
        · obtain ⟨hrows, hhead⟩ := hchain.idle txn session hsession hlocked
          rw [hrows, hhead]
          exact Segment.nil _ _ _
      refine ⟨⟨bound, hfirst, le_trans hbound hlater, hcommitted, ?_⟩, ?_⟩
      · intro txn' session' hsession' hlocked
        cases hlocked
        rcases setSession_sessions hsession' with ⟨-, hsame⟩ | ⟨hother, -⟩
        · cases hsame
          exact hwritten.append (segment_auditLogChainHash new _ _ _) hbound hlater
        · exact absurd rfl hother
      · intro txn' session' hsession' hunlocked
        rcases setSession_sessions hsession' with ⟨hsame, -⟩ | ⟨-, hother⟩
        · exact absurd (congrArg some hsame.symm) hunlocked
        · exact hheld.idle txn' session' hother hunlocked
    · cases hnext
      exact hheld.setSession (.inr ⟨session, hsession, rfl, rfl⟩)
  · cases hnext

theorem release_sessions {session : Session}
    (hsession : (release db txn).sessions txn' = some session) :
    txn' ≠ txn ∧ db.sessions txn' = some session := by
  rcases setSession_sessions hsession with ⟨-, hnone⟩ | hother
  · cases hnone
  · exact hother

theorem release_lockedBy (hother : txn' ≠ txn) :
    (release db txn).lockedBy = some txn' ↔ db.lockedBy = some txn' := by
  change (if db.lockedBy = some txn then none else db.lockedBy) = some txn' ↔ _
  split
  · rename_i hlocked
    simp [hlocked, hother.symm]
  · rfl

theorem ChainHolds.release (hchain : ChainHolds digest render db) (txn : ℕ) :
    ChainHolds digest render (release db txn) := by
  obtain ⟨bound, hfirst, hbound, hcommitted, hholder⟩ := hchain.segment
  refine ⟨⟨bound, hfirst, hbound, hcommitted, ?_⟩, ?_⟩
  · intro txn' session hsession hlocked
    obtain ⟨hother, hopen⟩ := release_sessions hsession
    exact hholder txn' session hopen ((release_lockedBy hother).mp hlocked)
  · intro txn' session hsession hunlocked
    obtain ⟨hother, hopen⟩ := release_sessions hsession
    exact hchain.idle txn' session hopen
      fun hlocked => hunlocked ((release_lockedBy hother).mpr hlocked)

theorem ChainHolds.rollback (hchain : ChainHolds digest render db)
    (hrollback : rollback db txn = some next) : ChainHolds digest render next := by
  obtain ⟨session, -, hnext⟩ := Option.bind_eq_some_iff.mp hrollback
  cases hnext
  exact hchain.release txn

theorem ChainHolds.commit (hchain : ChainHolds digest render db)
    (hcommit : commit db txn = some next) : ChainHolds digest render next := by
  obtain ⟨session, hsession, hnext⟩ := Option.bind_eq_some_iff.mp hcommit
  split at hnext
  · cases hnext
    exact hchain.release txn
  · cases hnext
    obtain ⟨bound, hfirst, hbound, hcommitted, hholder⟩ := hchain.segment
    by_cases hlocked : db.lockedBy = some txn
    · refine ⟨⟨db.nextLogId, le_trans hfirst hbound, le_refl _,
        hcommitted.append (hholder txn session hsession hlocked) hfirst hbound, ?_⟩, ?_⟩
      · intro txn' session' hsession' hlocked'
        obtain ⟨hother, -⟩ := release_sessions hsession'
        have hholds := (release_lockedBy hother).mp hlocked'
        rw [show _ = _ from hlocked] at hholds
        exact absurd (Option.some.inj hholds).symm hother
      · intro txn' session' hsession' hunlocked
        obtain ⟨hother, hopen⟩ := release_sessions hsession'
        exact hchain.idle txn' session' hopen
          fun hlocked' => hunlocked ((release_lockedBy hother).mpr hlocked')
    · obtain ⟨hrows, hhead⟩ := hchain.idle txn session hsession hlocked
      rw [hrows, hhead, List.append_nil]
      exact hchain.release txn

theorem step_holds (hchain : ChainHolds digest render db) {event : Event}
    (hstep : step digest render db event = some next) : ChainHolds digest render next := by
  cases event with
  | tick elapsed =>
      cases hstep
      exact ⟨hchain.segment, hchain.idle⟩
  | beginTxn txn => exact hchain.beginTxn hstep
  | insert txn new => exact hchain.insert hstep
  | fail txn => exact hchain.fail hstep
  | commit txn => exact hchain.commit hstep
  | rollback txn => exact hchain.rollback hstep

/-- A log that is only inserted into verifies in every state of every run. -/
theorem verifies_of_run (digest : Bytes → Bytes) (render : ℤ → String)
    {events : List Event} {db : AuditDb}
    (hrun : Run (step digest render) (fun _ _ => True) emptyLog events db) :
    Verifies digest render db :=
  (hrun.invariant (ChainHolds digest render)
    (fun hchain _ hstep => step_holds hchain hstep) emptyLog_holds).verifies

/-- A digest and a rendering for runs on fixed inputs. -/
def markedDigest (bytes : Bytes) : Bytes := 1 :: bytes

def plainTime (time : ℤ) : String := toString time

def adjustment (entityId : ℤ) : NewRow where
  actionType := some "ADJUST"
  entityType := some "INVENTORY"
  entityId := some entityId
  userId := some "mira"
  deviceId := some "C6000-4"
  warehouseId := some 1
  details := some "-3"

/-- Two transactions insert in turn; the second waits until the first has rolled back
and commits before a third inserts. -/
def interleavedRun : List Event :=
  [.beginTxn 1, .beginTxn 2, .insert 1 (adjustment 7), .tick 5, .rollback 1,
    .insert 2 (adjustment 8), .insert 2 (adjustment 9), .beginTxn 3, .commit 2,
    .insert 3 (adjustment 10)]

def interleavedEnd : AuditDb :=
  (execute (step markedDigest plainTime) (fun _ _ => True) emptyLog interleavedRun).getD
    emptyLog

theorem verifies_interleavedEnd : Verifies markedDigest plainTime interleavedEnd := by
  have hrun : Run (step markedDigest plainTime) (fun _ _ => True) emptyLog interleavedRun
      interleavedEnd := Run.ofExecute rfl
  exact verifies_of_run markedDigest plainTime hrun

end SentryWms.Audit
