import SentryWms.Shipping.DockdRequests

/-!
# A key of dockd has one effect

A request that gets a 200 has either done its work in the transaction that claimed its
key, or has read the row of a request that did. The row of a committed request has its
response, because it was filled in before the commit, and it is never written again. What
it does not decide is the order: the hash covers the body alone, so a row binds its key to
one order only where the requests that read it are for that order.
-/

namespace SentryWms.Dockd

open Relational ReadCommitted Interleaving Transition Counting

/-! ## The property -/

def DockdRequest.effect (request : DockdRequest) : DockdEffect :=
  ⟨request.tokenId, request.body, request.soNumber⟩

/-- The ships and voids that were committed. -/
def committedEffects (db : Database) : List DockdEffect :=
  (committedRows db.auditLog).map Prod.fst

/-- Every 200 stands for one committed ship or void of that order with that body under
that key, and every committed key has its response. -/
structure OneEffect (db : Database) (replies : List DockdReply) : Prop where
  answered : ∀ reply ∈ replies, ∀ response replay, reply.outcome = .ok response replay →
    (committedEffects db).count reply.request.effect = 1
  filled : ∀ row ∈ committedRows db.idempotency, row.2 ≠ none

/-! ## The condition -/

section Condition

variable (sha256 : Payload → String) (bound : DockdRequest → IdempotencyColumns → Bool)

/-- Where a request reads the row of its key, written for its endpoint and its body, the
two are bound to each other. -/
def allows (db : Database) (txn : ℕ) : Statement → Bool
  | .cachedRow request =>
      (cachedRow db txn request).all fun row =>
        request.reuses sha256 row.1 || bound request row.1
  | _ => true

/-- The statements of a run meet the condition. -/
def Allowed (db : Database) (txn : ℕ) (statement : Statement) : Prop :=
  allows sha256 bound db txn statement = true

instance (db : Database) (txn : ℕ) (statement : Statement) :
    Decidable (Allowed sha256 bound db txn statement) :=
  inferInstanceAs (Decidable (_ = true))

end Condition

def sameOrder (request : DockdRequest) (row : IdempotencyColumns) : Bool :=
  row.soNumber == request.soNumber

/-! ## Where a session stands -/

def DockdEffect.columns (sha256 : Payload → String) (effect : DockdEffect) :
    IdempotencyColumns where
  tokenId := effect.tokenId
  idempotencyKey := effect.body.idempotencyKey
  endpoint := effect.body.endpoint
  soNumber := effect.soNumber
  requestBodySha256 := canonicalBodySha256 sha256 effect.body

/-- What a session has written of the two tables. -/
structure Standing where
  rows : List CachedRow
  effects : List DockdEffect

def standing (db : Database) (txn : ℕ) : Standing where
  rows := writtenBy db.idempotency txn
  effects := (writtenBy db.auditLog txn).map Prod.fst

/-- A session that has written nothing. -/
def Standing.nothing : Standing := ⟨[], []⟩

section Assertions

variable (sha256 : Payload → String) (bound : DockdRequest → IdempotencyColumns → Bool)

/-- A 200 goes back to a row with the key, the endpoint and the body of the request. -/
def Answered (known : List IdempotencyColumns) (reply : DockdReply) : Prop :=
  ∀ response replay, reply.outcome = .ok response replay →
    ∃ row ∈ known, reply.request.claims row = true ∧
      reply.request.reuses sha256 row = false ∧ bound reply.request row = true

/-- What a session has to know before a statement so that an assertion holds after it. The
rows it knows are committed. -/
def Before (self : Standing) (known : List IdempotencyColumns) :
    (statement : Statement) →
      (Answer statement → Standing → List IdempotencyColumns → Prop) → Prop
  | .cachedRow request, post =>
      self.rows = [] ∧ ∀ answer : Option CachedRow,
        (∀ row, answer = some row → request.claims row.1 = true ∧
          (request.reuses sha256 row.1 = false → bound request row.1 = true)) →
        post answer self (answer.toList.map Prod.fst ++ known)
  | .claimKey request, post =>
      self.rows = [] ∧ post true { self with rows := [(request.columns sha256, none)] } known ∧
        post false self known
  | .lockOrder soNumber _, post =>
      ∀ answer : Option (ℕ × OrderColumns × SoStatus),
        (∀ found, answer = some found → found.2.1.soNumber = soNumber) → post answer self known
  | .writeAuditLog request soNumber, post =>
      ∀ auditLogId, post auditLogId
        { self with effects := self.effects ++ [⟨request.tokenId, request.body, soNumber⟩] }
        known
  | .cacheResponse request response, post =>
      ∃ row, self.rows = [(row, none)] ∧ request.claims row = true ∧
        post () { self with rows := [(row, some response)] } known
  | _, post => ∀ answer, post answer self known

/-- From where a session stands, its program commits rows with responses, one for each
effect, and answers 200 only for one of them or for a row it knows. -/
def Safe (self : Standing) (known : List IdempotencyColumns) : DockdProgram → Prop
  | .reply true reply =>
      (∀ row ∈ self.rows, row.2 ≠ none) ∧
        self.effects.map (DockdEffect.columns sha256) = self.rows.map Prod.fst ∧
        Answered sha256 bound (self.rows.map Prod.fst ++ known) reply
  | .reply false reply => Answered sha256 bound known reply
  | .exec statement next =>
      Before sha256 bound self known statement fun answer after known =>
        Safe after known (next answer)

structure KeysBound (db : Database) (replies : List DockdReply) : Prop where
  unique : ((idents db.idempotency).map IdempotencyColumns.primaryKey).Nodup
  inserted : InsertOnly db.idempotency
  logged : InsertOnly db.auditLog
  filled : ∀ row ∈ committedRows db.idempotency, row.2 ≠ none
  matched : ((committedEffects db).map (DockdEffect.columns sha256)).Perm
    ((committedRows db.idempotency).map Prod.fst)
  answered : ∀ reply ∈ replies,
    Answered sha256 bound ((committedRows db.idempotency).map Prod.fst) reply

def Owns (db : Database) (txn : ℕ) (program : DockdProgram) : Prop :=
  ∃ known, known ⊆ (committedRows db.idempotency).map Prod.fst ∧
    Safe sha256 bound (standing db txn) known program

/-- A transaction that has not begun. -/
def Idle (db : Database) (txn : ℕ) : Prop :=
  standing db txn = .nothing

end Assertions

variable {sha256 : Payload → String} {bound : DockdRequest → IdempotencyColumns → Bool}
  {fetchOne : FetchOne (FulfillmentColumns × FulfillmentStatus)} {db after : Database}
  {txn other : ℕ} {replies : List DockdReply} {request : DockdRequest}
  {known known' : List IdempotencyColumns}

theorem Answered.mono {reply : DockdReply} (hanswered : Answered sha256 bound known reply)
    (hknown : known ⊆ known') : Answered sha256 bound known' reply := by
  intro response replay houtcome
  obtain ⟨row, hrow, hbound⟩ := hanswered response replay houtcome
  exact ⟨row, hknown hrow, hbound⟩

theorem Answered.refused (known : List IdempotencyColumns) (refusal : DockdRefusal) :
    Answered sha256 bound known ⟨request, .refused refusal⟩ := by
  intro response replay houtcome
  cases houtcome

/-! ## Every request is safe -/

section Programs

variable (hbound : ∀ request : DockdRequest, bound request (request.columns sha256) = true)

theorem claims_columns : request.claims (request.columns sha256) = true :=
  beq_self_eq_true _

theorem reuses_columns : request.reuses sha256 (request.columns sha256) = false := by
  simp [DockdRequest.reuses, DockdRequest.columns]

theorem refuse_safe (self : Standing) (known : List IdempotencyColumns)
    (refusal : DockdRefusal) : Safe sha256 bound self known (refuse request refusal) :=
  Answered.refused known refusal

theorem replay_answered {row : CachedRow} {response : Option DockdResponse}
    (hclaims : request.claims row.1 = true)
    (hrow : request.reuses sha256 row.1 = false → bound request row.1 = true)
    (hreuses : ¬ request.reuses sha256 row.1 = true) :
    Answered sha256 bound (row.1 :: known) ⟨request, .ok response true⟩ := by
  intro response' replay _
  have hsame := Bool.eq_false_of_not_eq_true hreuses
  exact ⟨row.1, List.mem_cons_self, hclaims, hsame, hrow hsame⟩

include hbound

theorem finish_safe (known : List IdempotencyColumns) (response : DockdResponse) :
    Safe sha256 bound ⟨[(request.columns sha256, none)], [request.effect]⟩ known
      (finish request response) := by
  refine ⟨request.columns sha256, rfl, claims_columns, ?_, rfl, ?_⟩
  · intro row hrow
    rw [List.mem_singleton.mp hrow]
    nofun
  · intro response replay _
    exact ⟨_, List.mem_cons_self, claims_columns, reuses_columns, hbound request⟩

variable {order : OrderColumns} (horder : order.soNumber = request.soNumber)

include horder

theorem recordShip_safe (known : List IdempotencyColumns) (tracking : String) (soId : ℕ)
    (status : SoStatus) :
    Safe sha256 bound ⟨[(request.columns sha256, none)], []⟩ known
      (recordShip request tracking soId order status) := by
  intro lines
  cases lines with
  | cons first rest => exact refuse_safe _ _ _
  | nil =>
      intro fulfillmentId written auditLogId
      rw [horder]
      exact finish_safe hbound known _

theorem recordVoidShip_safe (known : List IdempotencyColumns) (soId fulfillmentId : ℕ)
    (preShipStatus : Option SoStatus) :
    Safe sha256 bound ⟨[(request.columns sha256, none)], []⟩ known
      (recordVoidShip request soId order fulfillmentId preShipStatus) := by
  cases preShipStatus with
  | none => exact refuse_safe _ _ _
  | some status =>
      intro written voided auditLogId
      rw [horder]
      exact finish_safe hbound known _

theorem shipLocked_safe (known : List IdempotencyColumns) (tracking : String) (soId : ℕ)
    (status : SoStatus) :
    Safe sha256 bound ⟨[(request.columns sha256, none)], []⟩ known
      (shipLocked request tracking soId order status) := by
  rw [shipLocked]
  split
  · intro fulfillment
    exact refuse_safe _ _ _
  · intro allowed
    dsimp only
    split
    · exact refuse_safe _ _ _
    · exact recordShip_safe hbound horder known tracking soId status

theorem voidLocked_safe (known : List IdempotencyColumns) (soId : ℕ) (status : SoStatus) :
    Safe sha256 bound ⟨[(request.columns sha256, none)], []⟩ known
      (voidLocked request soId order status) := by
  rw [voidLocked]
  split
  · exact refuse_safe _ _ _
  · intro fulfillment
    cases fulfillment with
    | none => exact refuse_safe _ _ _
    | some found =>
        exact recordVoidShip_safe hbound horder known soId found.1 found.2.1.preShipStatus

omit horder

theorem work_safe (known : List IdempotencyColumns) :
    Safe sha256 bound ⟨[(request.columns sha256, none)], []⟩ known (work request) := by
  rw [work]
  split
  · exact refuse_safe _ _ _
  · intro found hfound
    cases found with
    | none => exact refuse_safe _ _ _
    | some found =>
        obtain ⟨soId, order, status⟩ := found
        have horder := hfound _ rfl
        dsimp only
        split
        · exact shipLocked_safe hbound horder known _ soId status
        · exact voidLocked_safe hbound horder known soId status

theorem claimAndWork_safe (known : List IdempotencyColumns) :
    Safe sha256 bound .nothing known (claimAndWork sha256 request) := by
  intro operator
  cases operator with
  | none => exact refuse_safe _ _ _
  | some externalId =>
      refine ⟨rfl, work_safe hbound known, rfl, ?_⟩
      intro peer hpeer
      refine ⟨nofun, rfl, ?_⟩
      cases peer with
      | none => exact Answered.refused _ _
      | some row =>
          obtain ⟨hclaims, hrow⟩ := hpeer row rfl
          dsimp only
          split
          · exact Answered.refused _ _
          · next hreuses => exact replay_answered hclaims hrow hreuses

theorem handle_safe (request : DockdRequest) :
    Safe sha256 bound .nothing [] (handle sha256 request) := by
  rw [handle]
  split
  · exact refuse_safe _ _ _
  · refine ⟨rfl, ?_⟩
    intro cached hcached
    cases cached with
    | none => exact claimAndWork_safe hbound _
    | some row =>
        obtain ⟨row, response⟩ := row
        obtain ⟨hclaims, hrow⟩ := hcached _ rfl
        dsimp only
        split
        · exact refuse_safe _ _ _
        · next hreuses =>
            cases response with
            | none => exact claimAndWork_safe hbound _
            | some response => exact replay_answered hclaims hrow hreuses

end Programs

/-! ## Statements leave other sessions where they stand -/

theorem standing_congr (hidempotency : after.idempotency = db.idempotency)
    (hauditLog : after.auditLog = db.auditLog) : standing after txn = standing db txn := by
  rw [standing, standing, hidempotency, hauditLog]

/-- A statement that writes neither of the two tables. -/
def Statement.elsewhere : Statement → Bool
  | .claimKey _ | .writeAuditLog _ _ | .cacheResponse _ _ => false
  | _ => true

variable {statement : Statement}

theorem perform_elsewhere {result : Database × Answer statement}
    (helsewhere : statement.elsewhere = true)
    (hperform : perform sha256 fetchOne db txn statement = some result) :
    result.1.idempotency = db.idempotency ∧ result.1.auditLog = db.auditLog := by
  cases statement with
  | lockOrder soNumber tokenWarehouseIds =>
      rw [perform, lockOrder] at hperform
      split at hperform
      · cases hperform
        exact ⟨rfl, rfl⟩
      · obtain ⟨orders, -, rfl⟩ := Option.map_eq_some_iff.mp hperform
        exact ⟨rfl, rfl⟩
  | setStatus soId status =>
      obtain ⟨orders, -, rfl⟩ := Option.map_eq_some_iff.mp hperform
      exact ⟨rfl, rfl⟩
  | voidFulfillment fulfillmentId =>
      obtain ⟨fulfillments, -, rfl⟩ := Option.map_eq_some_iff.mp hperform
      exact ⟨rfl, rfl⟩
  | cachedRow request => cases hperform; exact ⟨rfl, rfl⟩
  | operatorExternalId username => cases hperform; exact ⟨rfl, rfl⟩
  | allowedStatuses => cases hperform; exact ⟨rfl, rfl⟩
  | silentShortfall soId => cases hperform; exact ⟨rfl, rfl⟩
  | lastShipped soId => cases hperform; exact ⟨rfl, rfl⟩
  | insertFulfillment soId preShipStatus => cases hperform; exact ⟨rfl, rfl⟩
  | claimKey request => cases helsewhere
  | writeAuditLog request soNumber => cases helsewhere
  | cacheResponse request response => cases helsewhere

theorem claimKey_cases {result : Database × Bool}
    (hclaim : claimKey sha256 db txn request = some result) :
    (result = ({ db with
        idempotency := insertRow db.idempotency txn (request.columns sha256) none }, true) ∧
      ∀ entry ∈ db.idempotency.entries, request.claims entry.2.ident = false) ∨
    result = (db, false) := by
  rw [claimKey] at hclaim
  split at hclaim
  · next hfind =>
      refine .inl ⟨(Option.some.inj hclaim).symm, ?_⟩
      intro entry hentry
      have hnone := List.find?_eq_none.mp hfind entry hentry
      exact Bool.eq_false_of_not_eq_true hnone
  · obtain ⟨value, -, rfl⟩ := Option.map_eq_some_iff.mp hclaim
    exact .inr rfl

theorem cacheResponse_spec {response : DockdResponse}
    {result : Database × Answer (.cacheResponse request response)}
    (hperform : perform sha256 fetchOne db txn (.cacheResponse request response) =
      some result) :
    (allFree db.idempotency txn fun _ row => request.claims row) = true ∧
      result.1 = { db with
        idempotency := writeWhere db.idempotency txn (fun _ row => request.claims row)
          fun _ => some response } := by
  rw [perform] at hperform
  split at hperform
  · next hfree =>
      cases hperform
      exact ⟨hfree, rfl⟩
  · cases hperform

theorem perform_other {result : Database × Answer statement}
    (hperform : perform sha256 fetchOne db txn statement = some result)
    (hother : other ≠ txn) : standing result.1 other = standing db other := by
  cases helsewhere : statement.elsewhere with
  | true =>
      obtain ⟨hidempotency, hauditLog⟩ := perform_elsewhere helsewhere hperform
      exact standing_congr hidempotency hauditLog
  | false =>
      cases statement with
      | claimKey request =>
          rcases claimKey_cases hperform with ⟨rfl, -⟩ | rfl
          · rw [standing, standing, writtenBy_insertRow_other hother]
          · rfl
      | writeAuditLog request soNumber =>
          cases hperform
          rw [standing, standing, writtenBy_insertRow_other hother]
      | cacheResponse request response =>
          obtain ⟨hfree, hresult⟩ := cacheResponse_spec hperform
          rw [hresult, standing, standing, writtenBy_writeWhere_other hfree _ hother]
      | _ => cases helsewhere

theorem perform_committed {result : Database × Answer statement}
    (hperform : perform sha256 fetchOne db txn statement = some result) :
    committedRows result.1.idempotency = committedRows db.idempotency ∧
      committedEffects result.1 = committedEffects db := by
  cases helsewhere : statement.elsewhere with
  | true =>
      obtain ⟨hidempotency, hauditLog⟩ := perform_elsewhere helsewhere hperform
      rw [committedEffects, committedEffects, hidempotency, hauditLog]
      exact ⟨rfl, rfl⟩
  | false =>
      cases statement with
      | claimKey request =>
          rcases claimKey_cases hperform with ⟨rfl, -⟩ | rfl
          · exact ⟨committedRows_insertRow _ _, rfl⟩
          · exact ⟨rfl, rfl⟩
      | writeAuditLog request soNumber =>
          cases hperform
          refine ⟨rfl, ?_⟩
          rw [committedEffects, committedEffects, committedRows_insertRow]
      | cacheResponse request response =>
          obtain ⟨-, hresult⟩ := cacheResponse_spec hperform
          rw [hresult]
          exact ⟨committedRows_writeWhere _, rfl⟩
      | _ => cases helsewhere

theorem commit_other (hother : other ≠ txn) :
    standing ((engine sha256 fetchOne).commit db txn) other = standing db other := by
  rw [standing, standing]
  dsimp only [engine]
  rw [writtenBy_commitRows_other _ hother, writtenBy_commitRows_other _ hother]

theorem rollback_other (hother : other ≠ txn) :
    standing ((engine sha256 fetchOne).rollback db txn) other = standing db other := by
  rw [standing, standing]
  dsimp only [engine]
  rw [writtenBy_rollbackRows_other _ hother, writtenBy_rollbackRows_other _ hother]

theorem commit_idle : Idle ((engine sha256 fetchOne).commit db txn) txn := by
  rw [Idle, standing]
  dsimp only [engine]
  rw [writtenBy_commitRows, writtenBy_commitRows]
  rfl

theorem rollback_idle : Idle ((engine sha256 fetchOne).rollback db txn) txn := by
  rw [Idle, standing]
  dsimp only [engine]
  rw [writtenBy_rollbackRows, writtenBy_rollbackRows]
  rfl

/-! ## What a statement does to its own session -/

theorem claimed_own (hkeys : KeysBound sha256 bound db replies) {row : CachedRow}
    (hrow : row ∈ writtenBy db.idempotency txn) (hclaims : request.claims row.1 = true) :
    ∀ entry ∈ db.idempotency.entries, request.claims entry.2.ident = true →
      (entry.2.version.heldBy txn).isSome = true := by
  intro entry hentry hentryClaims
  obtain ⟨own, hown, hident, hheld⟩ := writtenBy_idents db.idempotency hrow
  have hunique := hkeys.unique
  rw [idents, List.map_map] at hunique
  have hsame : own.2.ident.primaryKey = entry.2.ident.primaryKey := by
    rw [hident, beq_iff_eq.mp hclaims, beq_iff_eq.mp hentryClaims]
  rw [← List.inj_on_of_nodup_map hunique hown hentry hsame]
  exact hheld

theorem perform_before {result : Database × Answer statement}
    {post : Answer statement → Standing → List IdempotencyColumns → Prop}
    (hkeys : KeysBound sha256 bound db replies)
    (hknown : known ⊆ (committedRows db.idempotency).map Prod.fst)
    (hbefore : Before sha256 bound (standing db txn) known statement post)
    (hallowed : Allowed sha256 bound db txn statement)
    (hperform : perform sha256 fetchOne db txn statement = some result) :
    ∃ known', known' ⊆ (committedRows db.idempotency).map Prod.fst ∧
      post result.2 (standing result.1 txn) known' := by
  cases statement with
  | cachedRow request =>
      cases hperform
      obtain ⟨hnothing, hpost⟩ := hbefore
      have hread : ∀ row, cachedRow db txn request = some row →
          row ∈ committedRows db.idempotency ∧ request.claims row.1 = true := by
        intro row hrow
        obtain ⟨seen, hseen, rfl⟩ := Option.map_eq_some_iff.mp hrow
        have hclaims := List.find?_some hseen
        exact ⟨mem_committedRows_of_seen hnothing (List.mem_of_find?_eq_some hseen), hclaims⟩
      refine ⟨_, ?_, hpost _ ?_⟩
      · intro row hrow
        rcases List.mem_append.mp hrow with hnew | hold
        · obtain ⟨cached, hcached, rfl⟩ := List.mem_map.mp hnew
          exact List.mem_map_of_mem (hread cached (Option.mem_toList.mp hcached)).1
        · exact hknown hold
      · intro row hrow
        refine ⟨(hread row hrow).2, ?_⟩
        intro hsame
        have hread : cachedRow db txn request = some row := hrow
        have hentry := hallowed
        rw [Allowed, allows, hread, Option.all_some, hsame, Bool.false_or] at hentry
        exact hentry
  | claimKey request =>
      obtain ⟨hnothing, hclaimed, hpeer⟩ := hbefore
      rcases claimKey_cases hperform with ⟨rfl, -⟩ | rfl
      · refine ⟨known, hknown, ?_⟩
        rw [standing, writtenBy_insertRow]
        have hrows : writtenBy db.idempotency txn = [] := hnothing
        rw [hrows]
        exact hclaimed
      · exact ⟨known, hknown, hpeer⟩
  | lockOrder soNumber tokenWarehouseIds =>
      obtain ⟨hidempotency, hauditLog⟩ := perform_elsewhere rfl hperform
      have hstanding : standing result.1 txn = standing db txn :=
        standing_congr hidempotency hauditLog
      rw [hstanding]
      refine ⟨known, hknown, hbefore _ ?_⟩
      intro found hfound
      rw [perform, lockOrder] at hperform
      split at hperform
      · cases hperform
        cases hfound
      · next soId row hfind =>
          obtain ⟨orders, -, rfl⟩ := Option.map_eq_some_iff.mp hperform
          cases hfound
          have hcond := List.find?_some hfind
          rw [Bool.and_eq_true, beq_iff_eq] at hcond
          exact hcond.1
  | writeAuditLog request soNumber =>
      cases hperform
      refine ⟨known, hknown, ?_⟩
      rw [standing, writtenBy_insertRow, List.map_append]
      exact hbefore _
  | cacheResponse request response =>
      obtain ⟨row, hrows, hclaims, hpost⟩ := hbefore
      obtain ⟨-, hresult⟩ := cacheResponse_spec hperform
      have hwritten : writtenBy db.idempotency txn = [(row, none)] := hrows
      have hmem : (row, none) ∈ writtenBy db.idempotency txn := by
        rw [hwritten]
        exact List.mem_cons_self
      refine ⟨known, hknown, ?_⟩
      rw [hresult, standing]
      dsimp only
      rw [writtenBy_writeWhere _ (claimed_own hkeys hmem hclaims), hwritten,
        List.map_singleton, if_pos hclaims]
      exact hpost
  | operatorExternalId username => cases hperform; exact ⟨known, hknown, hbefore _⟩
  | allowedStatuses => cases hperform; exact ⟨known, hknown, hbefore _⟩
  | silentShortfall soId => cases hperform; exact ⟨known, hknown, hbefore _⟩
  | lastShipped soId => cases hperform; exact ⟨known, hknown, hbefore _⟩
  | insertFulfillment soId preShipStatus => cases hperform; exact ⟨known, hknown, hbefore _⟩
  | setStatus soId status =>
      obtain ⟨orders, -, rfl⟩ := Option.map_eq_some_iff.mp hperform
      exact ⟨known, hknown, hbefore _⟩
  | voidFulfillment fulfillmentId =>
      obtain ⟨fulfillments, -, rfl⟩ := Option.map_eq_some_iff.mp hperform
      exact ⟨known, hknown, hbefore _⟩

/-! ## Runs -/

theorem KeysBound.perform {result : Database × Answer statement}
    {post : Answer statement → Standing → List IdempotencyColumns → Prop}
    (hkeys : KeysBound sha256 bound db replies)
    (hbefore : Before sha256 bound (standing db txn) known statement post)
    (hperform : perform sha256 fetchOne db txn statement = some result) :
    KeysBound sha256 bound result.1 replies := by
  obtain ⟨hrows, heffects⟩ := perform_committed hperform
  have hwritten : ((idents result.1.idempotency).map IdempotencyColumns.primaryKey).Nodup ∧
      InsertOnly result.1.idempotency ∧ InsertOnly result.1.auditLog := by
    cases helsewhere : statement.elsewhere with
    | true =>
        obtain ⟨hidempotency, hauditLog⟩ := perform_elsewhere helsewhere hperform
        rw [hidempotency, hauditLog]
        exact ⟨hkeys.unique, hkeys.inserted, hkeys.logged⟩
    | false =>
        cases statement with
        | claimKey request =>
            rcases claimKey_cases hperform with ⟨rfl, hfresh⟩ | rfl
            · refine ⟨?_, hkeys.inserted.insertRow _ _, hkeys.logged⟩
              dsimp only
              rw [idents_insertRow, List.map_append, List.nodup_append]
              refine ⟨hkeys.unique, List.nodup_singleton _, ?_⟩
              intro key hkey key' hkey' hsame
              rw [List.map_singleton, List.mem_singleton] at hkey'
              obtain ⟨ident, hident, rfl⟩ := List.mem_map.mp hkey
              obtain ⟨entry, hentry, rfl⟩ := List.mem_map.mp hident
              have hclaims := hfresh entry hentry
              rw [DockdRequest.claims, hsame, hkey'] at hclaims
              exact absurd hclaims (by simp [IdempotencyColumns.primaryKey, DockdRequest.columns])
            · exact ⟨hkeys.unique, hkeys.inserted, hkeys.logged⟩
        | writeAuditLog request soNumber =>
            cases hperform
            exact ⟨hkeys.unique, hkeys.inserted, hkeys.logged.insertRow _ _⟩
        | cacheResponse request response =>
            obtain ⟨row, hstanding, hclaims, -⟩ := hbefore
            obtain ⟨-, hresult⟩ := cacheResponse_spec hperform
            have hmem : (row, none) ∈ (standing db txn).rows := by
              rw [hstanding]
              exact List.mem_cons_self
            rw [hresult]
            dsimp only
            rw [idents_writeWhere]
            exact ⟨hkeys.unique,
              hkeys.inserted.writeWhere _ (claimed_own hkeys hmem hclaims), hkeys.logged⟩
        | _ => cases helsewhere
  refine ⟨hwritten.1, hwritten.2.1, hwritten.2.2, ?_, ?_, ?_⟩
  · rw [hrows]
    exact hkeys.filled
  · rw [hrows, heffects]
    exact hkeys.matched
  · rw [hrows]
    exact hkeys.answered

theorem KeysBound.rollback (hkeys : KeysBound sha256 bound db replies) (txn : ℕ) :
    KeysBound sha256 bound ((engine sha256 fetchOne).rollback db txn) replies := by
  have hrows := committedRows_rollbackRows db.idempotency txn
  have heffects : committedEffects ((engine sha256 fetchOne).rollback db txn) =
      committedEffects db :=
    congrArg (List.map Prod.fst) (committedRows_rollbackRows db.auditLog txn)
  refine ⟨?_, hkeys.inserted.rollbackRows txn, hkeys.logged.rollbackRows txn, ?_, ?_, ?_⟩
  · exact hkeys.unique.sublist ((idents_rollbackRows db.idempotency txn).map _)
  · intro row hrow
    exact hkeys.filled row (hrows ▸ hrow)
  · rw [heffects]
    dsimp only [engine]
    rw [hrows]
    exact hkeys.matched
  · dsimp only [engine]
    rw [hrows]
    exact hkeys.answered

theorem KeysBound.commit (hkeys : KeysBound sha256 bound db replies)
    (hfilled : ∀ row ∈ writtenBy db.idempotency txn, row.2 ≠ none)
    (hmatched : (standing db txn).effects.map (DockdEffect.columns sha256) =
      (standing db txn).rows.map Prod.fst) :
    KeysBound sha256 bound ((engine sha256 fetchOne).commit db txn) replies := by
  have hrows := committedRows_commitRows hkeys.inserted txn
  have hcolumns := hrows.map Prod.fst
  have heffects : (committedEffects ((engine sha256 fetchOne).commit db txn)).Perm
      (committedEffects db ++ (standing db txn).effects) := by
    have hlogged := (committedRows_commitRows hkeys.logged txn).map Prod.fst
    rw [List.map_append] at hlogged
    exact hlogged
  rw [List.map_append] at hcolumns
  refine ⟨?_, hkeys.inserted.commitRows txn, hkeys.logged.commitRows txn, ?_, ?_, ?_⟩
  · dsimp only [engine]
    rw [idents_commitRows]
    exact hkeys.unique
  · intro row hrow
    rcases List.mem_append.mp (hrows.mem_iff.mp hrow) with hold | hnew
    · exact hkeys.filled row hold
    · exact hfilled row hnew
  · refine (heffects.map _).trans ?_
    rw [List.map_append, hmatched]
    exact (hkeys.matched.append (List.Perm.refl _)).trans hcolumns.symm
  · intro reply hreply
    refine (hkeys.answered reply hreply).mono ?_
    intro row hrow
    exact hcolumns.mem_iff.mpr (List.mem_append_left _ hrow)

theorem undisturbed (hbound : ∀ request : DockdRequest,
      bound request (request.columns sha256) = true) :
    Undisturbed (engine sha256 fetchOne) (handle sha256) (Allowed sha256 bound)
      (KeysBound sha256 bound) (Owns sha256 bound) Idle where
  begins := by
    intro db txn hidle request
    refine ⟨[], List.nil_subset _, ?_⟩
    rw [hidle]
    exact handle_safe hbound request
  performs := by
    intro db replies txn statement next result hkeys hown hallowed hperform
    obtain ⟨known, hknown, hsafe⟩ := hown
    obtain ⟨known', hknown', hnext⟩ :=
      perform_before hkeys hknown hsafe hallowed hperform
    refine ⟨hkeys.perform hsafe hperform, known', ?_, hnext⟩
    rw [(perform_committed hperform).1]
    exact hknown'
  commits := by
    intro db replies txn reply hkeys hown
    obtain ⟨known, hknown, hfilled, hmatched, hanswered⟩ := hown
    have hcommit : KeysBound sha256 bound ((engine sha256 fetchOne).commit db txn) replies :=
      hkeys.commit hfilled hmatched
    refine ⟨{ hcommit with answered := ?_ }, commit_idle⟩
    intro reply' hreply
    rcases List.mem_append.mp hreply with hold | hnew
    · exact hcommit.answered reply' hold
    · rw [List.mem_singleton.mp hnew]
      refine hanswered.mono ?_
      have hcolumns := (committedRows_commitRows hkeys.inserted txn).map Prod.fst
      rw [List.map_append] at hcolumns
      intro row hrow
      refine hcolumns.mem_iff.mpr (List.mem_append.mpr ?_)
      rcases List.mem_append.mp hrow with hwritten | hread
      · exact .inr hwritten
      · exact .inl (hknown hread)
  refuses := by
    intro db replies txn reply hkeys hown
    obtain ⟨known, hknown, hanswered⟩ := hown
    have hrollback :
        KeysBound sha256 bound ((engine sha256 fetchOne).rollback db txn) replies :=
      hkeys.rollback txn
    refine { hrollback with answered := ?_ }
    intro reply' hreply
    rcases List.mem_append.mp hreply with hold | hnew
    · exact hrollback.answered reply' hold
    · rw [List.mem_singleton.mp hnew]
      refine Answered.mono hanswered ?_
      dsimp only [engine]
      rw [committedRows_rollbackRows]
      exact hknown
  rollsBack := fun hkeys txn => ⟨hkeys.rollback txn, rollback_idle⟩
  owns_others := by
    intro db txn other program hown hother
    obtain ⟨known, hknown, hsafe⟩ := hown
    refine ⟨?_, ⟨known, ?_, ?_⟩, known, ?_, ?_⟩
    · intro statement result hperform
      refine ⟨known, ?_, ?_⟩
      · rw [(perform_committed hperform).1]
        exact hknown
      · rw [perform_other hperform hother]
        exact hsafe
    · exact List.Subset.trans hknown (committed_idents_commitRows db.idempotency txn)
    · rw [commit_other hother]
      exact hsafe
    · dsimp only [engine]
      rw [committedRows_rollbackRows]
      exact hknown
    · rw [rollback_other hother]
      exact hsafe
  idle_others := by
    intro db txn other hidle hother
    refine ⟨?_, ?_, ?_⟩
    · intro statement result hperform
      rw [Idle, perform_other hperform hother]
      exact hidle
    · rw [Idle, commit_other hother]
      exact hidle
    · rw [Idle, rollback_other hother]
      exact hidle

/-- Nothing is in progress, and every key has its response and its effect. -/
structure AtRest (sha256 : Payload → String) (db : Database) : Prop where
  unique : ((idents db.idempotency).map IdempotencyColumns.primaryKey).Nodup
  settled : ∀ entry ∈ db.idempotency.entries,
    ∃ response, entry.2.version = .stable (some response)
  logged : ∀ entry ∈ db.auditLog.entries, entry.2.version = .stable ()
  matched : ((committedEffects db).map (DockdEffect.columns sha256)).Perm
    ((committedRows db.idempotency).map Prod.fst)

theorem AtRest.holds (hrest : AtRest sha256 db) :
    Holds (KeysBound sha256 bound) (Owns sha256 bound) Idle
      (⟨db, fun _ => none, []⟩ : DockdSystem) where
  inv := by
    refine ⟨hrest.unique, ?_, ?_, ?_, hrest.matched,
    fun reply hreply => absurd hreply List.not_mem_nil⟩
    · intro entry hentry
      obtain ⟨response, hversion⟩ := hrest.settled entry hentry
      rw [hversion]
      rfl
    · intro entry hentry
      rw [hrest.logged entry hentry]
      rfl
    · intro row hrow
      obtain ⟨entry, hentry, hcommitted⟩ := List.mem_filterMap.mp hrow
      obtain ⟨response, hversion⟩ := hrest.settled entry hentry
      rw [hversion] at hcommitted
      cases hcommitted
      nofun
  owns := nofun
  idle := by
    intro txn _
    have hrows : writtenBy db.idempotency txn = [] := by
      apply List.filterMap_eq_nil_iff.mpr
      intro entry hentry
      obtain ⟨response, hversion⟩ := hrest.settled entry hentry
      rw [hversion]
      rfl
    have heffects : writtenBy db.auditLog txn = [] := by
      apply List.filterMap_eq_nil_iff.mpr
      intro entry hentry
      rw [hrest.logged entry hentry]
      rfl
    rw [Idle, standing, hrows, heffects]
    rfl

theorem KeysBound.count_effect (hkeys : KeysBound sha256 bound db replies)
    {effect : DockdEffect} (heffect : effect ∈ committedEffects db) :
    (committedEffects db).count effect = 1 := by
  have hkeysNodup : (((committedRows db.idempotency).map Prod.fst).map
      IdempotencyColumns.primaryKey).Nodup :=
    hkeys.unique.sublist ((committedRows_idents db.idempotency).map _)
  have hcolumns := ((hkeys.matched.map IdempotencyColumns.primaryKey).nodup_iff).mpr hkeysNodup
  exact List.count_eq_one_of_mem ((hcolumns.of_map _).of_map _) heffect

theorem KeysBound.oneEffect (hkeys : KeysBound sha256 sameOrder db replies)
    (hsha256 : Function.Injective sha256) : OneEffect db replies where
  filled := hkeys.filled
  answered := by
    intro reply hreply response replay houtcome
    obtain ⟨row, hrow, hclaims, hreuses, hsame⟩ :=
      hkeys.answered reply hreply response replay houtcome
    obtain ⟨effect, heffect, hcolumns⟩ := List.mem_map.mp (hkeys.matched.mem_iff.mpr hrow)
    suffices hmeant : effect = reply.request.effect by
      rw [← hmeant]
      exact hkeys.count_effect heffect
    rw [← hcolumns] at hclaims hreuses hsame
    rw [DockdRequest.claims, beq_iff_eq, IdempotencyColumns.primaryKey, Prod.mk.injEq] at hclaims
    rw [DockdRequest.reuses, Bool.or_eq_false_iff, bne_eq_false_iff_eq, bne_eq_false_iff_eq]
      at hreuses
    have hpayload : effect.body.payload = reply.request.body.payload := hsha256 hreuses.2
    have hbody : effect.body = reply.request.body := by
      rw [DockdBody.ext_iff]
      exact ⟨hclaims.2, hpayload⟩
    rw [DockdEffect.ext_iff]
    exact ⟨hclaims.1, hbody, beq_iff_eq.mp hsame⟩

/-- In every run of ship and void-ship requests, statement by statement, in which a request
that reads the row of its key, endpoint and body finds its own order there, every 200 stands
for exactly one committed effect of that request, and no committed key is without its
response. -/
theorem oneEffect_of_run (fetchOne : FetchOne (FulfillmentColumns × FulfillmentStatus))
    (hsha256 : Function.Injective sha256) (hrest : AtRest sha256 db)
    {acts : List (Act DockdRequest)} {system : DockdSystem}
    (hrun : Run (step (engine sha256 fetchOne) (handle sha256))
      (Guarded (Allowed sha256 sameOrder)) ⟨db, fun _ => none, []⟩ acts system) :
    OneEffect system.db system.replies := by
  have hown : ∀ request : DockdRequest, sameOrder request (request.columns sha256) = true :=
    fun request => beq_self_eq_true request.soNumber
  have hholds := run_holds (undisturbed hown) hrest.holds hrun
  exact hholds.inv.oneEffect hsha256

/-- Without that condition the committed keys have their responses all the same. -/
theorem filled_of_run (hrest : AtRest sha256 db) {guard : DockdSystem → Act DockdRequest → Prop}
    {acts : List (Act DockdRequest)} {system : DockdSystem}
    (hrun : Run (step (engine sha256 fetchOne) (handle sha256)) guard
      ⟨db, fun _ => none, []⟩ acts system) :
    ∀ row ∈ committedRows system.db.idempotency, row.2 ≠ none := by
  have hall : ∀ db txn statement, Allowed sha256 (fun _ _ => true) db txn statement := by
    intro db txn statement
    cases statement with
    | cachedRow request =>
        rw [Allowed, allows]
        cases cachedRow db txn request <;> simp
    | _ => rfl
  have hallowed := hrun.weaken fun system act _ => Guarded.of_all hall system act
  exact (run_holds (undisturbed fun _ => rfl) hrest.holds hallowed).inv.filled

/-! ## One key for two orders -/

instance instCountableChar : Countable Char :=
  Function.Injective.countable (f := Char.toNat) fun _ _ hsame => Char.toNat_inj.mp hsame

instance instCountableString : Countable String :=
  Function.Injective.countable (f := String.toList) fun _ _ hsame => String.toList_inj.mp hsame

deriving instance Countable for Dimensions
deriving instance Countable for ShipBody
deriving instance Countable for VoidShipBody
deriving instance Countable for Payload

/-- The body of a ship. -/
def parcel : Payload :=
  .ship ⟨"1Z999", "UPS", none, "ana", none, none, none, false⟩

/-- A hash without collisions that is SHA-256 on that body. -/
noncomputable def parcelSha256 (payload : Payload) : String :=
  if payload = parcel then "0130d71fb90cd4ab16cc00c53c4bdfbabca048ea804b8ba924dd52171e78ba53"
  else String.ofList (List.replicate
    (Classical.choose (exists_injective_nat Payload) payload + 65) 'x')

theorem parcelSha256_injective : Function.Injective parcelSha256 := by
  have hlength : ∀ payload, payload ≠ parcel →
      (parcelSha256 payload).toList.length =
        Classical.choose (exists_injective_nat Payload) payload + 65 := by
    intro payload hother
    rw [parcelSha256, if_neg hother, String.toList_ofList, List.length_replicate]
  have hparcel : (parcelSha256 parcel).toList.length = 64 := by
    rw [parcelSha256, if_pos rfl]
    decide
  intro left right hsame
  have hlengths : (parcelSha256 left).toList.length = (parcelSha256 right).toList.length :=
    congrArg (fun text => text.toList.length) hsame
  by_cases hleft : left = parcel
  · by_cases hright : right = parcel
    · rw [hleft, hright]
    · rw [hleft, hparcel, hlength right hright] at hlengths
      omega
  · by_cases hright : right = parcel
    · rw [hright, hparcel, hlength left hleft] at hlengths
      omega
    · rw [hlength left hleft, hlength right hright] at hlengths
      exact Classical.choose_spec (exists_injective_nat Payload) (Nat.add_right_cancel hlengths)

def twoPacked : Database where
  store := {}
  operators := [("ana", "7d0f")]
  orders := ofCommitted [(⟨"SO-1", 1⟩, .packed), (⟨"SO-2", 1⟩, .packed)]
  fulfillments := .empty
  auditLog := .empty
  idempotency := .empty

def shipOf (soNumber : String) : DockdRequest :=
  ⟨1, [1], soNumber, ⟨"key-1", parcel⟩⟩

noncomputable def endOf (guard : DockdSystem → Act DockdRequest → Prop)
    [∀ system act, Decidable (guard system act)] (acts : List (Act DockdRequest)) :
    DockdSystem :=
  (execute (step (engine parcelSha256 (.first _)) (handle parcelSha256)) guard
    ⟨twoPacked, fun _ => none, []⟩ acts).getD ⟨twoPacked, fun _ => none, []⟩

/-- Two requests for one order: the second one waits until the first one commits. -/
def sameOrderTwice : List (Act DockdRequest) :=
  .start 1 (shipOf "SO-1") :: List.replicate 3 (.advance 1) ++
    .start 2 (shipOf "SO-1") :: List.replicate 2 (.advance 2) ++
      List.replicate 8 (.advance 1) ++ List.replicate 3 (.advance 2)

def otherOrderNext : List (Act DockdRequest) :=
  .start 1 (shipOf "SO-1") :: List.replicate 11 (.advance 1) ++
    .start 2 (shipOf "SO-2") :: List.replicate 2 (.advance 2)

theorem twoPacked_atRest : AtRest parcelSha256 twoPacked where
  unique := List.nodup_nil
  settled := nofun
  logged := nofun
  matched := List.Perm.nil

theorem oneEffect_sameOrderTwice :
    (endOf (Guarded (Allowed parcelSha256 sameOrder)) sameOrderTwice).replies.length = 2 ∧
      OneEffect (endOf (Guarded (Allowed parcelSha256 sameOrder)) sameOrderTwice).db
        (endOf (Guarded (Allowed parcelSha256 sameOrder)) sameOrderTwice).replies :=
  ⟨rfl, oneEffect_of_run (.first _) parcelSha256_injective twoPacked_atRest
    (Run.ofExecute (rfl : execute _ _ _ sameOrderTwice =
      some (endOf (Guarded (Allowed parcelSha256 sameOrder)) sameOrderTwice)))⟩

theorem filled_otherOrderNext :
    none ∉ (committedRows (endOf (fun _ _ => True) otherOrderNext).db.idempotency).map
      Prod.snd := by
  intro hnone
  obtain ⟨row, hrow, hvalue⟩ := List.mem_map.mp hnone
  exact filled_of_run twoPacked_atRest (Run.ofExecute (rfl : execute
    (step (engine parcelSha256 (.first _)) (handle parcelSha256)) (fun _ _ => True) _
    otherOrderNext = some (endOf (fun _ _ => True) otherOrderNext))) row hrow hvalue

/-- The second order is answered 200 with the ship of the first one, and stays packed. -/
theorem key_replays_other_order :
    Run (step (engine parcelSha256 (.first _)) (handle parcelSha256)) (fun _ _ => True)
        ⟨twoPacked, fun _ => none, []⟩ otherOrderNext
        (endOf (fun _ _ => True) otherOrderNext) ∧
      (endOf (fun _ _ => True) otherOrderNext).replies =
        [⟨shipOf "SO-1", .ok (some (.shipped "1Z999" 1 1)) false⟩,
          ⟨shipOf "SO-2", .ok (some (.shipped "1Z999" 1 1)) true⟩] ∧
      (committedEffects (endOf (fun _ _ => True) otherOrderNext).db).count
        (shipOf "SO-2").effect = 0 ∧
      ¬ OneEffect (endOf (fun _ _ => True) otherOrderNext).db
        (endOf (fun _ _ => True) otherOrderNext).replies := by
  have hreplies : (endOf (fun _ _ => True) otherOrderNext).replies =
      [⟨shipOf "SO-1", .ok (some (.shipped "1Z999" 1 1)) false⟩,
        ⟨shipOf "SO-2", .ok (some (.shipped "1Z999" 1 1)) true⟩] := rfl
  have hcount : (committedEffects (endOf (fun _ _ => True) otherOrderNext).db).count
      (shipOf "SO-2").effect = 0 := rfl
  refine ⟨Run.ofExecute rfl, hreplies, hcount, ?_⟩
  intro hone
  have hanswered := hone.answered ⟨shipOf "SO-2", .ok (some (.shipped "1Z999" 1 1)) true⟩
    (by rw [hreplies]; exact List.mem_cons_of_mem _ List.mem_cons_self) _ _ rfl
  rw [hcount] at hanswered
  cases hanswered

end SentryWms.Dockd
