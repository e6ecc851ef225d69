import SentryWms.Core.ReadCommitted
import SentryWms.Core.Session
import SentryWms.Counting.CycleCount
import SentryWms.Shipping.Ship

/-!
# Ship and void-ship of dockd, statement by statement

`ship_order` and `void_ship` of `dockd.py` as the SQL statements they execute. A request
claims its idempotency key by inserting a row without a response, does its work, and fills
the response in; the row and the work commit together. The lines that a ship stamps are
read by neither request.
-/

namespace SentryWms.Dockd

open Relational ReadCommitted Interleaving Counting

/-! ## Requests -/

/-- `Dimensions`. A number stands as `json.dumps` writes it. -/
structure Dimensions where
  l : String
  w : String
  h : String
deriving DecidableEq

/-- `ShipBody` but for the key. -/
structure ShipBody where
  tracking : String
  carrier : String
  shipMethod : Option String
  operatorUsername : String
  shippingCost : Option String
  weight : Option String
  dims : Option Dimensions
  manualLink : Bool
deriving DecidableEq

/-- `VoidShipBody` but for the key. -/
structure VoidShipBody where
  reason : String
  operatorUsername : String
deriving DecidableEq

/-- What the hash of a body covers. -/
inductive Payload where
  | ship (body : ShipBody)
  | voidShip (body : VoidShipBody)
deriving DecidableEq

@[ext]
structure DockdBody where
  idempotencyKey : String
  payload : Payload
deriving DecidableEq

/-- `_SHIP_ENDPOINT` and `_VOID_ENDPOINT`. -/
inductive Endpoint where
  | ship
  | voidShip
deriving DecidableEq

/-- A request: the token it comes with, the order in its path, and its body. -/
structure DockdRequest where
  tokenId : ℕ
  tokenWarehouseIds : List ℕ
  soNumber : String
  body : DockdBody

/-- The route that a body belongs to. -/
def DockdBody.endpoint (body : DockdBody) : Endpoint :=
  match body.payload with
  | .ship _ => .ship
  | .voidShip _ => .voidShip

def DockdRequest.operatorUsername (request : DockdRequest) : String :=
  match request.body.payload with
  | .ship body => body.operatorUsername
  | .voidShip body => body.operatorUsername

/-- A character of `_SO_NUMBER_RE`. -/
def soNumberChar (char : Char) : Bool :=
  (char.isAlphanum && char.toNat < 128) || char == '_' || char == '-' || char == '#' ||
    char == '.'

/-- `_SO_NUMBER_RE` matches: the dollar sign also matches before a final line break. -/
def matchesSoNumber (chars : List Char) : Bool :=
  let text := if chars.getLast? == some '\n' then chars.dropLast else chars
  !text.isEmpty && text.all soNumberChar

/-- `_validate_so_number`, as the message of its refusal. -/
def validateSoNumber (soNumber : String) : Option String :=
  if soNumber.toList.isEmpty ∨ 128 < soNumber.toList.length then
    some "so_number length out of range"
  else if ¬ matchesSoNumber soNumber.toList then
    some "so_number contains disallowed characters"
  else none

/-! ## The tables -/

/-- The columns of `sales_orders` that never change. -/
structure OrderColumns where
  soNumber : String
  warehouseId : ℕ

/-- The columns of `item_fulfillments` but for the status. -/
structure FulfillmentColumns where
  soId : ℕ
  preShipStatus : Option SoStatus

/-- A row of the audit log: whose request shipped or voided which order. The token is
recorded beside what the details hold. -/
@[ext]
structure DockdEffect where
  tokenId : ℕ
  body : DockdBody
  soNumber : String
deriving DecidableEq

/-- The columns of `dockd_idempotency` but for the response. -/
structure IdempotencyColumns where
  tokenId : ℕ
  idempotencyKey : String
  endpoint : Endpoint
  soNumber : String
  requestBodySha256 : String

/-- `response_body`. -/
inductive DockdResponse where
  | shipped (tracking : String) (fulfillmentId auditLogId : ℕ)
  | voided (revertedToStatus : SoStatus) (auditLogId : ℕ)

/-- A row of `dockd_idempotency` as a statement returns it. -/
abbrev CachedRow := IdempotencyColumns × Option DockdResponse

/-- The tables that the requests read and write. What they only read of settings, lines
and tasks is in the store. -/
structure Database where
  store : Store
  operators : List (String × String)
  orders : Table (Row OrderColumns SoStatus)
  fulfillments : Table (Row FulfillmentColumns FulfillmentStatus)
  auditLog : Table (Row DockdEffect Unit)
  idempotency : Table (Row IdempotencyColumns (Option DockdResponse))

/-- The primary key of `dockd_idempotency`. -/
def IdempotencyColumns.primaryKey (row : IdempotencyColumns) : ℕ × String :=
  (row.tokenId, row.idempotencyKey)

/-- The row condition `token_id = :token_id AND idempotency_key = :key`. -/
def DockdRequest.claims (request : DockdRequest) (row : IdempotencyColumns) : Bool :=
  row.primaryKey == (request.tokenId, request.body.idempotencyKey)

section Hash

variable (sha256 : Payload → String)

/-- `canonical_body_sha256`: the key is left out. -/
def canonicalBodySha256 (body : DockdBody) : String :=
  sha256 body.payload

/-- The row that a request inserts. -/
def DockdRequest.columns (request : DockdRequest) : IdempotencyColumns where
  tokenId := request.tokenId
  idempotencyKey := request.body.idempotencyKey
  endpoint := request.body.endpoint
  soNumber := request.soNumber
  requestBodySha256 := canonicalBodySha256 sha256 request.body

/-- The row was written for another endpoint or body. -/
def DockdRequest.reuses (request : DockdRequest) (row : IdempotencyColumns) : Bool :=
  row.endpoint != request.body.endpoint ||
    row.requestBodySha256 != canonicalBodySha256 sha256 request.body

end Hash

/-! ## Statements -/

inductive Statement where
  | cachedRow (request : DockdRequest)
  | operatorExternalId (username : String)
  | claimKey (request : DockdRequest)
  | lockOrder (soNumber : String) (tokenWarehouseIds : List ℕ)
  | allowedStatuses
  | silentShortfall (soId : ℕ)
  | lastShipped (soId : ℕ)
  | insertFulfillment (soId : ℕ) (preShipStatus : SoStatus)
  | setStatus (soId : ℕ) (status : SoStatus)
  | voidFulfillment (fulfillmentId : ℕ)
  | writeAuditLog (request : DockdRequest) (soNumber : String)
  | cacheResponse (request : DockdRequest) (response : DockdResponse)

def Answer : Statement → Type
  | .cachedRow _ => Option CachedRow
  | .operatorExternalId _ => Option String
  | .claimKey _ => Bool
  | .lockOrder _ _ => Option (ℕ × OrderColumns × SoStatus)
  | .allowedStatuses => List SoStatus
  | .silentShortfall _ => List SilentlyShort
  | .lastShipped _ => Option (ℕ × FulfillmentColumns × FulfillmentStatus)
  | .insertFulfillment _ _ => ℕ
  | .writeAuditLog _ _ => ℕ
  | _ => Unit

/-- Why a request is refused. -/
inductive DockdRefusal where
  | invalidSoNumber (message : String)
  | keyReused
  | unknownOperator
  | lockTimeout
  | order (error : ShipError)

/-- How a request ends: refused, or with a 200, which may be a replay. A cached response
that was never filled in is replayed as a 200 without a body. -/
inductive Outcome where
  | refused (refusal : DockdRefusal)
  | ok (response : Option DockdResponse) (replay : Bool)

/-- A request and how it ended. -/
structure DockdReply where
  request : DockdRequest
  outcome : Outcome

abbrev DockdProgram := Program Statement Answer DockdReply

/-! ## The requests -/

/-- Roll back and refuse. -/
def refuse (request : DockdRequest) (refusal : DockdRefusal) : DockdProgram :=
  .reply false ⟨request, .refused refusal⟩

/-- The end of a request: the response is cached, and all of it commits. -/
def finish (request : DockdRequest) (response : DockdResponse) : DockdProgram :=
  .exec (.cacheResponse request response) fun _ =>
    .reply true ⟨request, .ok (some response) false⟩

/-- `record_ship`, and the end of `ship_order`. -/
def recordShip (request : DockdRequest) (tracking : String) (soId : ℕ) (order : OrderColumns)
    (status : SoStatus) : DockdProgram :=
  .exec (.silentShortfall soId) fun lines =>
    match lines with
    | first :: rest => refuse request (.order (.underPicked (first :: rest)))
    | [] =>
        .exec (.insertFulfillment soId status) fun fulfillmentId =>
          .exec (.setStatus soId .shipped) fun _ =>
            .exec (.writeAuditLog request order.soNumber) fun auditLogId =>
              finish request (.shipped tracking fulfillmentId auditLogId)

/-- `record_void_ship`, and the end of `void_ship`. An order has to have a status. -/
def recordVoidShip (request : DockdRequest) (soId : ℕ) (order : OrderColumns)
    (fulfillmentId : ℕ) (preShipStatus : Option SoStatus) : DockdProgram :=
  match preShipStatus with
  | none => refuse request (.order .statusNull)
  | some status =>
      .exec (.setStatus soId status) fun _ =>
        .exec (.voidFulfillment fulfillmentId) fun _ =>
          .exec (.writeAuditLog request order.soNumber) fun auditLogId =>
            finish request (.voided status auditLogId)

/-- `ship_order`, once the order is locked. -/
def shipLocked (request : DockdRequest) (tracking : String) (soId : ℕ) (order : OrderColumns)
    (status : SoStatus) : DockdProgram :=
  if status = .shipped then
    .exec (.lastShipped soId) fun _ => refuse request (.order .alreadyShipped)
  else
    .exec .allowedStatuses fun allowed =>
      if ¬ List.contains allowed status then
        refuse request (.order (.notInShippableStatus status allowed))
      else recordShip request tracking soId order status

/-- `void_ship`, once the order is locked. -/
def voidLocked (request : DockdRequest) (soId : ℕ) (order : OrderColumns)
    (status : SoStatus) : DockdProgram :=
  if status ≠ .shipped then refuse request (.order (.notShipped status))
  else
    .exec (.lastShipped soId) fun fulfillment =>
      match fulfillment with
      | none => refuse request (.order (.noShippedFulfillment status))
      | some (fulfillmentId, columns, _) =>
          recordVoidShip request soId order fulfillmentId columns.preShipStatus

def work (request : DockdRequest) : DockdProgram :=
  if request.tokenWarehouseIds.isEmpty then refuse request (.order .orderNotFound)
  else
    .exec (.lockOrder request.soNumber request.tokenWarehouseIds) fun found =>
      match found with
      | none => refuse request (.order .orderNotFound)
      | some (soId, order, status) =>
          match request.body.payload with
          | .ship body => shipLocked request body.tracking soId order status
          | .voidShip _ => voidLocked request soId order status

/-- What the row of a peer that has the key says. The transaction has nothing to roll
back. -/
def replayPeer (sha256 : Payload → String) (request : DockdRequest)
    (peer : Option CachedRow) : DockdProgram :=
  .reply true ⟨request,
    match peer with
    | none => .refused .lockTimeout
    | some (row, response) =>
        if request.reuses sha256 row then .refused .keyReused else .ok response true⟩

/-- A request that finds no response in the cache. -/
def claimAndWork (sha256 : Payload → String) (request : DockdRequest) : DockdProgram :=
  .exec (.operatorExternalId request.operatorUsername) fun operator =>
    match operator with
    | none => refuse request .unknownOperator
    | some _ =>
        .exec (.claimKey request) fun (claimed : Bool) =>
          if claimed then work request
          else .exec (.cachedRow request) fun peer => replayPeer sha256 request peer

/-- `ship_order` and `void_ship`. -/
def handle (sha256 : Payload → String) (request : DockdRequest) : DockdProgram :=
  match validateSoNumber request.soNumber with
  | some message => refuse request (.invalidSoNumber message)
  | none =>
      .exec (.cachedRow request) fun cached =>
        match cached with
        | none => claimAndWork sha256 request
        | some (row, response) =>
            if request.reuses sha256 row then refuse request .keyReused
            else
              match response with
              | none => claimAndWork sha256 request
              | some response => .reply false ⟨request, .ok (some response) true⟩

/-! ## Execution -/

/-- `SELECT` by the primary key of `dockd_idempotency`. -/
def cachedRow (db : Database) (txn : ℕ) (request : DockdRequest) : Option CachedRow :=
  ((rowsSeen db.idempotency txn).find? fun row => request.claims row.2.1).map Prod.snd

/-- `INSERT ... ON CONFLICT DO NOTHING`: it waits for a peer that has inserted the key and
not committed, and inserts nothing where the key is there. -/
def claimKey (sha256 : Payload → String) (db : Database) (txn : ℕ) (request : DockdRequest) :
    Option (Database × Bool) :=
  match db.idempotency.entries.find? fun entry => request.claims entry.2.ident with
  | none =>
      some ({ db with
        idempotency := insertRow db.idempotency txn (request.columns sha256) none }, true)
  | some (_, row) => (row.version.view txn).map fun _ => (db, false)

/-- `SELECT ... FOR UPDATE` on an order of the token's warehouses. -/
def lockOrder (db : Database) (txn : ℕ) (soNumber : String) (tokenWarehouseIds : List ℕ) :
    Option (Database × Option (ℕ × OrderColumns × SoStatus)) :=
  match db.orders.entries.find? fun entry =>
    entry.2.ident.soNumber == soNumber && tokenWarehouseIds.contains entry.2.ident.warehouseId
  with
  | none => some (db, none)
  | some (soId, row) =>
      (writeKey db.orders txn soId id).map fun orders =>
        ({ db with orders }, some (soId, row.ident, row.version.latest))

/-- The `SHIPPED` fulfillments of an order, as a transaction sees them. -/
def shippedOf (db : Database) (txn soId : ℕ) :
    List (ℕ × FulfillmentColumns × FulfillmentStatus) :=
  (rowsSeen db.fulfillments txn).filter fun row =>
    row.2.1.soId == soId && row.2.2 == .shipped

/-- Execute a statement, if the rows it locks are free. -/
def perform (sha256 : Payload → String)
    (fetchOne : FetchOne (FulfillmentColumns × FulfillmentStatus)) (db : Database) (txn : ℕ) :
    (statement : Statement) → Option (Database × Answer statement)
  | .cachedRow request => some (db, cachedRow db txn request)
  | .operatorExternalId username => some (db, db.operators.lookup username)
  | .claimKey request => claimKey sha256 db txn request
  | .lockOrder soNumber tokenWarehouseIds => lockOrder db txn soNumber tokenWarehouseIds
  | .allowedStatuses => some (db, SentryWms.allowedStatuses db.store)
  | .silentShortfall soId => some (db, detectSilentShortfall db.store soId)
  | .lastShipped soId => some (db, fetchOne.fetch (shippedOf db txn soId))
  | .insertFulfillment soId preShipStatus =>
      some ({ db with
        fulfillments := insertRow db.fulfillments txn ⟨soId, some preShipStatus⟩ .shipped },
        db.fulfillments.next)
  | .setStatus soId status =>
      (writeKey db.orders txn soId fun _ => status).map fun orders => ({ db with orders }, ())
  | .voidFulfillment fulfillmentId =>
      (writeKey db.fulfillments txn fulfillmentId fun _ => .voided).map
        fun fulfillments => ({ db with fulfillments }, ())
  | .writeAuditLog request soNumber =>
      some ({ db with
        auditLog := insertRow db.auditLog txn ⟨request.tokenId, request.body, soNumber⟩ () },
        db.auditLog.next)
  | .cacheResponse request response =>
      if allFree db.idempotency txn fun _ row => request.claims row then
        some ({ db with
          idempotency := writeWhere db.idempotency txn (fun _ row => request.claims row)
            fun _ => some response }, ())
      else none

/-- The database as the sessions use it. -/
def engine (sha256 : Payload → String)
    (fetchOne : FetchOne (FulfillmentColumns × FulfillmentStatus)) :
    Engine Database Statement Answer where
  perform := perform sha256 fetchOne
  commit := fun db txn =>
    { db with
      orders := commitRows db.orders txn
      fulfillments := commitRows db.fulfillments txn
      auditLog := commitRows db.auditLog txn
      idempotency := commitRows db.idempotency txn }
  rollback := fun db txn =>
    { db with
      orders := rollbackRows db.orders txn
      fulfillments := rollbackRows db.fulfillments txn
      auditLog := rollbackRows db.auditLog txn
      idempotency := rollbackRows db.idempotency txn }

/-- The requests in progress on a database, and the replies given. -/
abbrev DockdSystem := System Database Statement Answer DockdReply

end SentryWms.Dockd
