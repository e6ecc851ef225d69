import SentryWms.Core.Table
import SentryWms.Core.Transition
import SentryWms.Core.Value

/-!
# The token cache of a worker

A worker answers `X-WMS-Token` lookups from a dictionary guarded by a lock and
reads `wms_tokens` on a miss, without the lock. The read and the store into the
dictionary are separate steps, so a row read before a revocation can be stored
after the invalidation that was to evict it. As long as no such store happens, a
lookup that begins after the invalidation never returns the row of the token as it
was before the revocation.
-/

namespace SentryWms.Token

open Python Relational Transition

/-- A row of `wms_tokens`, without its key. -/
structure WmsToken where
  tokenName : String
  tokenHash : String
  warehouseIds : List ℕ
  eventTypes : List String
  endpoints : List String
  connectorId : Option String
  status : String
  sourceSystem : Option String
  inboundResources : List String
  mappingOverride : Bool
  mappingOverrides : Dict
  createdAt : ℕ
  rotatedAt : ℕ
  expiresAt : ℕ
  revokedAt : Option ℕ
  lastUsedAt : Option ℕ

/-- The dictionary `_fetch_by_hash` builds from a row. -/
structure TokenRow extends WmsToken where
  tokenId : ℕ

/-- `TTL_SECONDS`, in nanoseconds of the monotonic clock. -/
def ttl : ℕ := 60 * 1000000000

/-- How far a call of `get_by_hash` has come. -/
inductive Stage where
  | entered (now : ℕ)
  | missed
  | fetched (row : Option TokenRow)
  | returned (row : Option TokenRow)

/-- A call of `get_by_hash`, with the tokens whose invalidation had been processed
when it began. -/
structure Call where
  tokenHash : String
  stage : Stage
  invalidatedBefore : List ℕ

abbrev Cache : Type := String → Option (Option TokenRow × ℕ)

/-- The database and one worker, with the tokens whose revocation has committed and
those of them whose invalidation the worker has processed since. -/
structure Worker where
  wmsTokens : Table WmsToken
  cache : Cache
  calls : Table Call
  clock : ℕ
  revoked : List ℕ
  invalidated : List ℕ

/-! ## The calls -/

def fetchByHash (worker : Worker) (tokenHash : String) : Option TokenRow :=
  (worker.wmsTokens.select fun token => token.tokenHash == tokenHash).head?.map
    fun entry => { entry.2 with tokenId := entry.1 }

/-- The cached answer to a lookup, unless it is missing or stale. -/
def cachedRow (cache : Cache) (tokenHash : String) (now : ℕ) : Option (Option TokenRow) :=
  match cache tokenHash with
  | none => none
  | some (row, fetchedAt) => if now < fetchedAt + ttl then some row else none

/-- The rows that `_invalidate_token_id_local` keeps. -/
def evict (cache : Cache) (tokenId : ℕ) : Cache := fun tokenHash =>
  match cache tokenHash with
  | some (some row, fetchedAt) =>
      if row.tokenId = tokenId then none else some (some row, fetchedAt)
  | entry => entry

/-- The stage of a call after the step it takes next. -/
def setStage (worker : Worker) (callId : ℕ) (stage : Stage) : Worker :=
  { worker with
    calls := worker.calls.modify callId fun call => { call with stage } }

/-- `get_by_hash` takes the time before it takes the lock. -/
def beginCall (worker : Worker) (tokenHash : String) : Worker :=
  { worker with
    calls := worker.calls.insert
      { tokenHash, stage := .entered worker.clock,
        invalidatedBefore := worker.invalidated } }

/-- The first locked section: a fresh entry is the answer. -/
def lookup (worker : Worker) (callId : ℕ) : Option Worker := do
  let call ← worker.calls.get? callId
  match call.stage with
  | .entered now =>
      match cachedRow worker.cache call.tokenHash now with
      | some row => some (setStage worker callId (.returned row))
      | none => some (setStage worker callId .missed)
  | _ => none

/-- The read of the row, without the lock. -/
def fetch (worker : Worker) (callId : ℕ) : Option Worker := do
  let call ← worker.calls.get? callId
  match call.stage with
  | .missed =>
      some (setStage worker callId (.fetched (fetchByHash worker call.tokenHash)))
  | _ => none

/-- The second locked section: the row enters the cache and is returned. -/
def store (worker : Worker) (callId : ℕ) : Option Worker := do
  let call ← worker.calls.get? callId
  match call.stage with
  | .fetched row =>
      some (setStage
        { worker with
          cache := Function.update worker.cache call.tokenHash
            (some (row, worker.clock)) }
        callId (.returned row))
  | _ => none

/-! ## The table and the invalidation -/

/-- `token_hash` is unique. -/
def hashTaken (worker : Worker) (tokenHash : String) : Bool :=
  worker.wmsTokens.entries.any fun entry => entry.2.tokenHash == tokenHash

def createToken (worker : Worker) (token : WmsToken) : Option Worker :=
  if hashTaken worker token.tokenHash then none
  else
    some { worker with
      wmsTokens := worker.wmsTokens.insert
        { token with status := "active", revokedAt := none, lastUsedAt := none } }

/-- `rotate_token`: the hash is replaced, except on a revoked token. -/
def rotateToken (worker : Worker) (tokenId : ℕ) (newHash : String) (now : ℕ) :
    Option Worker := do
  let existing ← worker.wmsTokens.get? tokenId
  if existing.status = "revoked" || hashTaken worker newHash then none
  else
    some { worker with
      wmsTokens := worker.wmsTokens.modify tokenId fun token =>
        { token with tokenHash := newHash, rotatedAt := now, status := "active" } }

/-- `revoke_token`, and what the trigger on `revoked_at` makes of a direct write. -/
def revokeToken (worker : Worker) (tokenId now : ℕ) : Option Worker := do
  let _ ← worker.wmsTokens.get? tokenId
  some { worker with
    wmsTokens := worker.wmsTokens.modify tokenId fun token =>
      { token with status := "revoked", revokedAt := some now }
    revoked := tokenId :: worker.revoked }

def deleteToken (worker : Worker) (tokenId : ℕ) : Option Worker := do
  let _ ← worker.wmsTokens.get? tokenId
  some { worker with wmsTokens := worker.wmsTokens.delete tokenId }

def invalidateTokenIdLocal (worker : Worker) (tokenId : ℕ) : Worker :=
  { worker with
    cache := evict worker.cache tokenId
    invalidated :=
      if tokenId ∈ worker.revoked then tokenId :: worker.invalidated
      else worker.invalidated }

/-- A step of a call, of the subscriber, of the table or of the clock. -/
inductive Event where
  | tick (elapsed : ℕ)
  | createToken (token : WmsToken)
  | rotateToken (tokenId : ℕ) (newHash : String) (now : ℕ)
  | revokeToken (tokenId now : ℕ)
  | deleteToken (tokenId : ℕ)
  | invalidate (tokenId : ℕ)
  | beginCall (tokenHash : String)
  | lookup (callId : ℕ)
  | fetch (callId : ℕ)
  | store (callId : ℕ)

def step (worker : Worker) : Event → Option Worker
  | .tick elapsed => some { worker with clock := worker.clock + elapsed }
  | .createToken token => createToken worker token
  | .rotateToken tokenId newHash now => rotateToken worker tokenId newHash now
  | .revokeToken tokenId now => revokeToken worker tokenId now
  | .deleteToken tokenId => deleteToken worker tokenId
  | .invalidate tokenId => some (invalidateTokenIdLocal worker tokenId)
  | .beginCall tokenHash => some (beginCall worker tokenHash)
  | .lookup callId => lookup worker callId
  | .fetch callId => fetch worker callId
  | .store callId => store worker callId

/-! ## Tokens that are dead -/

def Outlives (tokens : List ℕ) (row : Option TokenRow) : Prop :=
  ∃ token ∈ row, token.revokedAt = none ∧ token.tokenId ∈ tokens

instance (tokens : List ℕ) (row : Option TokenRow) : Decidable (Outlives tokens row) :=
  match row with
  | none => isFalse fun ⟨_, hmem, _⟩ => by cases hmem
  | some token =>
      decidable_of_iff (token.revokedAt = none ∧ token.tokenId ∈ tokens)
        ⟨fun hrow => ⟨token, rfl, hrow⟩, fun ⟨_, hmem, hrow⟩ => by cases hmem; exact hrow⟩

/-- No call that began after a token's invalidation returned the row of the token
as it was before the revocation. -/
def RevokedStayDead (worker : Worker) : Prop :=
  ∀ callId call, (callId, call) ∈ worker.calls.entries →
    ∀ row, call.stage = .returned row → ¬ Outlives call.invalidatedBefore row

/-- The row that a call has read and is about to store. -/
def fetchedRow (worker : Worker) (callId : ℕ) : Option TokenRow := do
  let call ← worker.calls.get? callId
  match call.stage with
  | .fetched row => row
  | _ => none

def StoresAlive (worker : Worker) : Event → Prop
  | .store callId => ¬ Outlives worker.invalidated (fetchedRow worker callId)
  | _ => True

instance (worker : Worker) (event : Event) : Decidable (StoresAlive worker event) := by
  cases event <;> unfold StoresAlive <;> infer_instance

/-- A worker as it boots: nothing is cached and no call is under way. -/
structure Booted (worker : Worker) : Prop where
  cache : ∀ tokenHash, worker.cache tokenHash = none
  calls : worker.calls.entries = []
  revoked : ∀ tokenId ∈ worker.revoked, tokenId < worker.wmsTokens.next ∧
    ∀ token, (tokenId, token) ∈ worker.wmsTokens.entries → token.revokedAt ≠ none
  invalidated : worker.invalidated = []

/-! ## The invariant -/

/-- Neither the table, nor the cache, nor a call that began after the invalidation
holds the row of a dead token as it was before. -/
structure Buried (worker : Worker) : Prop where
  issued : ∀ tokenId ∈ worker.revoked, tokenId < worker.wmsTokens.next
  table : ∀ tokenId ∈ worker.revoked, ∀ token,
    (tokenId, token) ∈ worker.wmsTokens.entries → token.revokedAt ≠ none
  cache : ∀ tokenHash row fetchedAt, worker.cache tokenHash = some (row, fetchedAt) →
    ¬ Outlives worker.invalidated row
  processed : ∀ tokenId ∈ worker.invalidated, tokenId ∈ worker.revoked
  earlier : ∀ callId call, (callId, call) ∈ worker.calls.entries →
    ∀ tokenId ∈ call.invalidatedBefore, tokenId ∈ worker.invalidated
  held : ∀ callId call, (callId, call) ∈ worker.calls.entries →
    ∀ row, call.stage = .fetched row ∨ call.stage = .returned row →
      ¬ Outlives call.invalidatedBefore row

variable {worker next : Worker}

theorem Buried.revokedStayDead (hburied : Buried worker) : RevokedStayDead worker :=
  fun callId call hcall row hstage => hburied.held callId call hcall row (.inr hstage)

theorem Booted.buried (hbooted : Booted worker) : Buried worker where
  issued := fun tokenId hrevoked => (hbooted.revoked tokenId hrevoked).1
  table := fun tokenId hrevoked => (hbooted.revoked tokenId hrevoked).2
  cache := by
    intro tokenHash row fetchedAt hentry
    rw [hbooted.cache tokenHash] at hentry
    cases hentry
  processed := by
    intro tokenId hinvalidated
    rw [hbooted.invalidated] at hinvalidated
    cases hinvalidated
  earlier := by
    intro callId call hcall
    rw [hbooted.calls] at hcall
    cases hcall
  held := by
    intro callId call hcall
    rw [hbooted.calls] at hcall
    cases hcall

theorem Outlives.mono {tokens tokens' : List ℕ} {row : Option TokenRow}
    (hsubset : ∀ tokenId ∈ tokens, tokenId ∈ tokens') (hrow : Outlives tokens row) :
    Outlives tokens' row := by
  obtain ⟨token, hmem, halive, hdead⟩ := hrow
  exact ⟨token, hmem, halive, hsubset _ hdead⟩

theorem Buried.fetchByHash (hburied : Buried worker) (tokenHash : String) :
    ¬ Outlives worker.revoked (fetchByHash worker tokenHash) := by
  rintro ⟨token, hfetch, halive, hrevoked⟩
  obtain ⟨entry, hhead, rfl⟩ := Option.map_eq_some_iff.mp hfetch
  have hselected := List.mem_of_mem_head? hhead
  have hentry := ((worker.wmsTokens.mem_select).mp hselected).1
  exact hburied.table entry.1 hrevoked entry.2 hentry halive

variable {tokenId : ℕ}

theorem evict_eq_some {cache : Cache} {tokenHash : String} {row : Option TokenRow}
    {fetchedAt : ℕ} (hentry : evict cache tokenId tokenHash = some (row, fetchedAt)) :
    cache tokenHash = some (row, fetchedAt) ∧ ∀ token ∈ row, token.tokenId ≠ tokenId := by
  unfold evict at hentry
  split at hentry
  · rename_i token fetched hcached
    split at hentry
    · cases hentry
    · rename_i hother
      cases hentry
      refine ⟨hcached, ?_⟩
      intro token' hmem
      cases hmem
      exact hother
  · rename_i hnone
    refine ⟨hentry, ?_⟩
    intro token hmem
    rw [Option.mem_def] at hmem
    subst hmem
    exact absurd hentry (hnone token fetchedAt)

/-! ## What the steps preserve -/

variable {callId : ℕ}

theorem Buried.setStage (hburied : Buried worker) {call : Call}
    (hcall : (callId, call) ∈ worker.calls.entries) {stage : Stage}
    (hstage : ∀ row, stage = .fetched row ∨ stage = .returned row → ¬ Outlives call.invalidatedBefore row) :
    Buried (setStage worker callId stage) where
  issued := hburied.issued
  table := hburied.table
  cache := hburied.cache
  processed := hburied.processed
  earlier := by
    intro callId' call' hcall'
    obtain ⟨before, hbefore, rfl⟩ := worker.calls.mem_modify.mp hcall'
    have hearlier := hburied.earlier callId' before hbefore
    split <;> exact hearlier
  held := by
    intro callId' call' hcall'
    obtain ⟨before, hbefore, rfl⟩ := worker.calls.mem_modify.mp hcall'
    split
    · rename_i hsame
      subst hsame
      rw [worker.calls.row_unique hbefore hcall]
      exact hstage
    · exact hburied.held callId' before hbefore

theorem Buried.beginCall (hburied : Buried worker) (tokenHash : String) :
    Buried (beginCall worker tokenHash) where
  issued := hburied.issued
  table := hburied.table
  cache := hburied.cache
  processed := hburied.processed
  earlier := by
    intro callId call hcall
    rcases (worker.calls.mem_insert).mp hcall with hold | hnew
    · exact hburied.earlier callId call hold
    · cases hnew
      exact fun tokenId hmem => hmem
  held := by
    intro callId call hcall
    rcases (worker.calls.mem_insert).mp hcall with hold | hnew
    · exact hburied.held callId call hold
    · cases hnew
      intro row hstage
      rcases hstage with hstage | hstage <;> cases hstage

theorem Buried.lookup (hburied : Buried worker)
    (hlookup : lookup worker callId = some next) : Buried next := by
  obtain ⟨call, hcall, hnext⟩ := Option.bind_eq_some_iff.mp hlookup
  rw [Table.get?_eq_some] at hcall
  split at hnext
  · rename_i now hentered
    split at hnext
    · -- A hit: the row was in the cache.
      rename_i row hcached
      cases hnext
      refine hburied.setStage hcall fun row' hrow' => ?_
      rcases hrow' with hrow' | hrow'
      · cases hrow'
      · cases hrow'
        unfold cachedRow at hcached
        split at hcached
        · cases hcached
        · rename_i row' fetchedAt hentry
          split at hcached
          · cases hcached
            exact fun houtlives => hburied.cache _ _ _ hentry
              (houtlives.mono (hburied.earlier callId call hcall))
          · cases hcached
    · cases hnext
      refine hburied.setStage hcall fun row' hrow' => ?_
      rcases hrow' with hrow' | hrow' <;> cases hrow'
  · cases hnext

theorem Buried.fetch (hburied : Buried worker)
    (hfetch : fetch worker callId = some next) : Buried next := by
  obtain ⟨call, hcall, hnext⟩ := Option.bind_eq_some_iff.mp hfetch
  rw [Table.get?_eq_some] at hcall
  split at hnext
  · cases hnext
    refine hburied.setStage hcall fun row hrow => ?_
    rcases hrow with hrow | hrow
    · cases hrow
      exact fun houtlives => hburied.fetchByHash call.tokenHash
        (houtlives.mono fun tokenId hmem =>
          hburied.processed tokenId (hburied.earlier callId call hcall tokenId hmem))
    · cases hrow
  · cases hnext

theorem Buried.store (hburied : Buried worker) (halive : StoresAlive worker (.store callId))
    (hstore : store worker callId = some next) : Buried next := by
  obtain ⟨call, hget, hnext⟩ := Option.bind_eq_some_iff.mp hstore
  have hcall := worker.calls.get?_eq_some.mp hget
  split at hnext
  · rename_i row hfetched
    cases hnext
    have hrow : fetchedRow worker callId = row := by
      simp [fetchedRow, hget, hfetched]
    have hcached : Buried { worker with
        cache := Function.update worker.cache call.tokenHash
          (some (row, worker.clock)) } :=
      { hburied with
        cache := by
          intro tokenHash row' fetchedAt hentry
          dsimp only at hentry ⊢
          by_cases hhash : tokenHash = call.tokenHash
          · rw [hhash, Function.update_self] at hentry
            cases hentry
            rw [← hrow]
            exact halive
          · rw [Function.update_of_ne hhash] at hentry
            exact hburied.cache tokenHash row' fetchedAt hentry }
    refine hcached.setStage hcall fun row' hrow' => ?_
    rcases hrow' with hrow' | hrow' <;> cases hrow'
    exact hburied.held callId call hcall row (.inl hfetched)
  · cases hnext

theorem Buried.createToken (hburied : Buried worker) {token : WmsToken}
    (hcreate : createToken worker token = some next) : Buried next := by
  unfold Token.createToken at hcreate
  split at hcreate
  · cases hcreate
  · cases hcreate
    refine { hburied with issued := ?_, table := ?_ }
    · intro tokenId hrevoked
      exact (hburied.issued tokenId hrevoked).trans (Nat.lt_succ_self _)
    · intro tokenId hrevoked row hrow
      rcases (worker.wmsTokens.mem_insert).mp hrow with hold | hnew
      · exact hburied.table tokenId hrevoked row hold
      · cases hnew
        exact absurd (hburied.issued _ hrevoked) (lt_irrefl _)

theorem Buried.rotateToken (hburied : Buried worker) {newHash : String} {now : ℕ}
    (hrotate : rotateToken worker tokenId newHash now = some next) :
    Buried next := by
  obtain ⟨existing, -, hnext⟩ := Option.bind_eq_some_iff.mp hrotate
  split at hnext
  · cases hnext
  · cases hnext
    refine { hburied with table := ?_ }
    intro tokenId' hrevoked row hrow
    obtain ⟨before, hbefore, rfl⟩ := worker.wmsTokens.mem_modify.mp hrow
    have hdead := hburied.table tokenId' hrevoked before hbefore
    split <;> exact hdead

theorem Buried.revokeToken (hburied : Buried worker) {now : ℕ}
    (hrevoke : revokeToken worker tokenId now = some next) : Buried next := by
  obtain ⟨existing, hget, hnext⟩ := Option.bind_eq_some_iff.mp hrevoke
  rw [Table.get?_eq_some] at hget
  cases hnext
  refine { hburied with issued := ?_, table := ?_, processed := ?_ }
  · intro tokenId' hrevoked
    rcases List.mem_cons.mp hrevoked with rfl | hrevoked
    · exact worker.wmsTokens.lt_next_of_mem hget
    · exact hburied.issued tokenId' hrevoked
  · intro tokenId' hrevoked row hrow
    obtain ⟨before, hbefore, rfl⟩ := worker.wmsTokens.mem_modify.mp hrow
    split
    · exact Option.some_ne_none now
    · rename_i hother
      have hrevoked := (List.mem_cons.mp hrevoked).resolve_left hother
      exact hburied.table tokenId' hrevoked before hbefore
  · exact fun tokenId' hinvalidated =>
      List.mem_cons_of_mem _ (hburied.processed tokenId' hinvalidated)

theorem Buried.deleteToken (hburied : Buried worker)
    (hdelete : deleteToken worker tokenId = some next) : Buried next := by
  obtain ⟨existing, -, hnext⟩ := Option.bind_eq_some_iff.mp hdelete
  cases hnext
  refine { hburied with table := ?_ }
  intro tokenId' hrevoked row hrow
  exact hburied.table tokenId' hrevoked row (worker.wmsTokens.mem_delete.mp hrow).1

theorem Buried.invalidate (hburied : Buried worker) (tokenId : ℕ) :
    Buried (invalidateTokenIdLocal worker tokenId) where
  issued := hburied.issued
  table := hburied.table
  cache := by
    intro tokenHash row fetchedAt hentry
    obtain ⟨hcached, hother⟩ := evict_eq_some hentry
    rintro ⟨token, hmem, halive, hdead⟩
    refine hburied.cache tokenHash row fetchedAt hcached ⟨token, hmem, halive, ?_⟩
    unfold invalidateTokenIdLocal at hdead
    dsimp only at hdead
    split at hdead
    · exact (List.mem_cons.mp hdead).resolve_left (hother token hmem)
    · exact hdead
  processed := by
    intro tokenId' hinvalidated
    unfold invalidateTokenIdLocal at hinvalidated
    dsimp only at hinvalidated
    split at hinvalidated
    · rename_i hrevoked
      rcases List.mem_cons.mp hinvalidated with rfl | hinvalidated
      · exact hrevoked
      · exact hburied.processed tokenId' hinvalidated
    · exact hburied.processed tokenId' hinvalidated
  earlier := by
    intro callId call hcall tokenId' hmem
    have hinvalidated := hburied.earlier callId call hcall tokenId' hmem
    unfold invalidateTokenIdLocal
    dsimp only
    split
    · exact List.mem_cons_of_mem _ hinvalidated
    · exact hinvalidated
  held := hburied.held

theorem step_buried (hburied : Buried worker) {event : Event}
    (halive : StoresAlive worker event) (hstep : step worker event = some next) :
    Buried next := by
  cases event with
  | tick elapsed =>
      cases hstep
      exact { hburied with }
  | createToken token => exact hburied.createToken hstep
  | rotateToken tokenId newHash now => exact hburied.rotateToken hstep
  | revokeToken tokenId now => exact hburied.revokeToken hstep
  | deleteToken tokenId => exact hburied.deleteToken hstep
  | invalidate tokenId =>
      cases hstep
      exact hburied.invalidate tokenId
  | beginCall tokenHash =>
      cases hstep
      exact hburied.beginCall tokenHash
  | lookup callId => exact hburied.lookup hstep
  | fetch callId => exact hburied.fetch hstep
  | store callId => exact hburied.store halive hstep

/-- In every run in which no call stores a row that a revocation and its
invalidation have overtaken, a dead token stays dead. -/
theorem revoked_stay_dead (hbooted : Booted worker) {events : List Event}
    (hrun : Run step StoresAlive worker events next) : RevokedStayDead next :=
  (hrun.invariant Buried (fun hburied halive hstep => step_buried hburied halive hstep)
    hbooted.buried).revokedStayDead

/-! ## A lookup overtaken by a revocation -/

def issuedToken : WmsToken where
  tokenName := "storefront"
  tokenHash := "9f86d081"
  warehouseIds := [1]
  eventTypes := []
  endpoints := ["events.poll"]
  connectorId := none
  status := "active"
  sourceSystem := none
  inboundResources := []
  mappingOverride := false
  mappingOverrides := []
  createdAt := 0
  rotatedAt := 0
  expiresAt := 1000
  revokedAt := none
  lastUsedAt := none

def bootedWorker : Worker where
  wmsTokens := Table.ofRows [issuedToken]
  cache := fun _ => none
  calls := Table.empty
  clock := 0
  revoked := []
  invalidated := []

theorem bootedWorker_booted : Booted bootedWorker where
  cache := fun _ => rfl
  calls := rfl
  revoked := fun tokenId hmem => by cases hmem
  invalidated := rfl

/-- The first call reads the row before the revocation and stores it after the
invalidation; the second begins after both. -/
def overtakenLookup : List Event :=
  [.beginCall "9f86d081", .lookup 1, .fetch 1, .revokeToken 1 7, .invalidate 1,
    .store 1, .beginCall "9f86d081", .lookup 2]

theorem revoked_token_returned :
    ¬ ∀ worker events next, Booted worker →
      Run step (fun _ _ => True) worker events next → RevokedStayDead next := by
  intro hclaim
  have hrun : Run step (fun _ _ => True) bootedWorker overtakenLookup
      ((execute step (fun _ _ => True) bootedWorker overtakenLookup).getD bootedWorker) :=
    Run.ofExecute rfl
  refine hclaim _ _ _ bootedWorker_booted hrun 2
    ⟨"9f86d081", .returned (some { issuedToken with tokenId := 1 }), [1]⟩ ?_ _ rfl
    ⟨{ issuedToken with tokenId := 1 }, rfl, rfl, by decide⟩
  exact List.mem_cons_of_mem _ List.mem_cons_self

def promptLookup : List Event :=
  [.beginCall "9f86d081", .lookup 1, .fetch 1, .revokeToken 1 7, .store 1,
    .invalidate 1, .beginCall "9f86d081", .lookup 2, .fetch 2, .store 2]

theorem promptLookup_stays_dead :
    RevokedStayDead
      ((execute step StoresAlive bootedWorker promptLookup).getD bootedWorker) := by
  have hrun : Run step StoresAlive bootedWorker promptLookup
      ((execute step StoresAlive bootedWorker promptLookup).getD bootedWorker) :=
    Run.ofExecute rfl
  exact revoked_stay_dead bootedWorker_booted hrun

end SentryWms.Token
