import SentryWms.Core.Table
import SentryWms.Core.Transition

/-!
# The worker pool of the dispatcher

The pool keeps one worker thread per active subscription in a map. The refresh thread
prunes the dead workers, spawns missing ones and drops those whose subscription is no
longer active; the fan-out thread signals or evicts the workers it finds in the map. A
dropped worker leaves the map at once but stays in its request until the consumer
answers, so a subscription that becomes active again gets a second worker beside it.
As long as no refresh spawns a worker while a dropped one is still delivering, at most
one worker delivers for a subscription.
-/

namespace SentryWms.Webhook.Pool

open Relational Transition

/-! ## Workers -/

/-- Where a worker thread is in `run`. -/
inductive Stage where
  | starting
  | outer
  | waiting
  | resumed
  | inner
  | delivering
  | exiting
  | dead
deriving DecidableEq

/-- A `SubscriptionWorker`. -/
structure Worker where
  subscriptionId : String
  stage : Stage := .starting
  evicted : Bool := false
  woken : Bool := false
deriving DecidableEq

/-- How `deliver_one` ends: with an outcome, with nothing to deliver, with an exception
that the loop swallows, or with one that ends the thread. -/
inductive Outcome where
  | delivered
  | nothing
  | raised
  | fatal

/-- What the fan-out does to a worker. -/
inductive Action where
  | evict
  | signal

inductive WakeEvent where
  | freshEvent
  | pollAll
  | subscriptionEvent (subscriptionId kind : String)

/-- The active subscriptions in the database, every worker there has been, the map of
the pool, the active set that a refresh has read, what the fan-out is about to do, and
the shutdown event. -/
structure WorkerPool where
  active : List String
  workers : Table Worker
  map : List (String × ℕ)
  queried : Option (List String)
  fanout : List (ℕ × Action)
  shutdown : Bool

def setWorker (pool : WorkerPool) (workerId : ℕ) (change : Worker → Worker) : WorkerPool :=
  { pool with workers := pool.workers.modify workerId change }

def requestEviction (worker : Worker) : Worker :=
  if worker.evicted then worker else { worker with evicted := true, woken := true }

def signal (worker : Worker) : Worker :=
  { worker with woken := true }

/-- The connection of the thread is opened, or fails. -/
def connect (worker : Worker) (ok : Bool) : Option Worker :=
  match worker.stage with
  | .starting => some { worker with stage := if ok then .outer else .dead }
  | _ => none

/-- The next step of `run` outside `deliver_one`. The wait ends by a signal or by its
timeout. -/
def proceed (shutdown : Bool) (worker : Worker) : Option Worker :=
  let stop := shutdown || worker.evicted
  match worker.stage with
  | .outer => some { worker with stage := if stop then .exiting else .waiting }
  | .waiting => some { worker with stage := .resumed }
  | .resumed =>
      if stop then some { worker with stage := .exiting }
      else some { worker with stage := .inner, woken := false }
  | .inner => some { worker with stage := if stop then .outer else .delivering }
  | .exiting => some { worker with stage := .dead }
  | .starting | .delivering | .dead => none

/-- The end of `deliver_one`. -/
def finish (worker : Worker) (outcome : Outcome) : Option Worker :=
  match worker.stage with
  | .delivering =>
      some { worker with
        stage :=
          match outcome with
          | .delivered => .inner
          | .nothing | .raised => .outer
          | .fatal => .exiting }
  | _ => none

/-- A step of one thread. -/
def act (pool : WorkerPool) (workerId : ℕ) (move : Worker → Option Worker) : Option WorkerPool := do
  let worker ← pool.workers.get? workerId
  let moved ← move worker
  some (setWorker pool workerId fun _ => moved)

/-! ## The refresh -/

def isAlive (pool : WorkerPool) (workerId : ℕ) : Bool :=
  (pool.workers.get? workerId).any fun worker => worker.stage != .dead

/-- The dead workers leave the map. -/
def prune (pool : WorkerPool) : WorkerPool :=
  { pool with map := pool.map.filter fun entry => isAlive pool entry.2 }

/-- A worker is started for an active subscription that has none in the map. -/
def spawn (pool : WorkerPool) (subscriptionId : String) : WorkerPool :=
  if subscriptionId ∈ pool.map.map Prod.fst then pool
  else
    { pool with
      workers := pool.workers.insert { subscriptionId, woken := true }
      map := (subscriptionId, pool.workers.next) :: pool.map }

/-- The entry's subscription is not in the active set. -/
def orphaned (active : List String) (entry : String × ℕ) : Bool :=
  !active.contains entry.1

def dropOrphans (pool : WorkerPool) (active : List String) : WorkerPool :=
  { pool with
    workers := pool.workers.mapRows fun workerId worker =>
      if pool.map.any fun entry => orphaned active entry && entry.2 == workerId then
        requestEviction worker
      else worker
    map := pool.map.filter fun entry => !orphaned active entry }

/-- `_refresh_active_subscriptions`, under the lock. -/
def refresh (pool : WorkerPool) : Option WorkerPool := do
  let active ← pool.queried
  some (dropOrphans (active.foldl spawn (prune { pool with queried := none })) active)

/-! ## The fan-out -/

def actions (pool : WorkerPool) : WakeEvent → List (ℕ × Action)
  | .subscriptionEvent subscriptionId kind =>
      (pool.map.filter fun entry => entry.1 == subscriptionId).map fun entry =>
        (entry.2, if kind = "paused" ∨ kind = "deleted" then .evict else .signal)
  | .freshEvent | .pollAll => pool.map.map fun entry => (entry.2, .signal)

/-- The fan-out looks its workers up under the lock. -/
def takeEvent (pool : WorkerPool) (event : WakeEvent) : Option WorkerPool :=
  if pool.fanout = [] ∧ pool.shutdown = false then
    some { pool with fanout := actions pool event }
  else none

/-- It then turns to one worker after another, without the lock. -/
def fanoutNext (pool : WorkerPool) : Option WorkerPool :=
  match pool.fanout with
  | [] => none
  | (workerId, action) :: rest =>
      some (setWorker { pool with fanout := rest } workerId
        (match action with
        | .evict => requestEviction
        | .signal => signal))

def shutDown (pool : WorkerPool) : WorkerPool :=
  { pool with
    shutdown := true
    workers := pool.workers.mapRows fun workerId worker =>
      if pool.map.any fun entry => entry.2 == workerId then signal worker else worker }

/-- A step of the dispatcher, of a worker or of the administration. -/
inductive Event where
  | activate (subscriptionId : String)
  | deactivate (subscriptionId : String)
  | query
  | refresh
  | takeEvent (event : WakeEvent)
  | fanoutNext
  | shutDown
  | connect (workerId : ℕ) (ok : Bool)
  | proceed (workerId : ℕ)
  | finish (workerId : ℕ) (outcome : Outcome)

def step (pool : WorkerPool) : Event → Option WorkerPool
  | .activate subscriptionId =>
      some { pool with active := subscriptionId :: pool.active }
  | .deactivate subscriptionId =>
      some { pool with active := pool.active.filter fun active => active != subscriptionId }
  | .query =>
      if pool.queried = none ∧ pool.shutdown = false then
        some { pool with queried := some pool.active }
      else none
  | .refresh => refresh pool
  | .takeEvent event => takeEvent pool event
  | .fanoutNext => fanoutNext pool
  | .shutDown => some (shutDown pool)
  | .connect workerId ok => act pool workerId fun worker => connect worker ok
  | .proceed workerId => act pool workerId (proceed pool.shutdown)
  | .finish workerId outcome => act pool workerId fun worker => finish worker outcome

/-! ## One worker per subscription -/

/-- At most one worker executes `deliver_one` for a subscription. -/
def OneDelivers (pool : WorkerPool) : Prop :=
  ∀ left ∈ pool.workers.entries, ∀ right ∈ pool.workers.entries,
    left.2.stage = .delivering → right.2.stage = .delivering →
    left.2.subscriptionId = right.2.subscriptionId → left.1 = right.1

def SpawnsAlone (pool : WorkerPool) : Event → Prop
  | .refresh =>
      ∀ entry ∈ pool.workers.entries, entry.2.stage = .delivering →
        entry.2.subscriptionId ∈ (prune pool).map.map Prod.fst ∨
          ∀ active ∈ pool.queried, entry.2.subscriptionId ∉ active
  | _ => True

instance (pool : WorkerPool) (event : Event) : Decidable (SpawnsAlone pool event) := by
  cases event <;> unfold SpawnsAlone <;> infer_instance

/-- The pool before `start`. -/
def emptyPool : WorkerPool where
  active := []
  workers := .empty
  map := []
  queried := none
  fanout := []
  shutdown := false

/-! ## The invariant -/

def Worker.mayDeliver (worker : Worker) : Bool :=
  worker.stage == .delivering ||
    (!worker.evicted && worker.stage != .exiting && worker.stage != .dead)

/-- One worker at most may deliver for a subscription, and while it has not been
evicted it is in the map. -/
structure Exclusive (pool : WorkerPool) : Prop where
  unique : ∀ {left right worker worker'}, (left, worker) ∈ pool.workers.entries →
    (right, worker') ∈ pool.workers.entries → worker.mayDeliver = true →
    worker'.mayDeliver = true → worker.subscriptionId = worker'.subscriptionId → left = right
  mapped : ∀ {workerId worker}, (workerId, worker) ∈ pool.workers.entries →
    worker.evicted = false → worker.mayDeliver = true →
    (worker.subscriptionId, workerId) ∈ pool.map

variable {pool next : WorkerPool}

theorem Exclusive.oneDelivers (hexclusive : Exclusive pool) : OneDelivers pool := by
  intro left hleft right hright hdelivers hdelivers' hsame
  have hmay : left.2.mayDeliver = true := by simp [Worker.mayDeliver, hdelivers]
  have hmay' : right.2.mayDeliver = true := by simp [Worker.mayDeliver, hdelivers']
  exact hexclusive.unique hleft hright hmay hmay' hsame

theorem emptyPool_exclusive : Exclusive emptyPool where
  unique hleft := by cases hleft
  mapped hmem := by cases hmem

theorem Exclusive.mapRows (hexclusive : Exclusive pool) {change : ℕ → Worker → Worker}
    {workers : Table Worker} (hworkers : workers = pool.workers.mapRows change)
    (hsame : ∀ workerId worker, (workerId, worker) ∈ pool.workers.entries →
      (change workerId worker).subscriptionId = worker.subscriptionId)
    (hmay : ∀ workerId worker, (workerId, worker) ∈ pool.workers.entries →
      (change workerId worker).mayDeliver = true → worker.mayDeliver = true)
    (hevicted : ∀ workerId worker, (workerId, worker) ∈ pool.workers.entries →
      (change workerId worker).evicted = false → worker.evicted = false)
    {map : List (String × ℕ)}
    (hmap : ∀ workerId worker, (workerId, worker) ∈ pool.workers.entries →
      (change workerId worker).evicted = false →
      (change workerId worker).mayDeliver = true →
      (worker.subscriptionId, workerId) ∈ pool.map →
      (worker.subscriptionId, workerId) ∈ map) :
    Exclusive { pool with workers, map } where
  unique := by
    intro left right worker worker' hleft hright hmayLeft hmayRight hsubscription
    subst hworkers
    obtain ⟨before, hbefore, rfl⟩ := (Table.mem_mapRows _).mp hleft
    obtain ⟨before', hbefore', rfl⟩ := (Table.mem_mapRows _).mp hright
    rw [hsame _ _ hbefore, hsame _ _ hbefore'] at hsubscription
    exact hexclusive.unique hbefore hbefore' (hmay _ _ hbefore hmayLeft)
      (hmay _ _ hbefore' hmayRight) hsubscription
  mapped := by
    intro workerId worker hmem hkept hmayDeliver
    subst hworkers
    obtain ⟨before, hbefore, rfl⟩ := (Table.mem_mapRows _).mp hmem
    rw [hsame _ _ hbefore]
    exact hmap _ _ hbefore hkept hmayDeliver
      (hexclusive.mapped hbefore (hevicted _ _ hbefore hkept) (hmay _ _ hbefore hmayDeliver))

/-! ## What the steps preserve -/

variable {worker : Worker}

theorem Exclusive.setWorker (hexclusive : Exclusive pool) {workerId : ℕ}
    {change : Worker → Worker} (hmem : (workerId, worker) ∈ pool.workers.entries)
    (hsame : (change worker).subscriptionId = worker.subscriptionId)
    (hmay : (change worker).mayDeliver = true → worker.mayDeliver = true)
    (hevicted : (change worker).evicted = false → worker.evicted = false) :
    Exclusive (setWorker pool workerId change) := by
  have hother : ∀ {key row}, (key, row) ∈ pool.workers.entries → key = workerId →
      row = worker := by
    rintro key row hrow rfl
    exact pool.workers.row_unique hrow hmem
  apply hexclusive.mapRows rfl
  · intro key row hrow
    split
    next hkey => rw [hother hrow hkey, hsame]
    next => rfl
  · intro key row hrow
    split
    next hkey =>
      rw [hother hrow hkey]
      exact hmay
    next => exact id
  · intro key row hrow
    split
    next hkey =>
      rw [hother hrow hkey]
      exact hevicted
    next => exact id
  · exact fun _ _ _ _ _ hmapped => hmapped

theorem requestEviction_spec (worker : Worker) :
    (requestEviction worker).subscriptionId = worker.subscriptionId ∧
      (requestEviction worker).stage = worker.stage ∧
      (requestEviction worker).evicted = true := by
  unfold requestEviction
  split
  next hevicted => exact ⟨rfl, rfl, hevicted⟩
  next => exact ⟨rfl, rfl, rfl⟩

theorem mayDeliver_requestEviction
    (hmay : (requestEviction worker).mayDeliver = true) : worker.mayDeliver = true := by
  obtain ⟨-, hstage, hevicted⟩ := requestEviction_spec worker
  rw [Worker.mayDeliver, hstage, hevicted] at hmay
  simp only [Bool.not_true, Bool.false_and, Bool.or_false] at hmay
  simp [Worker.mayDeliver, hmay]

theorem Exclusive.act (hexclusive : Exclusive pool) {workerId : ℕ}
    {move : Worker → Option Worker} (hact : act pool workerId move = some next)
    (hmove : ∀ worker moved, move worker = some moved →
      moved.subscriptionId = worker.subscriptionId ∧ moved.evicted = worker.evicted ∧
        (moved.mayDeliver = true → worker.mayDeliver = true)) : Exclusive next := by
  obtain ⟨worker, hget, hact⟩ := Option.bind_eq_some_iff.mp hact
  obtain ⟨moved, hmoved, hact⟩ := Option.bind_eq_some_iff.mp hact
  cases hact
  obtain ⟨hsame, hevicted, hmay⟩ := hmove worker moved hmoved
  exact hexclusive.setWorker ((Table.get?_eq_some _).mp hget) hsame hmay
    fun hkept => hevicted ▸ hkept

variable {moved : Worker}

theorem connect_keeps {ok : Bool} (hconnect : connect worker ok = some moved) :
    moved.subscriptionId = worker.subscriptionId ∧ moved.evicted = worker.evicted ∧
      (moved.mayDeliver = true → worker.mayDeliver = true) := by
  unfold connect at hconnect
  split at hconnect
  · rename_i hstarting
    cases hconnect
    refine ⟨rfl, rfl, ?_⟩
    cases ok <;> simp [Worker.mayDeliver, hstarting]
  · cases hconnect

theorem proceed_keeps {shutdown : Bool} (hproceed : proceed shutdown worker = some moved) :
    moved.subscriptionId = worker.subscriptionId ∧ moved.evicted = worker.evicted ∧
      (moved.mayDeliver = true → worker.mayDeliver = true) := by
  unfold proceed at hproceed
  dsimp only at hproceed
  cases hstage : worker.stage <;> rw [hstage] at hproceed <;> dsimp only at hproceed
  case outer =>
    cases hproceed
    refine ⟨rfl, rfl, ?_⟩
    cases shutdown <;> cases hevicted : worker.evicted <;>
      simp [Worker.mayDeliver, hstage, hevicted]
  case waiting =>
    cases hproceed
    exact ⟨rfl, rfl, by simp [Worker.mayDeliver, hstage]⟩
  case resumed =>
    split at hproceed <;> cases hproceed
    · exact ⟨rfl, rfl, by simp [Worker.mayDeliver]⟩
    · exact ⟨rfl, rfl, by simp [Worker.mayDeliver, hstage]⟩
  case inner =>
    cases hproceed
    refine ⟨rfl, rfl, ?_⟩
    cases shutdown <;> cases hevicted : worker.evicted <;>
      simp [Worker.mayDeliver, hstage, hevicted]
  case exiting =>
    cases hproceed
    exact ⟨rfl, rfl, by simp [Worker.mayDeliver]⟩
  all_goals cases hproceed

theorem finish_keeps {outcome : Outcome} (hfinish : finish worker outcome = some moved) :
    moved.subscriptionId = worker.subscriptionId ∧ moved.evicted = worker.evicted ∧
      (moved.mayDeliver = true → worker.mayDeliver = true) := by
  unfold finish at hfinish
  split at hfinish
  · rename_i hdelivering
    cases hfinish
    exact ⟨rfl, rfl, fun _ => by simp [Worker.mayDeliver, hdelivering]⟩
  · cases hfinish

theorem mayDeliver_ne_dead (hmay : worker.mayDeliver = true) :
    worker.stage ≠ .dead := by
  intro hdead
  simp [Worker.mayDeliver, hdead] at hmay

theorem Exclusive.prune (hexclusive : Exclusive pool) : Exclusive (prune pool) where
  unique hleft hright := hexclusive.unique hleft hright
  mapped := by
    intro workerId worker hmem hkept hmay
    refine List.mem_filter.mpr ⟨hexclusive.mapped hmem hkept hmay, ?_⟩
    simp [isAlive, (Table.get?_eq_some pool.workers).mpr hmem, mayDeliver_ne_dead hmay]

def Represented (pool : WorkerPool) (active : List String) : Prop :=
  ∀ workerId worker, (workerId, worker) ∈ pool.workers.entries →
    worker.stage = .delivering → worker.subscriptionId ∈ active →
    worker.subscriptionId ∈ pool.map.map Prod.fst

theorem spawn_exclusive (hexclusive : Exclusive pool) {active : List String}
    (hrepresented : Represented pool active) {subscriptionId : String}
    (hactive : subscriptionId ∈ active) :
    Exclusive (spawn pool subscriptionId) ∧ Represented (spawn pool subscriptionId) active := by
  unfold spawn
  split
  · exact ⟨hexclusive, hrepresented⟩
  · rename_i habsent
    -- Nobody else may deliver for a subscription that is not in the map.
    have halone : ∀ {workerId worker}, (workerId, worker) ∈ pool.workers.entries →
        worker.mayDeliver = true → worker.subscriptionId ≠ subscriptionId := by
      rintro workerId worker hmem hmay rfl
      cases hevicted : worker.evicted with
      | false =>
          exact habsent (List.mem_map_of_mem (hexclusive.mapped hmem hevicted hmay))
      | true =>
          have hdelivering : worker.stage = .delivering := by
            simpa [Worker.mayDeliver, hevicted] using hmay
          exact habsent (hrepresented workerId worker hmem hdelivering hactive)
    refine ⟨⟨?_, ?_⟩, ?_⟩
    · intro left right worker worker' hleft hright hmay hmay' hsame
      rcases (Table.mem_insert _).mp hleft with hold | hnew <;>
        rcases (Table.mem_insert _).mp hright with hold' | hnew'
      · exact hexclusive.unique hold hold' hmay hmay' hsame
      · cases hnew'
        exact absurd hsame (halone hold hmay)
      · cases hnew
        exact absurd hsame.symm (halone hold' hmay')
      · cases hnew
        cases hnew'
        rfl
    · intro workerId worker hmem hkept hmay
      rcases (Table.mem_insert _).mp hmem with hold | hnew
      · exact List.mem_cons_of_mem _ (hexclusive.mapped hold hkept hmay)
      · cases hnew
        exact List.mem_cons_self
    · intro workerId worker hmem hdelivering hmemActive
      rcases (Table.mem_insert _).mp hmem with hold | hnew
      · exact List.mem_cons_of_mem _ (hrepresented workerId worker hold hdelivering hmemActive)
      · cases hnew
        cases hdelivering

theorem foldl_spawn_exclusive (hexclusive : Exclusive pool) {active : List String}
    (hrepresented : Represented pool active) : Exclusive (active.foldl spawn pool) := by
  have hfold : Exclusive (active.foldl spawn pool) ∧
      Represented (active.foldl spawn pool) active :=
    List.foldlRecOn active spawn (motive := fun pool =>
      Exclusive pool ∧ Represented pool active) ⟨hexclusive, hrepresented⟩
      fun _ hpool _ hmem => spawn_exclusive hpool.1 hpool.2 hmem
  exact hfold.1

theorem Exclusive.dropOrphans (hexclusive : Exclusive pool) (active : List String) :
    Exclusive (dropOrphans pool active) := by
  apply hexclusive.mapRows rfl
  · intro workerId worker _
    split
    · exact (requestEviction_spec worker).1
    · rfl
  · intro workerId worker _ hmay
    split at hmay
    · exact mayDeliver_requestEviction hmay
    · exact hmay
  · intro workerId worker _ hkept
    split at hkept
    · rw [(requestEviction_spec worker).2.2] at hkept
      cases hkept
    · exact hkept
  · intro workerId worker _ hkept _ hmapped
    refine List.mem_filter.mpr ⟨hmapped, ?_⟩
    by_contra horphaned
    have hany : (pool.map.any fun entry => orphaned active entry && entry.2 == workerId) =
        true := by
      rw [List.any_eq_true]
      exact ⟨_, hmapped, by simpa using horphaned⟩
    rw [if_pos hany, (requestEviction_spec worker).2.2] at hkept
    cases hkept

theorem Exclusive.refresh (hexclusive : Exclusive pool)
    (halone : SpawnsAlone pool .refresh) (hrefresh : refresh pool = some next) :
    Exclusive next := by
  obtain ⟨active, hqueried, hnext⟩ := Option.bind_eq_some_iff.mp hrefresh
  cases hnext
  have hpruned : Exclusive (Pool.prune { pool with queried := none }) :=
    Exclusive.prune ⟨hexclusive.unique, hexclusive.mapped⟩
  have hrepresented : Represented (Pool.prune { pool with queried := none }) active := by
    intro workerId worker hmem hdelivering hmemActive
    rcases halone (workerId, worker) hmem hdelivering with hmapped | habsent
    · exact hmapped
    · exact absurd hmemActive (habsent active hqueried)
  exact (foldl_spawn_exclusive hpruned hrepresented).dropOrphans active

theorem Exclusive.fanoutNext (hexclusive : Exclusive pool)
    (hfanout : fanoutNext pool = some next) : Exclusive next := by
  unfold Pool.fanoutNext at hfanout
  split at hfanout
  · cases hfanout
  · rename_i workerId action rest _
    cases hfanout
    have hrest : Exclusive { pool with fanout := rest } :=
      ⟨hexclusive.unique, hexclusive.mapped⟩
    apply hrest.mapRows rfl
    · intro key worker _
      split
      · cases action
        · exact (requestEviction_spec worker).1
        · rfl
      · rfl
    · intro key worker _ hmay
      split at hmay
      · cases action
        · exact mayDeliver_requestEviction hmay
        · exact hmay
      · exact hmay
    · intro key worker _ hkept
      split at hkept
      · cases action
        · dsimp only at hkept
          rw [(requestEviction_spec worker).2.2] at hkept
          cases hkept
        · exact hkept
      · exact hkept
    · exact fun _ _ _ _ _ hmapped => hmapped

theorem Exclusive.shutDown (hexclusive : Exclusive pool) : Exclusive (shutDown pool) := by
  have hsignalled := hexclusive.mapRows
    (rfl : pool.workers.mapRows (fun workerId worker =>
      if pool.map.any fun entry => entry.2 == workerId then signal worker else worker) = _)
    (fun _ _ _ => by split <;> rfl)
    (fun _ _ _ hmay => by split at hmay <;> exact hmay)
    (fun _ _ _ hkept => by split at hkept <;> exact hkept)
    (fun _ _ _ _ _ hmapped => hmapped)
  exact ⟨hsignalled.unique, hsignalled.mapped⟩

theorem step_exclusive (hexclusive : Exclusive pool) {event : Event}
    (halone : SpawnsAlone pool event) (hstep : step pool event = some next) :
    Exclusive next := by
  cases event with
  | activate subscriptionId =>
      cases hstep
      exact ⟨hexclusive.unique, hexclusive.mapped⟩
  | deactivate subscriptionId =>
      cases hstep
      exact ⟨hexclusive.unique, hexclusive.mapped⟩
  | query =>
      rw [step] at hstep
      split at hstep <;> cases hstep
      exact ⟨hexclusive.unique, hexclusive.mapped⟩
  | refresh => exact hexclusive.refresh halone hstep
  | takeEvent event =>
      rw [step, takeEvent] at hstep
      split at hstep <;> cases hstep
      exact ⟨hexclusive.unique, hexclusive.mapped⟩
  | fanoutNext => exact hexclusive.fanoutNext hstep
  | shutDown =>
      cases hstep
      exact hexclusive.shutDown
  | connect workerId ok => exact hexclusive.act hstep fun _ _ => connect_keeps
  | proceed workerId => exact hexclusive.act hstep fun _ _ => proceed_keeps
  | finish workerId outcome => exact hexclusive.act hstep fun _ _ => finish_keeps

/-- In every run in which no refresh starts a worker beside one that delivers outside
the map, at most one worker delivers for a subscription. -/
theorem oneDelivers_of_run {events : List Event}
    (hrun : Run step SpawnsAlone emptyPool events pool) : OneDelivers pool :=
  (hrun.invariant Exclusive
    (fun hexclusive halone hstep => step_exclusive hexclusive halone hstep)
    emptyPool_exclusive).oneDelivers

/-! ## A subscription paused and resumed during a request -/

/-- A refresh reads the active set and reconciles the map with it. -/
def reconcile : List Event := [.query, .refresh]

/-- A fresh worker comes as far as `deliver_one`. -/
def reachDelivery (workerId : ℕ) : List Event :=
  [.connect workerId true, .proceed workerId, .proceed workerId, .proceed workerId,
    .proceed workerId]

/-- The first worker is in its request while its subscription is paused, dropped by a
refresh, resumed and found missing by the next refresh. -/
def pausedInRequest : List Event :=
  [.activate "orders"] ++ reconcile ++ reachDelivery 1 ++ [.deactivate "orders"] ++
    reconcile ++ [.activate "orders"] ++ reconcile ++ reachDelivery 2

def pausedInRequestEnd : WorkerPool :=
  (execute step (fun _ _ => True) emptyPool pausedInRequest).getD emptyPool

theorem two_workers_deliver :
    ¬ ∀ events pool, Run step (fun _ _ => True) emptyPool events pool → OneDelivers pool := by
  intro hclaim
  have hrun : Run step (fun _ _ => True) emptyPool pausedInRequest pausedInRequestEnd :=
    Run.ofExecute rfl
  have hone := hclaim pausedInRequest pausedInRequestEnd hrun
  have hfirst : (1, ⟨"orders", .delivering, true, true⟩) ∈
      pausedInRequestEnd.workers.entries := by decide
  have hsecond : (2, ⟨"orders", .delivering, false, false⟩) ∈
      pausedInRequestEnd.workers.entries := by decide
  exact absurd (hone _ hfirst _ hsecond rfl rfl rfl) (by decide)

/-- The same, but the request ends before the subscription is resumed. -/
def pausedAfterRequest : List Event :=
  [.activate "orders"] ++ reconcile ++ reachDelivery 1 ++ [.deactivate "orders"] ++
    reconcile ++ [.finish 1 .fatal, .activate "orders"] ++ reconcile ++ reachDelivery 2 ++
    [.takeEvent (.subscriptionEvent "orders" "paused"), .fanoutNext]

def pausedAfterRequestEnd : WorkerPool :=
  (execute step SpawnsAlone emptyPool pausedAfterRequest).getD emptyPool

theorem oneDelivers_pausedAfterRequest : OneDelivers pausedAfterRequestEnd := by
  have hrun : Run step SpawnsAlone emptyPool pausedAfterRequest pausedAfterRequestEnd :=
    Run.ofExecute rfl
  exact oneDelivers_of_run hrun

end SentryWms.Webhook.Pool
