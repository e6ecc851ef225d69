import SentryWms.Core.Forest
import SentryWms.Store.Schema

/-!
# The family of a sales order

`get_sales_order_related` of `routes/admin/admin_orders.py`: two recursive queries, one up
the parent pointers to the topmost order and one down from it to every descendant, each
with a cap on its depth. The orders of a forest that is no deeper than the cap all get the
same family, and no parent pointers make a query run forever.
-/

namespace SentryWms.Related

open Relational

def relatedMaxDepth : ℕ := 32

/-! ## The walk up -/

/-- A row of `ancestors`. -/
structure Ancestor where
  soId : ℕ
  parentSoId : Option ℕ
  hops : ℕ

/-- The recursive term of `ancestors`. -/
def ancestorsTerm (orders : Table SalesOrder) (working : List Ancestor) : List Ancestor :=
  working.flatMap fun ancestor =>
    if ancestor.hops < relatedMaxDepth then
      (orders.entries.filter fun order => some order.1 == ancestor.parentSoId).map
        fun order => ⟨order.1, order.2.parentSoId, ancestor.hops + 1⟩
    else []

/-- The first rows of `ancestors`. -/
def ancestorsOf (orders : Table SalesOrder) (soId : ℕ) : List Ancestor :=
  (orders.entries.filter fun order => order.1 == soId).map
    fun order => ⟨order.1, order.2.parentSoId, 0⟩

/-- `root`: the topmost ancestor that was reached. -/
def rootOf (ancestors : List Ancestor) : Option ℕ :=
  (ancestors.insertionSort fun left right => right.hops ≤ left.hops).head?.map Ancestor.soId

/-! ## The walk down -/

/-- A row of `family`. -/
structure Member where
  soId : ℕ
  depth : ℕ

/-- The recursive term of `family`. -/
def familyTerm (orders : Table SalesOrder) (working : List Member) : List Member :=
  working.flatMap fun member =>
    if member.depth < relatedMaxDepth then
      (orders.entries.filter fun order => order.2.parentSoId == some member.soId).map
        fun order => ⟨order.1, member.depth + 1⟩
    else []

def familyRows (orders : Table SalesOrder) (family : List Member) :
    List (ℕ × SalesOrder × ℕ) :=
  orderBy (fun row => toLex (row.2.2, toLex (row.2.1.createdAt, row.1)))
    (family.flatMap fun member =>
      (orders.entries.filter fun order => order.1 == member.soId).map
        fun order => (order.1, order.2, member.depth))

/-! ## The answer -/

structure RelatedLine where
  soLineId : ℕ
  lineNumber : ℤ
  sku : String
  quantityOrdered : ℤ
  quantityShipped : ℤ
  quantityReceived : ℤ

/-- A related order. -/
structure Record where
  soId : ℕ
  soNumber : String
  orderType : OrderType
  status : SoStatus
  warehouseId : ℕ
  parentSoId : Option ℕ
  depth : ℕ
  isCurrent : Bool
  isVoided : Bool
  voidedAt : Option ℕ
  cancellationReason : Option String
  createdAt : ℕ
  lines : List RelatedLine

def relatedLines (store : Store) (soId : ℕ) : List RelatedLine :=
  (orderBy (fun entry => entry.2.lineNumber)
    (store.salesOrderLines.select fun line => line.soId == soId)).filterMap fun entry =>
      (store.items.get? entry.2.itemId).map fun item =>
        { soLineId := entry.1
          lineNumber := entry.2.lineNumber
          sku := item.sku
          quantityOrdered := entry.2.quantityOrdered
          quantityShipped := entry.2.quantityShipped
          quantityReceived := entry.2.quantityReceived }

/-- A record of the answer, seen from one order of the family. -/
def recordOf (store : Store) (current : ℕ) (row : ℕ × SalesOrder × ℕ) : Record where
  soId := row.1
  soNumber := row.2.1.soNumber
  orderType := row.2.1.orderType
  status := row.2.1.status
  warehouseId := row.2.1.warehouseId
  parentSoId := row.2.1.parentSoId
  depth := row.2.2
  isCurrent := row.1 == current
  isVoided := row.2.1.voidedAt.isSome
  voidedAt := row.2.1.voidedAt
  cancellationReason := row.2.1.cancellationReason
  createdAt := row.2.1.createdAt
  lines := relatedLines store row.1

/-- The answer to a request. -/
inductive Response where
  | notFound
  | related (soId relatedCount : ℕ) (records : List Record)

/-- `get_sales_order_related`, given how many rounds a recursive query may take. -/
def getSalesOrderRelated (rounds : ℕ) (store : Store) (soId : ℕ) : Option Response :=
  let orders := store.salesOrders
  match orders.get? soId with
  | none => some .notFound
  | some _ => do
      let ancestors ← withRecursive (ancestorsTerm orders) rounds (ancestorsOf orders soId)
      let root := (rootOf ancestors).toList.map fun root => (⟨root, 0⟩ : Member)
      let family ← withRecursive (familyTerm orders) rounds root
      let records := (familyRows orders family).map (recordOf store soId)
      pure (.related soId (records.length - 1) records)

/-! ## The forest of the parent pointers -/

def parentOf (orders : Table SalesOrder) (soId : ℕ) : Option ℕ :=
  (orders.get? soId).bind SalesOrder.parentSoId

/-- An order stands that far under an order that hangs off no other. -/
def Rooted (orders : Table SalesOrder) (root distance soId : ℕ) : Prop :=
  Forest.Under (parentOf orders) root distance soId ∧ root ∈ orders.keys

/-- The parent pointers form a forest of at most that depth. -/
def Forested (orders : Table SalesOrder) (depth : ℕ) : Prop :=
  ∀ soId ∈ orders.keys, ∃ root distance, distance ≤ depth ∧ Rooted orders root distance soId

structure SeesFamily (orders : Table SalesOrder) (soId : ℕ) (records : List Record) :
    Prop where
  once : (records.map Record.soId).Nodup
  members : ∀ other depth,
    (other, depth) ∈ records.map (fun record => (record.soId, record.depth)) ↔
      ∃ root distance, Rooted orders root distance soId ∧ Rooted orders root depth other

/-- A record as another order of the family sees it. -/
def Record.seenFrom (record : Record) (current : ℕ) : Record :=
  { record with isCurrent := record.soId == current }

section Walks

variable {orders : Table SalesOrder} {soId root distance depth round rounds : ℕ}

theorem parentOf_eq_some {parent : ℕ} :
    parentOf orders soId = some parent ↔
      ∃ order, (soId, order) ∈ orders.entries ∧ order.parentSoId = some parent := by
  rw [parentOf, Option.bind_eq_some_iff]
  constructor
  · rintro ⟨order, horder, hparent⟩
    exact ⟨order, (Table.get?_eq_some _).mp horder, hparent⟩
  · rintro ⟨order, horder, hparent⟩
    exact ⟨order, (Table.get?_eq_some _).mpr horder, hparent⟩

theorem parentOf_of_mem {order : SalesOrder} (horder : (soId, order) ∈ orders.entries) :
    parentOf orders soId = order.parentSoId := by
  rw [parentOf, (Table.get?_eq_some _).mpr horder, Option.bind_some]

/-! ## What the walk up meets -/

theorem mem_ancestorsTerm {working : List Ancestor} {found : Ancestor} :
    found ∈ ancestorsTerm orders working ↔
      ∃ ancestor ∈ working, ancestor.hops < relatedMaxDepth ∧
        ∃ order, (found.soId, order) ∈ orders.entries ∧
          ancestor.parentSoId = some found.soId ∧
          found = ⟨found.soId, order.parentSoId, ancestor.hops + 1⟩ := by
  rw [ancestorsTerm, List.mem_flatMap]
  apply exists_congr
  intro ancestor
  apply and_congr_right
  intro _
  by_cases hhops : ancestor.hops < relatedMaxDepth
  · simp only [hhops, if_true, true_and, List.mem_map, List.mem_filter, beq_iff_eq,
      Prod.exists]
    constructor
    · rintro ⟨parent, order, ⟨horder, hparent⟩, rfl⟩
      exact ⟨order, horder, hparent.symm, rfl⟩
    · rintro ⟨order, horder, hparent, hfound⟩
      exact ⟨found.soId, order, ⟨horder, hparent.symm⟩, hfound.symm⟩
  · simp [hhops]

theorem mem_ancestors_round {found : Ancestor} :
    found ∈ (ancestorsTerm orders)^[round] (ancestorsOf orders soId) ↔
      found.hops = round ∧ round ≤ relatedMaxDepth ∧
        Forest.climb (parentOf orders) round soId = some found.soId ∧
        ∃ order, (found.soId, order) ∈ orders.entries ∧
          found.parentSoId = order.parentSoId := by
  induction round generalizing found with
  | zero =>
      simp only [Function.iterate_zero, id_eq, ancestorsOf, List.mem_map, List.mem_filter,
        beq_iff_eq, Prod.exists, Forest.climb_zero, Option.some.injEq]
      constructor
      · rintro ⟨key, order, ⟨horder, rfl⟩, rfl⟩
        exact ⟨rfl, Nat.zero_le _, rfl, order, horder, rfl⟩
      · rintro ⟨hhops, -, hkey, order, horder, hparent⟩
        refine ⟨found.soId, order, ⟨horder, hkey.symm⟩, ?_⟩
        cases found
        simp_all
  | succ round ih =>
      rw [Function.iterate_succ_apply', mem_ancestorsTerm]
      constructor
      · rintro ⟨ancestor, hancestor, hhops, order, horder, hparent, hfound⟩
        obtain ⟨hround, -, hclimb, above, habove, hpointer⟩ := ih.mp hancestor
        have hlevel : found.hops = ancestor.hops + 1 := congrArg Ancestor.hops hfound
        refine ⟨by omega, by omega, ?_, order, horder, congrArg Ancestor.parentSoId hfound⟩
        rw [Forest.climb_succ', hclimb, Option.bind_some, parentOf_of_mem habove, ← hpointer,
          hparent]
      · rintro ⟨hhops, hround, hclimb, order, horder, hparent⟩
        rw [Forest.climb_succ', Option.bind_eq_some_iff] at hclimb
        obtain ⟨below, hbelow, hpointer⟩ := hclimb
        obtain ⟨row, hrow, hup⟩ := parentOf_eq_some.mp hpointer
        refine ⟨⟨below, some found.soId, round⟩,
          ih.mpr ⟨rfl, by omega, hbelow, row, hrow, hup.symm⟩, by
            show round < relatedMaxDepth
            omega, order, horder, rfl, ?_⟩
        cases found
        simp_all

/-- The walk up ends, whatever the pointers are. -/
theorem ancestors_eq_some (orders : Table SalesOrder) (soId : ℕ)
    (hrounds : relatedMaxDepth + 1 ≤ rounds) :
    withRecursive (ancestorsTerm orders) rounds (ancestorsOf orders soId) =
      some ((List.range (relatedMaxDepth + 1)).flatMap fun round =>
        (ancestorsTerm orders)^[round] (ancestorsOf orders soId)) := by
  apply withRecursive_eq_some rfl _ hrounds
  apply List.eq_nil_iff_forall_not_mem.mpr
  intro found hfound
  obtain ⟨-, hround, -⟩ := mem_ancestors_round.mp hfound
  omega

/-- The topmost of the rows that the walk up meets is the root of the tree. -/
theorem rootOf_ancestors (hrooted : Rooted orders root distance soId)
    (hdistance : distance ≤ relatedMaxDepth) :
    rootOf ((List.range (relatedMaxDepth + 1)).flatMap fun round =>
      (ancestorsTerm orders)^[round] (ancestorsOf orders soId)) = some root := by
  obtain ⟨hunder, hroot⟩ := hrooted
  obtain ⟨order, horder⟩ := (Table.mem_keys _).mp hroot
  set ancestors := (List.range (relatedMaxDepth + 1)).flatMap fun round =>
    (ancestorsTerm orders)^[round] (ancestorsOf orders soId) with hancestors
  have htop : (⟨root, order.parentSoId, distance⟩ : Ancestor) ∈ ancestors := by
    apply List.mem_flatMap.mpr
    refine ⟨distance, List.mem_range.mpr (by omega), ?_⟩
    exact mem_ancestors_round.mpr ⟨rfl, hdistance, hunder.1, order, horder, rfl⟩
  have hsorted := List.pairwise_insertionSort
    (fun left right : Ancestor => right.hops ≤ left.hops) ancestors
  have hmem : ∀ ancestor,
      ancestor ∈ ancestors.insertionSort (fun left right => right.hops ≤ left.hops) ↔
        ancestor ∈ ancestors := fun ancestor =>
    (List.perm_insertionSort _ ancestors).mem_iff
  rw [rootOf]
  cases hlist : ancestors.insertionSort (fun left right => right.hops ≤ left.hops) with
  | nil =>
      rw [hlist] at hmem
      exact absurd ((hmem _).mpr htop) List.not_mem_nil
  | cons first rest =>
      rw [hlist] at hmem hsorted
      have hhighest : distance ≤ first.hops := by
        rcases List.mem_cons.mp ((hmem _).mpr htop) with hfirst | hrest
        · exact (congrArg Ancestor.hops hfirst).le
        · exact (List.pairwise_cons.mp hsorted).1 _ hrest
      obtain ⟨round, -, hfirst⟩ := List.mem_flatMap.mp ((hmem first).mp List.mem_cons_self)
      obtain ⟨hround, -, hclimb, -⟩ := mem_ancestors_round.mp hfirst
      have hexact : round = distance := by
        by_contra hne
        have habove := Forest.climb_above hunder (show distance < round by omega)
        simp [habove] at hclimb
      rw [hexact, hunder.1] at hclimb
      exact hclimb.symm

/-! ## What the walk down meets -/

variable {found : Member}

theorem mem_familyTerm {working : List Member} :
    found ∈ familyTerm orders working ↔
      ∃ member ∈ working, member.depth < relatedMaxDepth ∧
        parentOf orders found.soId = some member.soId ∧ found.depth = member.depth + 1 := by
  rw [familyTerm, List.mem_flatMap]
  apply exists_congr
  intro member
  apply and_congr_right
  intro _
  by_cases hdepth : member.depth < relatedMaxDepth
  · simp only [hdepth, if_true, true_and, List.mem_map, List.mem_filter, beq_iff_eq,
      Prod.exists, parentOf_eq_some]
    constructor
    · rintro ⟨child, order, ⟨horder, hparent⟩, rfl⟩
      exact ⟨⟨order, horder, hparent⟩, rfl⟩
    · rintro ⟨⟨order, horder, hparent⟩, hfound⟩
      exact ⟨found.soId, order, ⟨horder, hparent⟩, by cases found; simp_all⟩
  · simp [hdepth]

theorem mem_family_round :
    found ∈ (familyTerm orders)^[round] [⟨root, 0⟩] ↔
      found.depth = round ∧ round ≤ relatedMaxDepth ∧
        Forest.climb (parentOf orders) round found.soId = some root := by
  induction round generalizing found with
  | zero =>
      simp only [Function.iterate_zero, id_eq, List.mem_singleton, Forest.climb_zero,
        Option.some.injEq]
      constructor
      · rintro rfl
        exact ⟨rfl, Nat.zero_le _, rfl⟩
      · rintro ⟨hdepth, -, hroot⟩
        cases found
        simp_all
  | succ round ih =>
      rw [Function.iterate_succ_apply', mem_familyTerm]
      constructor
      · rintro ⟨member, hmember, hlimit, hparent, hdepth⟩
        obtain ⟨hround, -, hclimb⟩ := ih.mp hmember
        refine ⟨by omega, by omega, ?_⟩
        rw [Forest.climb_succ, hparent, Option.bind_some, hclimb]
      · rintro ⟨hdepth, hround, hclimb⟩
        rw [Forest.climb_succ, Option.bind_eq_some_iff] at hclimb
        obtain ⟨above, hparent, habove⟩ := hclimb
        exact ⟨⟨above, round⟩, ih.mpr ⟨rfl, by omega, habove⟩,
          (by omega : round < relatedMaxDepth), hparent, hdepth⟩

/-- The walk down ends, whatever the pointers are. -/
theorem family_eq_some (orders : Table SalesOrder) (root : ℕ)
    (hrounds : relatedMaxDepth + 1 ≤ rounds) :
    withRecursive (familyTerm orders) rounds [⟨root, 0⟩] =
      some ((List.range (relatedMaxDepth + 1)).flatMap fun round =>
        (familyTerm orders)^[round] [⟨root, 0⟩]) := by
  apply withRecursive_eq_some rfl _ hrounds
  apply List.eq_nil_iff_forall_not_mem.mpr
  intro found hfound
  obtain ⟨-, hround, -⟩ := mem_family_round.mp hfound
  omega

theorem nodup_family_round (orders : Table SalesOrder) (root round : ℕ) :
    ((familyTerm orders)^[round] [⟨root, 0⟩]).Nodup := by
  induction round with
  | zero => exact List.nodup_singleton _
  | succ round ih =>
      rw [Function.iterate_succ_apply', familyTerm, List.nodup_flatMap]
      constructor
      · intro member _
        split
        · apply List.Nodup.of_map Member.soId
          rw [List.map_map]
          exact orders.nodup_keys.sublist (List.filter_sublist.map _)
        · exact List.nodup_nil
      · apply ih.imp_of_mem
        intro left right hleft hright hne
        rw [Function.onFun, List.disjoint_left]
        intro found hfound hfound'
        have hmember : found ∈ familyTerm orders [left] := by
          simpa [familyTerm] using hfound
        have hmember' : found ∈ familyTerm orders [right] := by
          simpa [familyTerm] using hfound'
        obtain ⟨member, hmem, -, hparent, -⟩ := mem_familyTerm.mp hmember
        obtain ⟨member', hmem', -, hparent', -⟩ := mem_familyTerm.mp hmember'
        rw [List.mem_singleton] at hmem hmem'
        subst hmem hmem'
        apply hne
        have hsoId := Option.some.inj (hparent.symm.trans hparent')
        have hdepth := (mem_family_round.mp hleft).1.trans (mem_family_round.mp hright).1.symm
        cases member
        cases member'
        simp_all

/-- All the rows of the walk down from an order. -/
def familyFrom (orders : Table SalesOrder) (root : ℕ) : List Member :=
  (List.range (relatedMaxDepth + 1)).flatMap fun round =>
    (familyTerm orders)^[round] [⟨root, 0⟩]

theorem mem_familyFrom :
    found ∈ familyFrom orders root ↔
      found.depth ≤ relatedMaxDepth ∧
        Forest.climb (parentOf orders) found.depth found.soId = some root := by
  rw [familyFrom, List.mem_flatMap]
  constructor
  · rintro ⟨round, -, hfound⟩
    obtain ⟨rfl, hround, hclimb⟩ := mem_family_round.mp hfound
    exact ⟨hround, hclimb⟩
  · rintro ⟨hdepth, hclimb⟩
    exact ⟨found.depth, List.mem_range.mpr (by omega), mem_family_round.mpr
      ⟨rfl, hdepth, hclimb⟩⟩

theorem nodup_familyFrom (hroot : parentOf orders root = none) :
    ((familyFrom orders root).map Member.soId).Nodup := by
  have hnodup : (familyFrom orders root).Nodup := by
    rw [familyFrom, List.nodup_flatMap]
    refine ⟨fun round _ => nodup_family_round orders root round, ?_⟩
    apply List.nodup_range.imp
    intro left right hne
    rw [Function.onFun, List.disjoint_left]
    intro found hleft hright
    exact hne ((mem_family_round.mp hleft).1.symm.trans (mem_family_round.mp hright).1)
  apply hnodup.map_on
  intro left hleft right hright hsoId
  have hunder := (mem_familyFrom.mp hleft).2
  rw [hsoId] at hunder
  have hdepth := (Forest.Under.unique ⟨hunder, hroot⟩ ⟨(mem_familyFrom.mp hright).2, hroot⟩).2
  cases left
  cases right
  simp_all

/-! ## The rows of the answer -/

theorem mem_familyRows {family : List Member} {order : SalesOrder} :
    (soId, order, depth) ∈ familyRows orders family ↔
      ⟨soId, depth⟩ ∈ family ∧ (soId, order) ∈ orders.entries := by
  rw [familyRows, mem_orderBy, List.mem_flatMap]
  simp only [List.mem_map, List.mem_filter, beq_iff_eq, Prod.exists, Prod.mk.injEq]
  constructor
  · rintro ⟨member, hmember, key, row, ⟨hrow, rfl⟩, rfl, rfl, rfl⟩
    exact ⟨hmember, hrow⟩
  · rintro ⟨hmember, hrow⟩
    exact ⟨⟨soId, depth⟩, hmember, soId, order, ⟨hrow, rfl⟩, rfl, rfl, rfl⟩

theorem nodup_familyRows {family : List Member} (hnodup : (family.map Member.soId).Nodup) :
    ((familyRows orders family).map Prod.fst).Nodup := by
  rw [familyRows, ((orderBy_perm _ _).map Prod.fst).nodup_iff, List.map_flatMap,
    List.nodup_flatMap]
  constructor
  · intro member _
    rw [List.map_map]
    exact orders.nodup_keys.sublist (List.filter_sublist.map _)
  · apply (List.pairwise_map.mp hnodup).imp
    intro left right hne
    rw [Function.onFun, List.disjoint_left]
    intro key hleft hright
    simp only [List.map_map, List.mem_map, List.mem_filter, beq_iff_eq] at hleft hright
    obtain ⟨order, ⟨-, horder⟩, rfl⟩ := hleft
    obtain ⟨order', ⟨-, horder'⟩, hkey⟩ := hright
    exact hne (horder.symm.trans (hkey.symm.trans horder'))

end Walks

/-! ## Every member sees the same family -/

variable {store : Store} {soId root distance : ℕ}

theorem getSalesOrderRelated_of_rooted {rounds : ℕ} (hsoId : soId ∈ store.salesOrders.keys)
    (hrooted : Rooted store.salesOrders root distance soId)
    (hdistance : distance ≤ relatedMaxDepth) (hrounds : relatedMaxDepth + 1 ≤ rounds) :
    getSalesOrderRelated rounds store soId =
      some (.related soId ((familyRows store.salesOrders
          (familyFrom store.salesOrders root)).length - 1)
        ((familyRows store.salesOrders (familyFrom store.salesOrders root)).map
          (recordOf store soId))) := by
  obtain ⟨order, horder⟩ := (Table.mem_keys _).mp hsoId
  have hget := (Table.get?_eq_some _).mpr horder
  simp only [getSalesOrderRelated, hget, ancestors_eq_some _ _ hrounds,
    rootOf_ancestors hrooted hdistance, Option.bind_eq_bind, Option.bind_some,
    Option.toList_some, List.map_singleton, family_eq_some _ _ hrounds, List.length_map,
    Option.pure_def, familyFrom]

/-- A request is answered, whatever the pointers are. -/
theorem getSalesOrderRelated_ends (store : Store) (soId : ℕ) :
    ∃ response, ∀ rounds, relatedMaxDepth + 1 ≤ rounds →
      getSalesOrderRelated rounds store soId = some response := by
  cases hget : store.salesOrders.get? soId with
  | none => exact ⟨.notFound, fun rounds _ => by simp only [getSalesOrderRelated, hget]⟩
  | some order =>
      cases hroot : rootOf ((List.range (relatedMaxDepth + 1)).flatMap fun round =>
          (ancestorsTerm store.salesOrders)^[round]
            (ancestorsOf store.salesOrders soId)) with
      | none =>
          refine ⟨.related soId 0 [], fun rounds hrounds => ?_⟩
          simp only [getSalesOrderRelated, hget, ancestors_eq_some _ _ hrounds, hroot,
            Option.bind_eq_bind, Option.bind_some, Option.toList_none, List.map_nil,
            withRecursive_nil, Option.pure_def]
          rfl
      | some root =>
          let rows := familyRows store.salesOrders (familyFrom store.salesOrders root)
          refine ⟨.related soId ((rows.map (recordOf store soId)).length - 1)
            (rows.map (recordOf store soId)), fun rounds hrounds => ?_⟩
          simp only [getSalesOrderRelated, hget, ancestors_eq_some _ _ hrounds, hroot,
            Option.bind_eq_bind, Option.bind_some, Option.toList_some, List.map_singleton,
            family_eq_some _ _ hrounds, Option.pure_def, rows, familyFrom]

theorem seesFamily_records (hforest : Forested store.salesOrders relatedMaxDepth)
    (hrooted : Rooted store.salesOrders root distance soId) :
    SeesFamily store.salesOrders soId
      ((familyRows store.salesOrders (familyFrom store.salesOrders root)).map
        (recordOf store soId)) where
  once := by
    rw [List.map_map]
    exact nodup_familyRows (nodup_familyFrom hrooted.1.2)
  members := by
    intro other depth
    rw [List.map_map]
    constructor
    · intro hmem
      obtain ⟨⟨key, order, level⟩, hrow, hkey⟩ := List.mem_map.mp hmem
      obtain ⟨rfl, rfl⟩ := Prod.mk.inj hkey
      have hmember := (mem_familyRows.mp hrow).1
      exact ⟨root, distance, hrooted, ⟨(mem_familyFrom.mp hmember).2, hrooted.1.2⟩,
        hrooted.2⟩
    · rintro ⟨root', distance', hrooted', hother⟩
      obtain ⟨rfl, rfl⟩ := hrooted.1.unique hrooted'.1
      have hkey : other ∈ store.salesOrders.keys := by
        cases depth with
        | zero =>
            have heq : other = root := Option.some.inj hother.1.1
            exact heq ▸ hother.2
        | succ depth =>
            have hclimb := hother.1.1
            rw [Forest.climb_succ, Option.bind_eq_some_iff] at hclimb
            obtain ⟨parent, hparent, -⟩ := hclimb
            obtain ⟨order, horder, -⟩ := parentOf_eq_some.mp hparent
            exact (Table.mem_keys _).mpr ⟨order, horder⟩
      obtain ⟨order, horder⟩ := (Table.mem_keys _).mp hkey
      obtain ⟨root', level, hlevel, hother'⟩ := hforest other hkey
      obtain ⟨rfl, rfl⟩ := hother.1.unique hother'.1
      exact List.mem_map.mpr ⟨(other, order, depth),
        mem_familyRows.mpr ⟨mem_familyFrom.mpr ⟨hlevel, hother.1.1⟩, horder⟩, rfl⟩

theorem getSalesOrderRelated_of_member {rounds : ℕ} {record : Record}
    (hrooted : Rooted store.salesOrders root distance soId)
    (hrecord : record ∈ (familyRows store.salesOrders (familyFrom store.salesOrders root)).map (recordOf store soId))
    (hrounds : relatedMaxDepth + 1 ≤ rounds) :
    getSalesOrderRelated rounds store record.soId =
      some (.related record.soId ((familyRows store.salesOrders
          (familyFrom store.salesOrders root)).length - 1)
        ((familyRows store.salesOrders (familyFrom store.salesOrders root)).map
          (recordOf store record.soId))) := by
  obtain ⟨⟨key, order, depth⟩, hrow, rfl⟩ := List.mem_map.mp hrecord
  have hkey : key ∈ store.salesOrders.keys :=
    (Table.mem_keys _).mpr ⟨order, (mem_familyRows.mp hrow).2⟩
  have hunder : Rooted store.salesOrders root depth key :=
    ⟨⟨(mem_familyFrom.mp (mem_familyRows.mp hrow).1).2, hrooted.1.2⟩, hrooted.2⟩
  exact getSalesOrderRelated_of_rooted hkey hunder
    (mem_familyFrom.mp (mem_familyRows.mp hrow).1).1 hrounds

/-- Every order of a forest that is no deeper than the cap gets its whole family, each
member once and at its distance from the root, and every member gets the same records;
and every request is answered, whatever the parent pointers are. -/
theorem every_member_sees_family (store : Store) :
    (∀ soId, ∃ response, ∀ rounds, relatedMaxDepth + 1 ≤ rounds →
      getSalesOrderRelated rounds store soId = some response) ∧
    (Forested store.salesOrders relatedMaxDepth →
      ∀ soId ∈ store.salesOrders.keys, ∃ records,
        SeesFamily store.salesOrders soId records ∧
        ∀ rounds, relatedMaxDepth + 1 ≤ rounds →
          getSalesOrderRelated rounds store soId =
              some (.related soId (records.length - 1) records) ∧
            ∀ other ∈ records.map Record.soId,
              getSalesOrderRelated rounds store other =
                some (.related other (records.length - 1)
                  (records.map (·.seenFrom other)))) := by
  refine ⟨getSalesOrderRelated_ends store, ?_⟩
  intro hforest soId hsoId
  obtain ⟨root, distance, hdistance, hrooted⟩ := hforest soId hsoId
  refine ⟨_, seesFamily_records hforest hrooted, fun rounds hrounds => ⟨?_, ?_⟩⟩
  · rw [getSalesOrderRelated_of_rooted hsoId hrooted hdistance hrounds, List.length_map]
  · intro other hother
    obtain ⟨record, hrecord, rfl⟩ := List.mem_map.mp hother
    rw [getSalesOrderRelated_of_member hrooted hrecord hrounds, List.length_map,
      List.map_map]
    rfl

def saleWithBackorder : Store where
  salesOrders := .ofRows
    [{ soNumber := "SO-1", soBarcode := none, status := .shipped, warehouseId := 1,
       orderType := .sale, parentSoId := none, cancellationReason := none },
     { soNumber := "SO-1-BO", soBarcode := none, status := .shipped, warehouseId := 1,
       orderType := .backorder, parentSoId := some 1, cancellationReason := none },
     { soNumber := "SO-1-BO-RMA", soBarcode := none, status := .open, warehouseId := 1,
       orderType := .return, parentSoId := some 2, cancellationReason := none }]

theorem forested_saleWithBackorder :
    Forested saleWithBackorder.salesOrders relatedMaxDepth := by
  intro soId hsoId
  have hcases : soId = 1 ∨ soId = 2 ∨ soId = 3 := by
    simpa [Table.keys, saleWithBackorder, Table.ofRows, Table.insert, Table.empty]
      using hsoId
  rcases hcases with rfl | rfl | rfl
  · exact ⟨1, 0, by decide, ⟨by decide, by decide⟩, by decide⟩
  · exact ⟨1, 1, by decide, ⟨by decide, by decide⟩, by decide⟩
  · exact ⟨1, 2, by decide, ⟨by decide, by decide⟩, by decide⟩

theorem return_sees_sale :
    ∃ records, SeesFamily saleWithBackorder.salesOrders 3 records ∧
      getSalesOrderRelated 33 saleWithBackorder 3 =
        some (.related 3 (records.length - 1) records) := by
  obtain ⟨records, hfamily, hrounds⟩ :=
    (every_member_sees_family saleWithBackorder).2 forested_saleWithBackorder 3 (by decide)
  exact ⟨records, hfamily, (hrounds 33 (by decide)).1⟩

end SentryWms.Related
