import SentryWms.Catalog.BulkMatch
import SentryWms.Catalog.Effects
import SentryWms.Core.Grouping

/-!
# Every product of a batch is accounted for

A bulk match answers with one result for each product, and changes those products whose own
lookup gave one candidate, unless a single answer raises: then the whole batch is lost.
-/

namespace SentryWms.Catalog

open Python Relational

variable {library : Library} {storage : Storage} {route : Route} {meanwhile : Meanwhile}
  {db after : Database}

/-! ## What each product comes to -/

def Route.settled (route : Route) (row : ℕ × Discovery) : Option MatchResult :=
  let result (status : MatchStatus) (reason : String) : MatchResult :=
    { discoveryId := row.1, ean := some row.2.scannedEan, status, reason }
  match route.answer row.1 row.2 with
  | .raised => none
  | .failed => some (result .error "lookup_failed")
  | .candidates [] => some (result .notFound (route.noneReason row.1))
  | .candidates [_] => none
  | .candidates _ => some (result .ambiguous (route.manyReason row.1))

/-- The only candidate of a product. -/
def Route.found (route : Route) (row : ℕ × Discovery) : Option (ℕ × Discovery × Dict) :=
  match route.answer row.1 row.2 with
  | .candidates [found] => some (row.1, row.2, found)
  | _ => none

theorem sortAnswer_eq (state : List MatchResult × List (ℕ × Discovery × Dict))
    {row : ℕ × Discovery} (hanswer : route.answer row.1 row.2 ≠ .raised) :
    route.sortAnswer state row =
      some (state.1 ++ (route.settled row).toList, state.2 ++ (route.found row).toList) := by
  rw [Route.sortAnswer, Route.settled, Route.found]
  match hcase : route.answer row.1 row.2 with
  | .raised => exact absurd hcase hanswer
  | .failed => simp
  | .candidates [] => simp
  | .candidates [_] => simp
  | .candidates (_ :: _ :: _) => simp

theorem found_isSome {row : ℕ × Discovery} (hanswer : route.answer row.1 row.2 ≠ .raised) :
    (route.found row).isSome = !(route.settled row).isSome := by
  rw [Route.settled, Route.found]
  match hcase : route.answer row.1 row.2 with
  | .raised => exact absurd hcase hanswer
  | .failed => rfl
  | .candidates [] => rfl
  | .candidates [_] => rfl
  | .candidates (_ :: _ :: _) => rfl

theorem foldlM_sortAnswer {rows : List (ℕ × Discovery)}
    (hanswers : ∀ row ∈ rows, route.answer row.1 row.2 ≠ .raised)
    (results : List MatchResult) (resolved : List (ℕ × Discovery × Dict)) :
    rows.foldlM route.sortAnswer (results, resolved) =
      some (results ++ rows.filterMap route.settled,
        resolved ++ rows.filterMap route.found) := by
  induction rows generalizing results resolved with
  | nil => simp
  | cons row rows ih =>
      obtain ⟨hanswer, hanswers⟩ := List.forall_mem_cons.mp hanswers
      rw [List.foldlM_cons, sortAnswer_eq _ hanswer, Option.bind_eq_bind, Option.bind_some,
        ih hanswers, List.filterMap_cons, List.filterMap_cons]
      cases route.settled row <;> cases route.found row <;> simp

theorem foldlM_sortAnswer_of_raised {rows : List (ℕ × Discovery)} {row : ℕ × Discovery}
    (hrow : row ∈ rows) (hraised : route.answer row.1 row.2 = .raised)
    (state : List MatchResult × List (ℕ × Discovery × Dict)) :
    rows.foldlM route.sortAnswer state = none := by
  induction rows generalizing state with
  | nil => cases hrow
  | cons first rows ih =>
      rw [List.foldlM_cons, Option.bind_eq_bind, Option.bind_eq_none_iff]
      intro next hnext
      rcases List.mem_cons.mp hrow with rfl | hrow
      · rw [Route.sortAnswer, hraised] at hnext
        cases hnext
      · exact ih hrow next

/-! ## Writing the products -/

@[simp]
theorem write_discoveries (itemId : ℕ) (change : Change) :
    (db.write library itemId change).discoveries =
      Function.update db.discoveries itemId (some change.2) :=
  rfl

@[simp]
theorem write_items (itemId : ℕ) (change : Change) :
    (db.write library itemId change).store.items = db.store.items.modify itemId change.1 :=
  rfl

/-- What the request does with a product that it has locked. -/
def Route.changeOf (route : Route) (meanwhile : Meanwhile) (entry : ℕ × Discovery × Dict) :
    Option Change :=
  if meanwhile.isReviewed entry.1 then none else route.change entry.2.1 entry.2.2

def Route.writeEntry (library : Library) (route : Route) (meanwhile : Meanwhile)
    (db : Database) (entry : ℕ × Discovery × Dict) : Database :=
  match route.changeOf meanwhile entry with
  | none => db
  | some change => db.write library entry.1 change

/-- The result of a product with one candidate. -/
def Meanwhile.applied (library : Library) (meanwhile : Meanwhile)
    (entry : ℕ × Discovery × Dict) : MatchResult :=
  if meanwhile.isReviewed entry.1 then skippedResult (entry.1, entry.2.1) "already_reviewed"
  else
    { discoveryId := entry.1, ean := some entry.2.1.scannedEan, status := .matched
      code := some (textOr library (entry.2.2.get? "code")) }

/-- The product is still pending, or reviewed by somebody else, and its change is stored. -/
def Route.Stores (route : Route) (meanwhile : Meanwhile) (entry : ℕ × Discovery × Dict) : Prop :=
  meanwhile.isReviewed entry.1 = false → route.change entry.2.1 entry.2.2 ≠ none

/-- The entries are the discoveries as they stand, all pending. -/
def ReadFrom (db : Database) (resolved : List (ℕ × Discovery × Dict)) : Prop :=
  ∀ entry ∈ resolved, db.pendingDiscovery entry.1 = some entry.2.1

theorem apply_eq {entry : ℕ × Discovery × Dict} (results : List MatchResult)
    (hread : db.pendingDiscovery entry.1 = some entry.2.1) (hstores : route.Stores meanwhile entry) :
    route.apply library meanwhile (db, results) entry =
      some (route.writeEntry library meanwhile db entry,
        results ++ [meanwhile.applied library entry]) := by
  rw [Route.apply, Meanwhile.lock, Route.writeEntry, Route.changeOf, Meanwhile.applied]
  by_cases hreviewed : meanwhile.isReviewed entry.1 = true
  · simp [hreviewed]
  · obtain ⟨change, hchange⟩ :=
      Option.ne_none_iff_exists'.mp (hstores (by simpa using hreviewed))
    simp [hreviewed, hread, hchange]

theorem apply_of_not_stores {entry : ℕ × Discovery × Dict} (results : List MatchResult)
    (hread : db.pendingDiscovery entry.1 = some entry.2.1) (hstores : ¬ route.Stores meanwhile entry) :
    route.apply library meanwhile (db, results) entry = none := by
  rw [Route.Stores, Classical.not_imp, not_not] at hstores
  rw [Route.apply, Meanwhile.lock]
  simp [hstores.1, hread, hstores.2]

theorem pendingDiscovery_writeEntry {entry : ℕ × Discovery × Dict} {itemId : ℕ}
    (hother : itemId ≠ entry.1) :
    (route.writeEntry library meanwhile db entry).pendingDiscovery itemId =
      db.pendingDiscovery itemId := by
  rw [Route.writeEntry]
  split
  · rfl
  · rw [Database.pendingDiscovery, write_discoveries, Function.update_of_ne hother,
      Database.pendingDiscovery]

theorem ReadFrom.writeEntry {entry : ℕ × Discovery × Dict}
    {resolved : List (ℕ × Discovery × Dict)} (hread : ReadFrom db resolved)
    (hnew : entry.1 ∉ resolved.map Prod.fst) :
    ReadFrom (route.writeEntry library meanwhile db entry) resolved := by
  intro other hother
  rw [pendingDiscovery_writeEntry fun heq => hnew (heq ▸ List.mem_map_of_mem hother)]
  exact hread other hother

theorem foldlM_apply {resolved : List (ℕ × Discovery × Dict)} (hread : ReadFrom db resolved)
    (hnodup : (resolved.map Prod.fst).Nodup)
    (hstores : ∀ entry ∈ resolved, route.Stores meanwhile entry) (results : List MatchResult) :
    resolved.foldlM (route.apply library meanwhile) (db, results) =
      some (resolved.foldl (route.writeEntry library meanwhile) db,
        results ++ resolved.map (meanwhile.applied library)) := by
  induction resolved generalizing db results with
  | nil => simp
  | cons entry resolved ih =>
      obtain ⟨hfirst, hread⟩ := List.forall_mem_cons.mp hread
      obtain ⟨hstore, hstores⟩ := List.forall_mem_cons.mp hstores
      obtain ⟨hnew, hnodup⟩ := List.nodup_cons.mp hnodup
      rw [List.foldlM_cons, apply_eq results hfirst hstore, Option.bind_eq_bind,
        Option.bind_some, ih (ReadFrom.writeEntry hread hnew) hnodup hstores, List.foldl_cons,
        List.map_cons, List.append_assoc, List.singleton_append]

theorem foldlM_apply_of_not_stores {resolved : List (ℕ × Discovery × Dict)}
    {entry : ℕ × Discovery × Dict} (hentry : entry ∈ resolved) (hread : ReadFrom db resolved)
    (hnodup : (resolved.map Prod.fst).Nodup) (hstores : ¬ route.Stores meanwhile entry)
    (results : List MatchResult) :
    resolved.foldlM (route.apply library meanwhile) (db, results) = none := by
  induction resolved generalizing db results with
  | nil => cases hentry
  | cons first resolved ih =>
      obtain ⟨hfirst, hread⟩ := List.forall_mem_cons.mp hread
      obtain ⟨hnew, hnodup⟩ := List.nodup_cons.mp hnodup
      rw [List.foldlM_cons, Option.bind_eq_bind, Option.bind_eq_none_iff]
      intro next hnext
      by_cases hstore : route.Stores meanwhile first
      · rw [apply_eq results hfirst hstore, Option.some.injEq] at hnext
        subst hnext
        rcases List.mem_cons.mp hentry with rfl | hentry
        · exact absurd hstore hstores
        · exact ih hentry (ReadFrom.writeEntry hread hnew) hnodup _
      · rw [apply_of_not_stores results hfirst hstore] at hnext
        cases hnext

/-! ## What is left of each product -/

/-- The item and the discovery are as they were. -/
def Untouched (db after : Database) (itemId : ℕ) : Prop :=
  after.discoveries itemId = db.discoveries itemId ∧
    after.store.items.get? itemId = db.store.items.get? itemId

def ChangedTo (db after : Database) (itemId : ℕ) (change : Change) : Prop :=
  after.discoveries itemId = some change.2 ∧
    after.store.items.get? itemId = (db.store.items.get? itemId).map change.1

theorem untouched_writeEntry {entry : ℕ × Discovery × Dict} {itemId : ℕ}
    (hother : entry.1 = itemId → route.changeOf meanwhile entry = none) :
    Untouched db (route.writeEntry library meanwhile db entry) itemId := by
  rw [Route.writeEntry]
  split
  · exact ⟨rfl, rfl⟩
  · next change hchange =>
      have hne : itemId ≠ entry.1 := by
        rintro rfl
        rw [hother rfl] at hchange
        cases hchange
      exact ⟨by rw [write_discoveries, Function.update_of_ne hne],
        by rw [write_items, Table.get?_modify_of_ne _ hne]⟩

theorem untouched_foldl {resolved : List (ℕ × Discovery × Dict)} {itemId : ℕ}
    (hother : ∀ entry ∈ resolved, entry.1 = itemId → route.changeOf meanwhile entry = none) :
    Untouched db (resolved.foldl (route.writeEntry library meanwhile) db) itemId := by
  induction resolved generalizing db with
  | nil => exact ⟨rfl, rfl⟩
  | cons entry resolved ih =>
      obtain ⟨hfirst, hother⟩ := List.forall_mem_cons.mp hother
      have hwritten : Untouched db (route.writeEntry library meanwhile db entry) itemId :=
        untouched_writeEntry hfirst
      have hrest : Untouched (route.writeEntry library meanwhile db entry) _ itemId := ih hother
      exact ⟨hrest.1.trans hwritten.1, hrest.2.trans hwritten.2⟩

theorem changedTo_foldl {resolved : List (ℕ × Discovery × Dict)}
    {entry : ℕ × Discovery × Dict} {change : Change} (hentry : entry ∈ resolved)
    (hnodup : (resolved.map Prod.fst).Nodup)
    (hchange : route.changeOf meanwhile entry = some change) :
    ChangedTo db (resolved.foldl (route.writeEntry library meanwhile) db) entry.1 change := by
  induction resolved generalizing db with
  | nil => cases hentry
  | cons first resolved ih =>
      obtain ⟨hnew, hnodup⟩ := List.nodup_cons.mp hnodup
      rw [List.foldl_cons]
      rcases List.mem_cons.mp hentry with rfl | hentry
      · have hrest : Untouched (route.writeEntry library meanwhile db entry)
            (resolved.foldl (route.writeEntry library meanwhile)
              (route.writeEntry library meanwhile db entry)) entry.1 :=
          untouched_foldl fun other hother heq =>
            absurd (heq ▸ List.mem_map_of_mem hother) hnew
        have hwritten : route.writeEntry library meanwhile db entry =
            db.write library entry.1 change := by
          rw [Route.writeEntry, hchange]
        rw [hwritten] at hrest ⊢
        refine ⟨hrest.1.trans ?_, hrest.2.trans ?_⟩
        · rw [write_discoveries, Function.update_self]
        · simp [Table.modify]
      · have hne : first.1 ≠ entry.1 := fun heq => hnew (heq ▸ List.mem_map_of_mem hentry)
        have hfirst : Untouched db (route.writeEntry library meanwhile db first) entry.1 :=
          untouched_writeEntry fun heq => absurd heq hne
        have hrest := @ih (route.writeEntry library meanwhile db first) hentry hnodup
        exact ⟨hrest.1, hrest.2.trans (by rw [hfirst.2])⟩

theorem foldl_writeEntry_rest (resolved : List (ℕ × Discovery × Dict)) :
    let after := resolved.foldl (route.writeEntry library meanwhile) db
    after.pricing = db.pricing ∧ { after.store with items := db.store.items } = db.store := by
  induction resolved generalizing db with
  | nil => exact ⟨rfl, rfl⟩
  | cons entry resolved ih =>
      have hwritten : (route.writeEntry library meanwhile db entry).pricing = db.pricing ∧
          { (route.writeEntry library meanwhile db entry).store with
            items := db.store.items } = db.store := by
        rw [Route.writeEntry]
        split <;> exact ⟨rfl, rfl⟩
      obtain ⟨hpricing, hstore⟩ := @ih (route.writeEntry library meanwhile db entry)
      refine ⟨hpricing.trans hwritten.1, ?_⟩
      rw [List.foldl_cons]
      refine Eq.trans ?_ hwritten.2
      rw [← hstore]

/-! ## One result for each product -/

theorem filterMap_eq_map {α β : Type*} {pick : α → Option β} {value : α → β} {items : List α}
    (hvalue : ∀ item ∈ items, ∀ picked, pick item = some picked → picked = value item) :
    items.filterMap pick = (items.filter fun item => (pick item).isSome).map value := by
  induction items with
  | nil => rfl
  | cons item items ih =>
      obtain ⟨hfirst, hvalue⟩ := List.forall_mem_cons.mp hvalue
      rw [List.filterMap_cons, List.filter_cons, ih hvalue]
      cases hpick : pick item with
      | none => simp
      | some picked => simp [hfirst picked hpick]

def Route.rowResult (library : Library) (route : Route) (meanwhile : Meanwhile)
    (row : ℕ × Discovery) : MatchResult :=
  match route.skip row, route.settled row, route.found row with
  | some result, _, _ => result
  | none, some result, _ => result
  | none, none, some entry => meanwhile.applied library entry
  | none, none, none => missingResult row.1

/-- The result of a requested product. -/
def Route.resultOf (library : Library) (route : Route) (meanwhile : Meanwhile)
    (db : Database) (itemId : ℕ) : MatchResult :=
  match route.row db itemId with
  | none => missingResult itemId
  | some discovery => route.rowResult library meanwhile (itemId, discovery)

theorem discoveryId_skip {row : ℕ × Discovery} {result : MatchResult}
    (hskip : route.skip row = some result) : result.discoveryId = row.1 := by
  rw [Route.skip] at hskip
  split at hskip
  · cases hskip
    rfl
  · obtain ⟨reason, -, rfl⟩ := Option.map_eq_some_iff.mp hskip
    rfl

theorem discoveryId_settled {row : ℕ × Discovery} {result : MatchResult}
    (hsettled : route.settled row = some result) : result.discoveryId = row.1 := by
  rw [Route.settled] at hsettled
  split at hsettled <;> cases hsettled <;> rfl

theorem of_found {row : ℕ × Discovery} {entry : ℕ × Discovery × Dict}
    (hfound : route.found row = some entry) :
    entry.1 = row.1 ∧ entry.2.1 = row.2 ∧
      route.answer row.1 row.2 = .candidates [entry.2.2] := by
  rw [Route.found] at hfound
  split at hfound
  · next found hanswer =>
      cases hfound
      exact ⟨rfl, rfl, hanswer⟩
  · cases hfound

theorem discoveryId_applied (entry : ℕ × Discovery × Dict) :
    (meanwhile.applied library entry).discoveryId = entry.1 := by
  rw [Meanwhile.applied]
  split <;> rfl

theorem discoveryId_resultOf (itemId : ℕ) :
    (route.resultOf library meanwhile db itemId).discoveryId = itemId := by
  rw [Route.resultOf]
  split
  · rfl
  · rw [Route.rowResult]
    split
    · next hskip => exact discoveryId_skip hskip
    · next hsettled => exact discoveryId_settled hsettled
    · next hfound => rw [discoveryId_applied, (of_found hfound).1]
    · rfl

/-! ## The whole batch -/

def Route.rows (route : Route) (db : Database) (itemIds : List ℕ) : List (ℕ × Discovery) :=
  itemIds.filterMap fun itemId => (route.row db itemId).map fun row => (itemId, row)

/-- The products that are looked up, as their answers come in. -/
def Route.answered (route : Route) (meanwhile : Meanwhile) (db : Database)
    (itemIds : List ℕ) : List (ℕ × Discovery) :=
  meanwhile.order ((route.rows db itemIds).filter fun row => (route.skip row).isNone)

def Route.resolved (route : Route) (meanwhile : Meanwhile) (db : Database)
    (itemIds : List ℕ) : List (ℕ × Discovery × Dict) :=
  (route.answered meanwhile db itemIds).filterMap route.found

variable {itemIds : List ℕ}

theorem mem_rows {row : ℕ × Discovery} :
    row ∈ route.rows db itemIds ↔ row.1 ∈ itemIds ∧ route.row db row.1 = some row.2 := by
  rw [Route.rows, List.mem_filterMap]
  constructor
  · rintro ⟨itemId, hmem, hrow⟩
    obtain ⟨discovery, hdiscovery, rfl⟩ := Option.map_eq_some_iff.mp hrow
    exact ⟨hmem, hdiscovery⟩
  · rintro ⟨hmem, hrow⟩
    exact ⟨row.1, hmem, by rw [hrow]; rfl⟩

theorem mem_answered {row : ℕ × Discovery} :
    row ∈ route.answered meanwhile db itemIds ↔
      row.1 ∈ itemIds ∧ route.row db row.1 = some row.2 ∧ route.skip row = none := by
  rw [Route.answered, (meanwhile.order_perm _).mem_iff, List.mem_filter, mem_rows,
    Option.isNone_iff_eq_none, and_assoc]

theorem rows_map_fst :
    (route.rows db itemIds).map Prod.fst =
      itemIds.filter fun itemId => (route.row db itemId).isSome := by
  have hkey : ∀ itemId, Option.map Prod.fst
      ((route.row db itemId).map fun row => (itemId, row)) =
        if (route.row db itemId).isSome then some itemId else none := by
    intro itemId
    cases route.row db itemId <;> rfl
  rw [Route.rows, List.map_filterMap]
  simp only [hkey]
  exact congrFun List.filterMap_eq_filter itemIds

theorem nodup_answered (hnodup : itemIds.Nodup) :
    ((route.answered meanwhile db itemIds).map Prod.fst).Nodup := by
  have hperm := (meanwhile.order_perm
    ((route.rows db itemIds).filter fun row => (route.skip row).isNone)).map Prod.fst
  refine hperm.nodup_iff.mpr (List.Nodup.sublist (List.filter_sublist.map _) ?_)
  rw [rows_map_fst]
  exact hnodup.filter _

theorem nodup_resolved (hnodup : itemIds.Nodup) :
    ((route.resolved meanwhile db itemIds).map Prod.fst).Nodup := by
  have hkeys : (route.resolved meanwhile db itemIds).map Prod.fst =
      ((route.answered meanwhile db itemIds).filter fun row =>
        (route.found row).isSome).map Prod.fst := by
    have hpick : ∀ row ∈ route.answered meanwhile db itemIds, ∀ key,
        (route.found row).map Prod.fst = some key → key = row.1 := by
      intro row _ key hkey
      obtain ⟨entry, hfound, rfl⟩ := Option.map_eq_some_iff.mp hkey
      exact (of_found hfound).1
    rw [Route.resolved, List.map_filterMap, filterMap_eq_map hpick]
    simp only [Option.isSome_map]
  rw [hkeys]
  exact (nodup_answered hnodup).sublist (List.filter_sublist.map _)

theorem readFrom_resolved : ReadFrom db (route.resolved meanwhile db itemIds) := by
  intro entry hentry
  obtain ⟨row, hrow, hfound⟩ := List.mem_filterMap.mp hentry
  obtain ⟨-, hread, hskip⟩ := mem_answered.mp hrow
  obtain ⟨hid, hdiscovery, -⟩ := of_found hfound
  rw [hid, hdiscovery, Database.pendingDiscovery]
  have hstored : db.discoveries row.1 = some row.2 := by
    rw [Route.row] at hread
    split at hread
    · exact hread
    · cases hread
  have hpending : row.2.status = .pending := by
    by_contra hreviewed
    rw [Route.skip, if_pos hreviewed] at hskip
    cases hskip
  rw [hstored, Option.filter_some, hpending]
  rfl

/-- The answer for one product that spoils the batch: it raises, or its change cannot be
stored. -/
def Route.Spoils (route : Route) (meanwhile : Meanwhile) (db : Database) (itemId : ℕ) : Prop :=
  ∃ discovery, route.row db itemId = some discovery ∧
    route.skip (itemId, discovery) = none ∧
    (route.answer itemId discovery = .raised ∨
      ∃ found, route.answer itemId discovery = .candidates [found] ∧
        ¬ route.Stores meanwhile (itemId, discovery, found))

/-- The results in the order in which they are noted. -/
def Route.resultsOf (library : Library) (route : Route) (meanwhile : Meanwhile)
    (db : Database) (itemIds : List ℕ) : List MatchResult :=
  (route.rows db itemIds).filterMap route.skip ++
      (route.answered meanwhile db itemIds).filterMap route.settled ++
    (route.resolved meanwhile db itemIds).map (meanwhile.applied library) ++
    ((itemIds.filter fun itemId => (route.row db itemId).isNone).mergeSort).map missingResult

theorem bulkMatch_eq (itemIds : List ℕ) :
    route.bulkMatch library meanwhile db itemIds =
      ((route.answered meanwhile db itemIds).foldlM route.sortAnswer
        ((route.rows db itemIds).filterMap route.skip, [])).bind fun sorted =>
      (sorted.2.foldlM (route.apply library meanwhile) (db, sorted.1)).bind fun written =>
        some (written.1, written.2 ++
          ((itemIds.filter fun itemId => (route.row db itemId).isNone).mergeSort).map
            missingResult) :=
  rfl

theorem foldlM_answered
    (hraise : ∀ row ∈ route.answered meanwhile db itemIds,
      route.answer row.1 row.2 ≠ .raised) :
    (route.answered meanwhile db itemIds).foldlM route.sortAnswer
        ((route.rows db itemIds).filterMap route.skip, []) =
      some ((route.rows db itemIds).filterMap route.skip ++
          (route.answered meanwhile db itemIds).filterMap route.settled,
        route.resolved meanwhile db itemIds) := by
  rw [foldlM_sortAnswer hraise, List.nil_append, Route.resolved]

theorem bulkMatch_of_sound (hnodup : itemIds.Nodup)
    (hsound : ∀ itemId ∈ itemIds, ¬ route.Spoils meanwhile db itemId) :
    route.bulkMatch library meanwhile db itemIds =
      some ((route.resolved meanwhile db itemIds).foldl (route.writeEntry library meanwhile) db,
        route.resultsOf library meanwhile db itemIds) := by
  have hraise : ∀ row ∈ route.answered meanwhile db itemIds,
      route.answer row.1 row.2 ≠ .raised := by
    intro row hrow hraised
    obtain ⟨hmem, hread, hskip⟩ := mem_answered.mp hrow
    exact hsound row.1 hmem ⟨row.2, hread, hskip, .inl hraised⟩
  have hstores : ∀ entry ∈ route.resolved meanwhile db itemIds,
      route.Stores meanwhile entry := by
    intro entry hentry
    obtain ⟨row, hrow, hfound⟩ := List.mem_filterMap.mp hentry
    obtain ⟨hmem, hread, hskip⟩ := mem_answered.mp hrow
    obtain ⟨hid, hdiscovery, hanswer⟩ := of_found hfound
    by_contra hstores
    refine hsound row.1 hmem ⟨row.2, hread, hskip, .inr ⟨entry.2.2, hanswer, ?_⟩⟩
    rwa [← hid, ← hdiscovery]
  rw [bulkMatch_eq, foldlM_answered hraise, Option.bind_some,
    foldlM_apply readFrom_resolved (nodup_resolved hnodup) hstores, Option.bind_some]
  rfl

theorem bulkMatch_of_spoils {itemId : ℕ} (hnodup : itemIds.Nodup) (hmem : itemId ∈ itemIds)
    (hspoils : route.Spoils meanwhile db itemId) :
    route.bulkMatch library meanwhile db itemIds = none := by
  obtain ⟨discovery, hread, hskip, hanswer⟩ := hspoils
  have hrow : (itemId, discovery) ∈ route.answered meanwhile db itemIds :=
    mem_answered.mpr ⟨hmem, hread, hskip⟩
  rw [bulkMatch_eq]
  by_cases hraise : ∀ row ∈ route.answered meanwhile db itemIds,
      route.answer row.1 row.2 ≠ .raised
  · rcases hanswer with hraised | ⟨found, hfound, hstores⟩
    · exact absurd hraised (hraise _ hrow)
    · have hentry : (itemId, discovery, found) ∈ route.resolved meanwhile db itemIds := by
        refine List.mem_filterMap.mpr ⟨_, hrow, ?_⟩
        rw [Route.found, hfound]
      rw [foldlM_answered hraise, Option.bind_some,
        foldlM_apply_of_not_stores hentry readFrom_resolved (nodup_resolved hnodup) hstores]
      rfl
  · push Not at hraise
    obtain ⟨row, hrow, hraised⟩ := hraise
    rw [foldlM_sortAnswer_of_raised hrow hraised]
    rfl

theorem rowResult_skip {row : ℕ × Discovery} {result : MatchResult}
    (hskip : route.skip row = some result) :
    result = route.rowResult library meanwhile row := by
  rw [Route.rowResult, hskip]

theorem rowResult_settled {row : ℕ × Discovery} {result : MatchResult}
    (hskip : route.skip row = none) (hsettled : route.settled row = some result) :
    result = route.rowResult library meanwhile row := by
  rw [Route.rowResult, hskip, hsettled]

theorem rowResult_found {row : ℕ × Discovery} {entry : ℕ × Discovery × Dict}
    (hskip : route.skip row = none) (hfound : route.found row = some entry) :
    meanwhile.applied library entry = route.rowResult library meanwhile row := by
  have hsettled : route.settled row = none := by
    rw [Route.settled, (of_found hfound).2.2]
  rw [Route.rowResult, hskip, hsettled, hfound]

theorem answered_perm
    (hsound : ∀ itemId ∈ itemIds, ¬ route.Spoils meanwhile db itemId) :
    ((route.answered meanwhile db itemIds).filterMap route.settled ++
      (route.resolved meanwhile db itemIds).map (meanwhile.applied library)).Perm
      (((route.rows db itemIds).filter fun row => (route.skip row).isNone).map
        (route.rowResult library meanwhile)) := by
  have hskip : ∀ row ∈ route.answered meanwhile db itemIds, route.skip row = none :=
    fun row hrow => (mem_answered.mp hrow).2.2
  have hsettled : ∀ row ∈ route.answered meanwhile db itemIds, ∀ result,
      route.settled row = some result → result = route.rowResult library meanwhile row :=
    fun row hrow result => rowResult_settled (hskip row hrow)
  have hfound : ∀ row ∈ route.answered meanwhile db itemIds, ∀ result,
      (route.found row).map (meanwhile.applied library) = some result →
        result = route.rowResult library meanwhile row := by
    intro row hrow result hresult
    obtain ⟨entry, hentry, rfl⟩ := Option.map_eq_some_iff.mp hresult
    exact rowResult_found (hskip row hrow) hentry
  have hother : (route.answered meanwhile db itemIds).filter
        (fun row => ((route.found row).map (meanwhile.applied library)).isSome) =
      (route.answered meanwhile db itemIds).filter fun row => !(route.settled row).isSome := by
    refine List.filter_congr fun row hrow => ?_
    obtain ⟨hmem, hread, hskip⟩ := mem_answered.mp hrow
    rw [Option.isSome_map]
    exact found_isSome fun hraised => hsound _ hmem ⟨row.2, hread, hskip, .inl hraised⟩
  rw [Route.resolved, List.map_filterMap, filterMap_eq_map hsettled, filterMap_eq_map hfound,
    hother, ← List.map_append]
  exact ((List.filter_append_perm _ _).trans (meanwhile.order_perm _)).map _

theorem rows_perm :
    ((route.rows db itemIds).filterMap route.skip ++
      ((route.rows db itemIds).filter fun row => (route.skip row).isNone).map
        (route.rowResult library meanwhile)).Perm
      ((itemIds.filter fun itemId => (route.row db itemId).isSome).map
        (route.resultOf library meanwhile db)) := by
  have hskipped : ∀ row ∈ route.rows db itemIds, ∀ result, route.skip row = some result →
      result = route.rowResult library meanwhile row :=
    fun row _ result => rowResult_skip
  have hread : ∀ itemId ∈ itemIds, ∀ result,
      ((route.row db itemId).map fun row => (itemId, row)).map
          (route.rowResult library meanwhile) = some result →
        result = route.resultOf library meanwhile db itemId := by
    intro itemId _ result hresult
    obtain ⟨_, hrow, rfl⟩ := Option.map_eq_some_iff.mp hresult
    obtain ⟨discovery, hdiscovery, rfl⟩ := Option.map_eq_some_iff.mp hrow
    rw [Route.resultOf, hdiscovery]
  have hrows : (route.rows db itemIds).map (route.rowResult library meanwhile) =
      (itemIds.filter fun itemId => (route.row db itemId).isSome).map
        (route.resultOf library meanwhile db) := by
    rw [Route.rows, List.map_filterMap, filterMap_eq_map hread]
    simp only [Option.isSome_map]
  rw [filterMap_eq_map hskipped, ← hrows, ← List.map_append]
  simp only [← Option.not_isSome]
  exact (List.filter_append_perm _ _).map _

/-- Each requested product has its result among those noted, and there are no others. -/
theorem resultsOf_perm
    (hsound : ∀ itemId ∈ itemIds, ¬ route.Spoils meanwhile db itemId) :
    (route.resultsOf library meanwhile db itemIds).Perm
      (itemIds.map (route.resultOf library meanwhile db)) := by
  have hmissing : (((itemIds.filter fun itemId =>
      (route.row db itemId).isNone).mergeSort).map missingResult).Perm
      ((itemIds.filter fun itemId => !(route.row db itemId).isSome).map
        (route.resultOf library meanwhile db)) := by
    refine ((List.mergeSort_perm _ _).map _).trans (List.Perm.of_eq ?_)
    simp only [Option.not_isSome]
    refine List.map_congr_left fun itemId hitem => ?_
    have hnone : route.row db itemId = none := by simpa using (List.mem_filter.mp hitem).2
    rw [Route.resultOf, hnone]
  rw [Route.resultsOf, List.append_assoc (List.filterMap _ _)]
  refine ((((answered_perm hsound).append_left _).trans rows_perm).append hmissing).trans ?_
  rw [← List.map_append]
  exact (List.filter_append_perm _ _).map _

/-! ## What is changed -/

/-- The change that the request makes to a product: that of the only candidate for a product
which is pending when it is read and when it is locked. -/
def Route.chosen (route : Route) (meanwhile : Meanwhile) (db : Database) (itemId : ℕ) :
    Option Change :=
  match route.row db itemId with
  | none => none
  | some discovery =>
      match route.skip (itemId, discovery) with
      | some _ => none
      | none => (route.found (itemId, discovery)).bind (route.changeOf meanwhile)

theorem chosen_of_answered {row : ℕ × Discovery}
    (hrow : row ∈ route.answered meanwhile db itemIds) :
    route.chosen meanwhile db row.1 = (route.found row).bind (route.changeOf meanwhile) := by
  obtain ⟨-, hread, hskip⟩ := mem_answered.mp hrow
  rw [Route.chosen, hread]
  simp only [hskip]

theorem status_skip {row : ℕ × Discovery} {result : MatchResult}
    (hskip : route.skip row = some result) : result.status = .skipped := by
  rw [Route.skip] at hskip
  split at hskip
  · cases hskip
    rfl
  · obtain ⟨reason, -, rfl⟩ := Option.map_eq_some_iff.mp hskip
    rfl

theorem status_settled {row : ℕ × Discovery} {result : MatchResult}
    (hsettled : route.settled row = some result) : result.status ≠ .matched := by
  rw [Route.settled] at hsettled
  split at hsettled <;> cases hsettled <;> nofun

theorem status_resultOf_iff {itemId : ℕ} (hsound : ¬ route.Spoils meanwhile db itemId) :
    (route.resultOf library meanwhile db itemId).status = .matched ↔
      (route.chosen meanwhile db itemId).isSome = true := by
  rw [Route.resultOf, Route.chosen]
  cases hread : route.row db itemId with
  | none => simp [missingResult]
  | some discovery =>
      simp only [Route.rowResult]
      cases hskip : route.skip (itemId, discovery) with
      | some result => simp [status_skip hskip]
      | none =>
          have hanswer : route.answer itemId discovery ≠ .raised :=
            fun hraised => hsound ⟨discovery, hread, hskip, .inl hraised⟩
          have hone := @found_isSome route (itemId, discovery) hanswer
          cases hsettled : route.settled (itemId, discovery) with
          | some result =>
              have hnone : route.found (itemId, discovery) = none := by
                simpa [hsettled] using hone
              simp [status_settled hsettled, hnone]
          | none =>
              obtain ⟨entry, hfound⟩ : ∃ entry, route.found (itemId, discovery) = some entry := by
                rw [← Option.isSome_iff_exists, hone, hsettled]
                rfl
              obtain ⟨hid, hdiscovery, hcandidate⟩ := of_found hfound
              have hstores : route.Stores meanwhile entry := by
                by_contra hstores
                refine hsound ⟨discovery, hread, hskip, .inr ⟨entry.2.2, hcandidate, ?_⟩⟩
                have hentry : entry = (itemId, discovery, entry.2.2) :=
                  Prod.ext hid (Prod.ext hdiscovery rfl)
                rwa [← hentry]
              simp only [hfound, Option.bind_some]
              rw [Meanwhile.applied, Route.changeOf]
              by_cases hreviewed : meanwhile.isReviewed entry.1 = true
              · simp [hreviewed, skippedResult]
              · rw [if_neg hreviewed, if_neg hreviewed]
                have hchange := hstores (by simpa using hreviewed)
                simp [Option.isSome_iff_ne_none, hchange]

/-! ## The answer to a request -/

/-- Every requested product has one result, the counts add up, the products matched are those
with one eligible candidate, they and nothing else are changed, and the handheld takes the
results. -/
structure Accounted (route : Route) (meanwhile : Meanwhile) (db : Database)
    (itemIds : List ℕ) (after : Database) (answer : BulkAnswer) : Prop where
  results : (answer.results.map MatchResult.discoveryId).Perm itemIds
  requested : answer.summary.requested = itemIds.length
  total : answer.summary.matched + answer.summary.ambiguous + answer.summary.notFound +
    answer.summary.skipped + answer.summary.failed = answer.summary.requested
  matched : ∀ result ∈ answer.results, (result.status = .matched ↔
    (route.chosen meanwhile db result.discoveryId).isSome = true)
  changed : ∀ itemId ∈ itemIds, ∀ change, route.chosen meanwhile db itemId = some change →
    ChangedTo db after itemId change
  untouched : ∀ itemId, (itemId ∈ itemIds → route.chosen meanwhile db itemId = none) →
    Untouched db after itemId
  rest : after.pricing = db.pricing ∧ { after.store with items := db.store.items } = db.store
  taken : takesResults itemIds answer.results = true

theorem count_statuses (results : List MatchResult) :
    countStatus .matched results + countStatus .ambiguous results +
        countStatus .notFound results + countStatus .skipped results +
      countStatus .error results = results.length := by
  induction results with
  | nil => rfl
  | cons result results ih =>
      simp only [countStatus, List.countP_cons, List.length_cons] at ih ⊢
      cases hstatus : result.status <;> simp <;> omega

theorem takesResults_of_perm {batch : List ℕ} {results : List MatchResult}
    (hnodup : batch.Nodup) (hperm : (results.map MatchResult.discoveryId).Perm batch) :
    takesResults batch results = true := by
  have hlength := hperm.length_eq
  rw [List.length_map] at hlength
  rw [takesResults, Grouping.eraseDups_of_nodup (hperm.nodup_iff.mpr hnodup), List.length_map,
    hlength]
  simp only [beq_self_eq_true, Bool.true_and, List.all_eq_true]
  intro result hresult
  simpa using hperm.mem_iff.mp (List.mem_map_of_mem hresult)

theorem accounted_of_sound (library : Library) (hnodup : itemIds.Nodup)
    (hsound : ∀ itemId ∈ itemIds, ¬ route.Spoils meanwhile db itemId) :
    Accounted route meanwhile db itemIds
      ((route.resolved meanwhile db itemIds).foldl (route.writeEntry library meanwhile) db)
      ⟨summaryOf itemIds (route.resultsOf library meanwhile db itemIds),
        route.resultsOf library meanwhile db itemIds⟩ := by
  have hperm := @resultsOf_perm library route meanwhile db itemIds hsound
  have hids : ((route.resultsOf library meanwhile db itemIds).map
      MatchResult.discoveryId).Perm itemIds := by
    refine (hperm.map _).trans (List.Perm.of_eq ?_)
    rw [List.map_map]
    conv_rhs => rw [← List.map_id itemIds]
    exact List.map_congr_left fun itemId _ => discoveryId_resultOf itemId
  refine ⟨hids, rfl, ?_, ?_, ?_, ?_, foldl_writeEntry_rest _, takesResults_of_perm hnodup hids⟩
  · have hlength := hids.length_eq
    rw [List.length_map] at hlength
    exact (count_statuses _).trans hlength
  · intro result hresult
    obtain ⟨itemId, hmem, rfl⟩ := List.mem_map.mp (hperm.mem_iff.mp hresult)
    rw [discoveryId_resultOf]
    exact status_resultOf_iff (hsound itemId hmem)
  · intro itemId hmem change hchosen
    have hanswered : ∃ discovery, (itemId, discovery) ∈ route.answered meanwhile db itemIds := by
      rw [Route.chosen] at hchosen
      split at hchosen
      · cases hchosen
      · next discovery hread =>
          split at hchosen
          · cases hchosen
          · next hskip => exact ⟨discovery, mem_answered.mpr ⟨hmem, hread, hskip⟩⟩
    obtain ⟨discovery, hrow⟩ := hanswered
    rw [show itemId = (itemId, discovery).1 from rfl, chosen_of_answered hrow,
      Option.bind_eq_some_iff] at hchosen
    obtain ⟨entry, hfound, hchange⟩ := hchosen
    have hentry : entry ∈ route.resolved meanwhile db itemIds :=
      List.mem_filterMap.mpr ⟨_, hrow, hfound⟩
    have hchanged := @changedTo_foldl library route meanwhile db _ _ _ hentry
      (nodup_resolved hnodup) hchange
    rwa [(of_found hfound).1] at hchanged
  · intro itemId hchosen
    refine untouched_foldl fun entry hentry heq => ?_
    obtain ⟨row, hrow, hfound⟩ := List.mem_filterMap.mp hentry
    have hrowId : row.1 = itemId := (of_found hfound).1.symm.trans heq
    have hnone := hchosen (hrowId ▸ (mem_answered.mp hrow).1)
    rwa [← hrowId, chosen_of_answered hrow, hfound, Option.bind_some] at hnone

/-- A bulk request is served and accounted for. -/
def Route.Accounts (library : Library) (route : Route) (meanwhile : Meanwhile) (db : Database)
    (rawIds : List ℤ) : Prop :=
  ∃ after answer, route.serve library meanwhile db rawIds = .ok (after, answer) ∧
    Accounted route meanwhile db (rawIds.eraseDups.map Int.toNat) after answer

/-- The request is a valid one, and no answer spoils the batch. -/
structure Isolable (route : Route) (meanwhile : Meanwhile) (db : Database)
    (rawIds : List ℤ) : Prop where
  given : rawIds ≠ []
  few : rawIds.length ≤ 100
  positive : ∀ value ∈ rawIds, 1 ≤ value
  sound : ∀ value ∈ rawIds, ¬ route.Spoils meanwhile db value.toNat

theorem requestedIds_eq_ok_iff {rawIds : List ℤ} :
    requestedIds rawIds = .ok itemIds ↔
      (rawIds ≠ [] ∧ rawIds.length ≤ 100 ∧ ∀ value ∈ rawIds, 1 ≤ value) ∧
        itemIds = rawIds.eraseDups.map Int.toNat := by
  rw [requestedIds]
  split
  · next hempty => simp [hempty]
  · next hgiven =>
      split
      · next hmany =>
          refine iff_of_false nofun fun hvalid => ?_
          exact absurd hvalid.1.2.1 hmany.not_ge
      · next hfew =>
          split
          · next hnegative =>
              refine iff_of_false nofun fun hvalid => ?_
              obtain ⟨value, hvalue, hlt⟩ := List.any_eq_true.mp hnegative
              exact absurd (hvalid.1.2.2 value hvalue) (not_le.mpr (of_decide_eq_true hlt))
          · next hpositive =>
              rw [Except.ok.injEq, eq_comm]
              refine (and_iff_right ⟨hgiven, not_lt.mp hfew, fun value hvalue => ?_⟩).symm
              by_contra hlt
              exact hpositive
                (List.any_eq_true.mpr ⟨value, hvalue, decide_eq_true (not_le.mp hlt)⟩)

theorem nodup_requested {rawIds : List ℤ} (hpositive : ∀ value ∈ rawIds, 1 ≤ value) :
    (rawIds.eraseDups.map Int.toNat).Nodup := by
  refine (Grouping.nodup_eraseDups rawIds).map_on fun value hvalue other hother heq => ?_
  have hfirst := hpositive value (List.mem_eraseDups.mp hvalue)
  have hsecond := hpositive other (List.mem_eraseDups.mp hother)
  omega

theorem accounts_iff {rawIds : List ℤ} :
    route.Accounts library meanwhile db rawIds ↔ Isolable route meanwhile db rawIds := by
  constructor
  · rintro ⟨after, answer, hserve, -⟩
    obtain ⟨itemIds, hids, hserve⟩ := Transition.bind_eq_ok.mp hserve
    obtain ⟨⟨hgiven, hfew, hpositive⟩, rfl⟩ := requestedIds_eq_ok_iff.mp hids
    refine ⟨hgiven, hfew, hpositive, fun value hvalue hspoils => ?_⟩
    have hmem : value.toNat ∈ rawIds.eraseDups.map Int.toNat :=
      List.mem_map_of_mem (List.mem_eraseDups.mpr hvalue)
    rw [bulkMatch_of_spoils (nodup_requested hpositive) hmem hspoils] at hserve
    cases hserve
  · rintro ⟨hgiven, hfew, hpositive, hsound⟩
    have hids := requestedIds_eq_ok_iff.mpr ⟨⟨hgiven, hfew, hpositive⟩, rfl⟩
    have hsound : ∀ itemId ∈ rawIds.eraseDups.map Int.toNat,
        ¬ route.Spoils meanwhile db itemId := by
      intro itemId hmem
      obtain ⟨value, hvalue, rfl⟩ := List.mem_map.mp hmem
      exact hsound value (List.mem_eraseDups.mp hvalue)
    refine ⟨_, _, ?_, accounted_of_sound library (nodup_requested hpositive) hsound⟩
    refine Transition.bind_eq_ok.mpr ⟨_, hids, ?_⟩
    rw [bulkMatch_of_sound (nodup_requested hpositive) hsound]

/-! ## The handheld -/

def MatchProgress.counted (progress : MatchProgress) : ℕ :=
  progress.matched + progress.ambiguous + progress.notFound + progress.skipped + progress.failed

/-- A request of the handheld, as the server finds it. -/
structure Turn where
  meanwhile : Meanwhile
  db : Database
  lookups : ℕ → Lookup

/-- The results that the handheld gets for a batch. -/
def Turn.matchBatch (library : Library) (storage : Storage) (turn : Turn) (batch : List ℕ) :
    Option (List MatchResult) :=
  (((tecdocRoute library storage turn.lookups).serve library turn.meanwhile turn.db
    (batch.map Int.ofNat)).toOption).map fun served => served.2.results

theorem Turn.served {turn : Turn} {batch : List ℕ} (hnodup : batch.Nodup) (hgiven : batch ≠ [])
    (hfew : batch.length ≤ bulkBatchSize)
    (hsound : ∀ itemId ∈ batch, 1 ≤ itemId ∧
      ¬ (tecdocRoute library storage turn.lookups).Spoils turn.meanwhile turn.db itemId) :
    ∃ results, turn.matchBatch library storage batch = some results ∧
      takesResults batch results = true := by
  have hinjective : Function.Injective Int.ofNat := fun _ _ => Int.ofNat.inj
  have hbatch : (batch.map Int.ofNat).eraseDups.map Int.toNat = batch := by
    rw [Grouping.eraseDups_of_nodup (hnodup.map hinjective), List.map_map]
    exact List.map_id batch
  have hisolable : Isolable (tecdocRoute library storage turn.lookups) turn.meanwhile turn.db
      (batch.map Int.ofNat) := by
    refine ⟨by simpa using hgiven, ?_, ?_, ?_⟩
    · rw [List.length_map]
      exact hfew.trans (by decide)
    · intro value hvalue
      obtain ⟨itemId, hitem, rfl⟩ := List.mem_map.mp hvalue
      exact Int.ofNat_le.mpr (hsound itemId hitem).1
    · intro value hvalue
      obtain ⟨itemId, hitem, rfl⟩ := List.mem_map.mp hvalue
      exact (hsound itemId hitem).2
  obtain ⟨after, answer, hserve, haccounted⟩ := (@accounts_iff library _ _ _ _).mpr hisolable
  rw [hbatch] at haccounted
  refine ⟨answer.results, ?_, haccounted.taken⟩
  rw [Turn.matchBatch, hserve]
  rfl

/-- The lookups finish in order, and nobody else reviews anything. -/
def undisturbed : Meanwhile where
  order rows := rows
  order_perm _ := .refl _
  isReviewed _ := false

end SentryWms.Catalog
