import SentryWms.Inbound.Mapping

/-!
# The lookups of the lines in one query

Before a mapping is applied, a walk over the lines of the payload collects the keys that
their lookups will ask for, and one query for each pair of source system and source type
fills a cache. The cache answers as the single-row query does. The walk itself can raise,
outside the handler of the exceptions of `apply`.
-/

namespace SentryWms.Inbound

open Attempts Python

/-! ## The table -/

structure MappingRow where
  key : LookupKey
  canonicalId : ℕ

/-- `cross_system_mappings`, with the unique index on its keys. -/
structure CrossSystemMappings where
  rows : List MappingRow
  unique : (rows.map MappingRow.key).Nodup

/-- The database driver refuses a text with a NUL. -/
def holdsNul (text : String) : Bool :=
  text.toList.any fun char => char.toNat = 0

def nulMessage : String := "A string literal cannot contain NUL (0x00) characters."

/-- A key that can be the parameter of a query. -/
def LookupKey.bindable (key : LookupKey) : Bool :=
  !holdsNul key.sourceSystem && !holdsNul key.sourceType && !holdsNul key.sourceId

def CrossSystemMappings.canonicalId (mappings : CrossSystemMappings) (key : LookupKey) :
    Option ℕ :=
  (mappings.rows.find? fun row => row.key == key).map MappingRow.canonicalId

/-- The single-row query. It runs inside `apply`, so that what the driver raises is a
`ValueError` of the evaluation. -/
def CrossSystemMappings.selectOne (mappings : CrossSystemMappings) : Lookup := fun key =>
  if key.bindable then .ok (mappings.canonicalId key) else .error (.valueError nulMessage)

/-- The rows that the batched query of a group gives. -/
def groupRows (rows : List MappingRow) (pair : String × String) (sids : List String) :
    List (String × ℕ) :=
  rows.filterMap fun row =>
    if (row.key.sourceSystem, row.key.sourceType) = pair ∧ row.key.sourceId ∈ sids then
      some (row.key.sourceId, row.canonicalId)
    else none

/-- The batched query of one group: `source_id` and `canonical_id` of its rows. -/
def CrossSystemMappings.selectMany (mappings : CrossSystemMappings)
    (pair : String × String) (sids : List String) :
    Except ApplyError (List (String × ℕ)) :=
  if !holdsNul pair.1 && !holdsNul pair.2 && sids.all fun sid => !holdsNul sid then
    .ok (groupRows mappings.rows pair sids)
  else .error (.uncaught nulMessage)

/-! ## The prefetch -/

/-- The `source_id`s to look for, under each pair of `source_system` and
`source_type`. -/
abbrev Groups : Type := List ((String × String) × List String)

/-- `groups.setdefault((ss, cs.source_type), set()).add(str(source_id))`. -/
def Groups.add (key : LookupKey) : Groups → Groups
  | [] => [((key.sourceSystem, key.sourceType), [key.sourceId])]
  | (pair, sids) :: groups =>
      if pair = (key.sourceSystem, key.sourceType) then
        (pair, sids.insert key.sourceId) :: groups
      else (pair, sids) :: Groups.add key groups

/-- The keys that have been looked up, a miss as no id. -/
abbrev Cache : Type := LookupKey → Option (Option ℕ)

/-- `found`, of the rows of one query. -/
def foundOf (rows : List (String × ℕ)) : String → Option ℕ :=
  rows.foldl (fun (found : String → Option ℕ) row =>
    Function.update found row.1 (some row.2)) fun _ => none

/-- `cache[(ss, st, sid)] = found.get(sid)`, for every `sid` of a group. -/
def Cache.fill (cache : Cache) (pair : String × String) (sids : List String)
    (found : String → Option ℕ) : Cache :=
  sids.foldl (fun cache sid =>
    Function.update cache ⟨pair.1, pair.2, sid⟩ (some (found sid))) cache

section Prefetch

-- `noPath` is what `jsonpath_ng` raises when it is given no path to parse
variable (libraries : Libraries) (noPath : String) (mappings : CrossSystemMappings)

/-- `_resolve_jsonpath(field.source_path, block)`, whether the field has a path or
not. -/
def resolveOptional (path : Option String) (block : Value) : Except ApplyError Value :=
  match path with
  | some path => resolveJsonpath libraries path block
  | none => .error (.uncaught noPath)

def collectField (document : MappingDocument) (block : Value) (groups : Groups)
    (field : FieldMapping) : Except ApplyError Groups := do
  let sourceId ← resolveOptional libraries noPath field.sourcePath block
  pure <|
    match field.crossSystemLookup with
    | some lookup =>
        if sourceId.isNull then groups
        else groups.add (lookupKey libraries document lookup sourceId)
    | none => groups

def LineItemMapping.lookupFields (lineItems : LineItemMapping) : List FieldMapping :=
  lineItems.fields.filter fun field => field.crossSystemLookup.isSome

/-- The walk over the blocks. -/
def collectBlocks (document : MappingDocument) (lineItems : LineItemMapping)
    (blocks : List Value) : Except ApplyError Groups :=
  blocks.foldlM (fun groups block =>
    lineItems.lookupFields.foldlM (collectField libraries noPath document block) groups) []

def fillCache (groups : Groups) : Except ApplyError Cache :=
  groups.foldlM (fun cache group => do
    let rows ← mappings.selectMany group.1 group.2
    pure (cache.fill group.1 group.2 (foundOf rows))) fun _ => none

def prefetchLineLookups (document : MappingDocument) (resource : Resource)
    (payload : Value) : Except ApplyError Cache :=
  match document.resources resource with
  | none => .ok fun _ => none
  | some mapping =>
      match mapping.lineItems with
      | none => .ok fun _ => none
      | some lineItems =>
          if lineItems.lookupFields.isEmpty then .ok fun _ => none
          else do
            let blocks ← lineBlocks libraries lineItems payload
            let groups ← collectBlocks libraries noPath document lineItems blocks
            fillCache mappings groups

/-- `_lookup`: the cache before the single-row query. -/
def cachedLookup (cache : Cache) : Lookup := fun key =>
  match cache key with
  | some found => .ok found
  | none => mappings.selectOne key

/-- The mapping step of `handle_inbound`. An exception of the prefetch is raised before
the `try` around `apply`. -/
def applyPrefetched (document : MappingDocument) (resource : Resource) (payload : Value)
    (override : Dict) : Except ApplyError Dict := do
  let cache ← prefetchLineLookups libraries noPath mappings document resource payload
  apply libraries document resource payload (cachedLookup mappings cache) override

/-- The same step with one query for each value. -/
def applyDirect (document : MappingDocument) (resource : Resource) (payload : Value)
    (override : Dict) : Except ApplyError Dict :=
  apply libraries document resource payload mappings.selectOne override

/-! ## The cache answers as the table does -/

variable {libraries noPath mappings}

theorem foundOf_eq {rows : List (String × ℕ)} (hnodup : (rows.map Prod.fst).Nodup)
    (sid : String) : foundOf rows sid = rows.lookup sid := by
  have hfold : ∀ found : String → Option ℕ,
      rows.foldl (fun (found : String → Option ℕ) row =>
        Function.update found row.1 (some row.2)) found sid =
        (rows.lookup sid).or (found sid) := by
    induction rows with
    | nil => exact fun _ => rfl
    | cons row rows ih =>
        intro found
        rw [List.map_cons, List.nodup_cons] at hnodup
        rw [List.foldl_cons, ih hnodup.2, List.lookup_cons]
        by_cases hsid : sid = row.1
        · have hnone : rows.lookup sid = none := by
            rw [List.lookup_eq_none_iff]
            intro entry hentry
            rw [hsid, bne_iff_ne]
            intro heq
            exact hnodup.1 (heq ▸ List.mem_map_of_mem hentry)
          rw [hnone, hsid, Function.update_self]
          simp
        · have hbeq : (sid == row.1) = false := beq_eq_false_iff_ne.mpr hsid
          rw [Function.update_of_ne hsid, hbeq]
  rw [foundOf, hfold, Option.or_none]

theorem lookup_groupRows {rows : List MappingRow} {key : LookupKey} {sids : List String}
    (hmem : key.sourceId ∈ sids) :
    (groupRows rows (key.sourceSystem, key.sourceType) sids).lookup key.sourceId =
      (rows.find? fun row => row.key == key).map MappingRow.canonicalId := by
  induction rows with
  | nil => rfl
  | cons row rows ih =>
      rw [groupRows] at ih ⊢
      rw [List.find?_cons, List.filterMap_cons]
      by_cases hkey : row.key = key
      · simp [hkey, hmem]
      · rw [beq_eq_false_iff_ne.mpr hkey]
        by_cases hrow : (row.key.sourceSystem, row.key.sourceType) =
            (key.sourceSystem, key.sourceType) ∧ row.key.sourceId ∈ sids
        · have hsid : key.sourceId ≠ row.key.sourceId := by
            intro hsid
            apply hkey
            rw [Prod.mk.injEq] at hrow
            exact LookupKey.ext hrow.1.1 hrow.1.2 hsid.symm
          rw [if_pos hrow, List.lookup_cons, beq_eq_false_iff_ne.mpr hsid]
          exact ih
        · rw [if_neg hrow]
          exact ih

theorem nodup_groupRows {rows : List MappingRow}
    (hunique : (rows.map MappingRow.key).Nodup) (pair : String × String)
    (sids : List String) : ((groupRows rows pair sids).map Prod.fst).Nodup := by
  induction rows with
  | nil => exact List.nodup_nil
  | cons row rows ih =>
      rw [List.map_cons, List.nodup_cons] at hunique
      have hrest := ih hunique.2
      rw [groupRows] at hrest ⊢
      rw [List.filterMap_cons]
      by_cases hrow : (row.key.sourceSystem, row.key.sourceType) = pair ∧
          row.key.sourceId ∈ sids
      · rw [if_pos hrow, List.map_cons, List.nodup_cons]
        refine ⟨fun hmem => hunique.1 ?_, hrest⟩
        obtain ⟨entry, hentry, hsid⟩ := List.mem_map.mp hmem
        obtain ⟨other, hother, hsome⟩ := List.mem_filterMap.mp hentry
        by_cases hcond : (other.key.sourceSystem, other.key.sourceType) = pair ∧
            other.key.sourceId ∈ sids
        · rw [if_pos hcond, Option.some.injEq] at hsome
          have hpair := hcond.1.trans hrow.1.symm
          rw [Prod.mk.injEq] at hpair
          have hkey : other.key = row.key :=
            LookupKey.ext hpair.1 hpair.2 (by rw [← hsome] at hsid; exact hsid)
          exact hkey ▸ List.mem_map_of_mem hother
        · rw [if_neg hcond] at hsome
          cases hsome
      · rw [if_neg hrow]
        exact hrest

theorem fill_apply (cache : Cache) (pair : String × String) (sids : List String)
    (found : String → Option ℕ) (key : LookupKey) :
    cache.fill pair sids found key =
      if (key.sourceSystem, key.sourceType) = pair ∧ key.sourceId ∈ sids then
        some (found key.sourceId)
      else cache key := by
  induction sids generalizing cache with
  | nil => simp [Cache.fill]
  | cons sid sids ih =>
      rw [Cache.fill, List.foldl_cons]
      refine (ih _).trans ?_
      by_cases hkey : key = ⟨pair.1, pair.2, sid⟩
      · simp [hkey]
      · have hne : ¬ ((key.sourceSystem, key.sourceType) = pair ∧ key.sourceId = sid) := by
          rintro ⟨hpair, hsid⟩
          exact hkey (LookupKey.ext (congrArg Prod.fst hpair) (congrArg Prod.snd hpair) hsid)
        rw [Function.update_of_ne hkey]
        by_cases hpair : (key.sourceSystem, key.sourceType) = pair
        · have hsid : key.sourceId ≠ sid := fun hsid => hne ⟨hpair, hsid⟩
          simp only [hpair, true_and, List.mem_cons, hsid, false_or]
        · simp only [hpair, false_and]

/-- A cache that says what the single-row query says. -/
def Cache.Sound (mappings : CrossSystemMappings) (cache : Cache) : Prop :=
  ∀ key found, cache key = some found → mappings.selectOne key = .ok found

variable {cache : Cache}

theorem Cache.Sound.cachedLookup (hsound : cache.Sound mappings) :
    cachedLookup mappings cache = mappings.selectOne := by
  funext key
  rw [Inbound.cachedLookup]
  cases hkey : cache key with
  | none => rfl
  | some found => exact (hsound key found hkey).symm

theorem Cache.Sound.fill (hsound : cache.Sound mappings) {pair : String × String}
    {sids : List String} {rows : List (String × ℕ)}
    (hselect : mappings.selectMany pair sids = .ok rows) :
    (cache.fill pair sids (foundOf rows)).Sound mappings := by
  intro key found hfound
  rw [fill_apply] at hfound
  by_cases hcond : (key.sourceSystem, key.sourceType) = pair ∧ key.sourceId ∈ sids
  · rw [if_pos hcond, Option.some.injEq] at hfound
    obtain ⟨rfl, hmem⟩ := hcond
    rw [CrossSystemMappings.selectMany] at hselect
    split at hselect
    · next hbind =>
        have hrows : groupRows mappings.rows (key.sourceSystem, key.sourceType) sids = rows :=
          Except.ok.inj hselect
        have hbindable : key.bindable = true := by
          simp only [Bool.and_eq_true, List.all_eq_true] at hbind
          simp only [LookupKey.bindable, Bool.and_eq_true]
          exact ⟨hbind.1, hbind.2 _ hmem⟩
        have hid : mappings.canonicalId key = found := by
          rw [← hfound, ← hrows, foundOf_eq (nodup_groupRows mappings.unique _ _),
            lookup_groupRows hmem, CrossSystemMappings.canonicalId]
        rw [CrossSystemMappings.selectOne, if_pos hbindable, hid]
    · cases hselect
  · rw [if_neg hcond] at hfound
    exact hsound key found hfound

variable {groups : Groups}

theorem sound_fillCache
    (hfill : fillCache mappings groups = .ok cache) : cache.Sound mappings := by
  refine Transition.foldlM_invariant (Cache.Sound mappings) ?_ hfill ?_
  · intro cache group result hmem hsound hstep
    obtain ⟨rows, hselect, hresult⟩ := Transition.bind_eq_ok.mp hstep
    cases hresult
    exact hsound.fill hselect
  · intro key found hfound
    cases hfound

/-! ## What the prefetch raises -/

variable (libraries noPath)

/-- The first exception of the walk over the blocks: a lookup without a path, or a path
that raises. -/
def walkFailure (lineItems : LineItemMapping) (blocks : List Value) : Option ApplyError :=
  blocks.findSome? fun block =>
    lineItems.lookupFields.findSome? fun field =>
      failure? (resolveOptional libraries noPath field.sourcePath block)

/-- The first exception of the prefetch: of the path of the lines, of the walk, or of a
query with a key that the driver refuses. -/
def prefetchFailure (document : MappingDocument) (payload : Value)
    (lineItems : LineItemMapping) : Option ApplyError :=
  if lineItems.lookupFields.isEmpty then none
  else
    match lineBlocks libraries lineItems payload with
    | .error error => some error
    | .ok blocks =>
        (walkFailure libraries noPath lineItems blocks).or
          (if (askedByLines libraries document lineItems payload).all LookupKey.bindable then
            none
          else some (.uncaught nulMessage))

/-- The driver takes every key of the groups. -/
def Groups.bindable (groups : Groups) : Bool :=
  groups.all fun group =>
    !holdsNul group.1.1 && !holdsNul group.1.2 && group.2.all fun sid => !holdsNul sid

variable {libraries noPath}

theorem Groups.bindable_add (groups : Groups) (key : LookupKey) :
    (groups.add key).bindable = (groups.bindable && key.bindable) := by
  induction groups with
  | nil => simp [Groups.add, Groups.bindable, LookupKey.bindable]
  | cons group groups ih =>
      obtain ⟨pair, sids⟩ := group
      rw [Groups.add]
      by_cases hpair : pair = (key.sourceSystem, key.sourceType)
      · rw [if_pos hpair, hpair]
        simp only [Groups.bindable, List.all_cons, List.all_insert, LookupKey.bindable]
        ac_rfl
      · rw [if_neg hpair]
        rw [Groups.bindable, Groups.bindable] at ih
        rw [Groups.bindable, Groups.bindable, List.all_cons, List.all_cons, ih]
        simp only [Bool.and_assoc]

theorem failure?_selectMany (pair : String × String) (sids : List String) :
    failure? (mappings.selectMany pair sids) =
      if !holdsNul pair.1 && !holdsNul pair.2 && sids.all fun sid => !holdsNul sid then none
      else some (.uncaught nulMessage) := by
  rw [CrossSystemMappings.selectMany]
  split <;> rfl

theorem failure?_fillCache (groups : Groups) :
    failure? (fillCache mappings groups) =
      if groups.bindable then none else some (.uncaught nulMessage) := by
  have hfold : failure? (fillCache mappings groups) = groups.findSome? fun group =>
      failure? (mappings.selectMany group.1 group.2) := by
    apply failure?_foldlM
    intro group hgroup cache
    exact failure?_map _ _
  rw [hfold]
  clear hfold
  induction groups with
  | nil => rfl
  | cons group groups ih =>
      rw [List.findSome?_cons, failure?_selectMany, ih, Groups.bindable, Groups.bindable,
        List.all_cons]
      cases !holdsNul group.1.1 && !holdsNul group.1.2 &&
        group.2.all fun sid => !holdsNul sid <;> rfl

variable {document : MappingDocument} {block : Value}

theorem collectField_ok {field : FieldMapping} {groups' : Groups}
    (hcollect : collectField libraries noPath document block groups field = .ok groups') :
    groups' = (askedKey libraries document block field).elim groups groups.add := by
  obtain ⟨sourceId, hresolve, hgroups⟩ := Transition.bind_eq_ok.mp hcollect
  rw [← Except.ok.inj hgroups, askedKey]
  cases hpath : field.sourcePath with
  | none =>
      rw [hpath] at hresolve
      cases hresolve
  | some path =>
      rw [hpath] at hresolve
      have hsource : resolveJsonpath libraries path block = .ok sourceId := hresolve
      cases field.crossSystemLookup with
      | none => rfl
      | some lookup =>
          by_cases hnull : sourceId.isNull = true
          · simp only [hsource, if_pos hnull, Option.elim_none]
          · simp only [hsource, if_neg hnull, Option.elim_some]

theorem bindable_collectFields {fields : List FieldMapping} {groups' : Groups}
    (hcollect : fields.foldlM (collectField libraries noPath document block) groups = .ok groups') :
    groups'.bindable = (groups.bindable &&
      (fields.filterMap (askedKey libraries document block)).all LookupKey.bindable) := by
  induction fields generalizing groups with
  | nil =>
      cases hcollect
      rw [List.filterMap_nil, List.all_nil, Bool.and_true]
  | cons field fields ih =>
      rw [List.foldlM_cons] at hcollect
      obtain ⟨middle, hfield, hrest⟩ := Transition.bind_eq_ok.mp hcollect
      rw [ih hrest, collectField_ok hfield, List.filterMap_cons]
      cases askedKey libraries document block field with
      | none => rfl
      | some key =>
          rw [Option.elim_some, Groups.bindable_add, List.all_cons, Bool.and_assoc]

theorem bindable_collectBlocks {lineItems : LineItemMapping} {blocks : List Value}
    (hcollect : collectBlocks libraries noPath document lineItems blocks = .ok groups) :
    groups.bindable = (blocks.flatMap fun block =>
      lineItems.fields.filterMap (askedKey libraries document block)).all
        LookupKey.bindable := by
  have hasked : ∀ block, lineItems.lookupFields.filterMap (askedKey libraries document block) =
      lineItems.fields.filterMap (askedKey libraries document block) := by
    intro block
    rw [LineItemMapping.lookupFields, List.filterMap_filter]
    congr 1
    funext field
    cases hlookup : field.crossSystemLookup with
    | none => simp [askedKey, hlookup]
    | some lookup => simp
  have hfold : ∀ first : Groups,
      (blocks.foldlM (fun groups block => lineItems.lookupFields.foldlM
        (collectField libraries noPath document block) groups) first) = .ok groups →
      groups.bindable = (first.bindable && (blocks.flatMap fun block =>
        lineItems.fields.filterMap (askedKey libraries document block)).all
          LookupKey.bindable) := by
    clear hcollect
    induction blocks with
    | nil =>
        intro first hfirst
        cases hfirst
        rw [List.flatMap_nil, List.all_nil, Bool.and_true]
    | cons block blocks ih =>
        intro first hfirst
        rw [List.foldlM_cons] at hfirst
        obtain ⟨middle, hblock, hrest⟩ := Transition.bind_eq_ok.mp hfirst
        rw [ih middle hrest, bindable_collectFields hblock, hasked, List.flatMap_cons,
          List.all_append, Bool.and_assoc]
  rw [hfold [] hcollect]
  rfl

theorem failure?_collectField {field : FieldMapping} :
    failure? (collectField libraries noPath document block groups field) =
      failure? (resolveOptional libraries noPath field.sourcePath block) :=
  failure?_map _ _

theorem failure?_collectBlocks (document : MappingDocument) {lineItems : LineItemMapping}
    {blocks : List Value} :
    failure? (collectBlocks libraries noPath document lineItems blocks) =
      walkFailure libraries noPath lineItems blocks := by
  rw [collectBlocks, walkFailure]
  apply failure?_foldlM
  intro block hblock groups
  apply failure?_foldlM
  intro field hfield groups
  exact failure?_collectField

theorem failure?_prefetchLineLookups {resource : Resource} {mapping : ResourceMapping}
    (hmapping : document.resources resource = some mapping) (payload : Value) :
    failure? (prefetchLineLookups libraries noPath mappings document resource payload) =
      mapping.lineItems.bind (prefetchFailure libraries noPath document payload) := by
  simp only [prefetchLineLookups, hmapping]
  cases mapping.lineItems with
  | none => rfl
  | some lineItems =>
      rw [Option.bind_some, prefetchFailure]
      by_cases hnone : lineItems.lookupFields.isEmpty = true
      · simp only [if_pos hnone]
        rfl
      · simp only [if_neg hnone]
        cases hblocks : lineBlocks libraries lineItems payload with
        | error error => rfl
        | ok blocks =>
            change failure? (collectBlocks libraries noPath document lineItems blocks >>=
              fillCache mappings) = (walkFailure libraries noPath lineItems blocks).or _
            rw [← failure?_collectBlocks document]
            apply failure?_bind
            intro groups hgroups
            rw [failure?_fillCache, bindable_collectBlocks hgroups, askedByLines, hblocks]

theorem sound_prefetchLineLookups {resource : Resource} {payload : Value}
    (hprefetch : prefetchLineLookups libraries noPath mappings document resource payload = .ok cache) : cache.Sound mappings := by
  have hempty : Cache.Sound mappings fun _ => none := by
    intro key found hfound
    cases hfound
  rw [prefetchLineLookups] at hprefetch
  split at hprefetch
  · cases hprefetch
    exact hempty
  · split at hprefetch
    · cases hprefetch
      exact hempty
    · split at hprefetch
      · cases hprefetch
        exact hempty
      · obtain ⟨blocks, hblocks, hprefetch⟩ := Transition.bind_eq_ok.mp hprefetch
        obtain ⟨groups, hgroups, hprefetch⟩ := Transition.bind_eq_ok.mp hprefetch
        exact sound_fillCache hprefetch

/-- The prefetch changes nothing exactly where whatever it raises is also the first thing
that an evaluation field by field raises. -/
theorem applyPrefetched_eq_iff (libraries : Libraries) (noPath : String)
    (mappings : CrossSystemMappings) (document : MappingDocument) (resource : Resource)
    (payload : Value) (override : Dict) :
    applyPrefetched libraries noPath mappings document resource payload override =
        applyDirect libraries mappings document resource payload override ↔
      ∀ mapping lineItems error, document.resources resource = some mapping →
        mapping.lineItems = some lineItems →
        prefetchFailure libraries noPath document payload lineItems = some error →
        mappingFailure libraries document mappings.selectOne payload mapping =
          some error := by
  cases hprefetch :
      prefetchLineLookups libraries noPath mappings document resource payload with
  | ok cache =>
      have hnone : failure? (prefetchLineLookups libraries noPath mappings document resource
          payload) = none := by rw [hprefetch]; rfl
      constructor
      · intro heq mapping lineItems error hmapping hlines hfailure
        rw [failure?_prefetchLineLookups hmapping, hlines, Option.bind_some, hfailure] at hnone
        cases hnone
      · intro hcondition
        rw [applyPrefetched, applyDirect, hprefetch]
        exact congrArg (apply libraries document resource payload · override)
          (sound_prefetchLineLookups hprefetch).cachedLookup
  | error raised =>
      have hsome : failure? (prefetchLineLookups libraries noPath mappings document resource
          payload) = some raised := by rw [hprefetch]; rfl
      have hpre : applyPrefetched libraries noPath mappings document resource payload
          override = .error raised := by rw [applyPrefetched, hprefetch]; rfl
      cases hmapping : document.resources resource with
      | none =>
          rw [prefetchLineLookups, hmapping] at hprefetch
          cases hprefetch
      | some mapping =>
          rw [failure?_prefetchLineLookups hmapping] at hsome
          obtain ⟨lineItems, hlines, hfailure⟩ := Option.bind_eq_some_iff.mp hsome
          have hdirect : applyDirect libraries mappings document resource payload override =
                .error raised ↔
              mappingFailure libraries document mappings.selectOne payload mapping =
                some raised := by
            rw [applyDirect, ← failure?_apply hmapping payload mappings.selectOne override,
              failure?_eq_some]
          rw [hpre, eq_comm, hdirect]
          constructor
          · intro hsame mapping' lineItems' error hmapping' hlines' hfailure'
            cases hmapping'
            rw [hlines] at hlines'
            cases hlines'
            rw [hfailure] at hfailure'
            cases hfailure'
            exact hsame
          · intro hcondition
            exact hcondition mapping lineItems raised rfl hlines hfailure

end Prefetch

/-! ## A lookup without a path -/

/-- Libraries that know the paths `$.lines`, `$.id` and `$.sku`, and texts as ids. -/
def sampleLibraries : Libraries where
  find := fun path value =>
    match value with
    | .object entries =>
        if path = "$.lines" then .ok (Dict.get? entries "lines").toList
        else if path = "$.id" then .ok (Dict.get? entries "id").toList
        else if path = "$.sku" then .ok (Dict.get? entries "sku").toList
        else .error "Parse error"
    | _ => .ok []
  evaluate := fun _ _ => .error "no expressions"
  str := fun value =>
    match value with
    | .text text => text
    | _ => ""
  repr := fun value =>
    match value with
    | .text text => "'" ++ text ++ "'"
    | _ => ""

def plainField (canonical : String) (sourcePath : Option String) : FieldMapping where
  canonical := canonical
  type := .string
  sourcePath := sourcePath
  required := false
  crossSystemLookup := none
  derived := none
  default := .null
  enumValues := []
  maxDigits := none
  decimalPlaces := none
  ge := none
  le := none

/-- A lookup field of the lines that has a default in place of a path. -/
def pathlessDocument : MappingDocument where
  sourceSystem := "netsuite"
  versionCompare := .lexicographic
  resources := fun resource =>
    match resource with
    | .salesOrders =>
        some {
          fields := [plainField "so_number" (some "$.id")]
          lineItems := some {
            sourcePath := "$.lines"
            canonicalPath := "line_items"
            fields := [{
              plainField "item_id" none with
              crossSystemLookup := some ⟨"item", none⟩
              default := .text "unknown" }] } }
    | _ => none

def oneLinePayload : Value :=
  .object [("id", .text "SO-1"), ("lines", .list [.object [("sku", .text "A")]])]

/-- Without the prefetch the request is answered with the error of the field; with it the
parser of paths raises. -/
theorem pathless_lookup_raises :
    applyPrefetched sampleLibraries "'NoneType' object is not subscriptable" ⟨[], List.nodup_nil⟩
        pathlessDocument .salesOrders oneLinePayload [] ≠
      applyDirect sampleLibraries ⟨[], List.nodup_nil⟩ pathlessDocument .salesOrders
        oneLinePayload [] := by
  have hprefetched : applyPrefetched sampleLibraries "'NoneType' object is not subscriptable"
      ⟨[], List.nodup_nil⟩ pathlessDocument .salesOrders oneLinePayload [] =
      .error (.uncaught "'NoneType' object is not subscriptable") := rfl
  have hdirect : applyDirect sampleLibraries ⟨[], List.nodup_nil⟩ pathlessDocument
      .salesOrders oneLinePayload [] =
      .error (.valueError "field 'item_id': cross_system_lookup requires source_path") := rfl
  rw [hprefetched, hdirect]
  intro heq
  cases heq

end SentryWms.Inbound
