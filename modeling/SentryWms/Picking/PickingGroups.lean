import SentryWms.Core.Grouping

/-!
# Orders that ship together

The admin pages put the orders that go to one address into one box. The key of an order is a
plain join of the normalised fields of its address, with a postal code that is cut after its
five leading digits.
-/

namespace SentryWms.PickingGroups

open Grouping

abbrev Text : Type := List Char

/-! ## Text -/

/-- `\s`. -/
def isSpace (c : Char) : Bool :=
  let code := c.toNat
  (9 ≤ code && code ≤ 13) || (0x2000 ≤ code && code ≤ 0x200a) ||
    [0x20, 0xa0, 0x1680, 0x2028, 0x2029, 0x202f, 0x205f, 0x3000, 0xfeff].contains code

/-- `.replace(/\s+/g, ' ')`, in or outside a run of white space. -/
def collapseSpaces (inside : Bool) : Text → Text
  | [] => []
  | c :: rest =>
      if isSpace c then
        if inside then collapseSpaces true rest else ' ' :: collapseSpaces true rest
      else c :: collapseSpaces false rest

def trim (text : Text) : Text :=
  (text.dropWhile isSpace).rdropWhile isSpace

/-- `.replace(/[.,#]+$/, '')`. -/
def dropPunctuation (text : Text) : Text :=
  text.rdropWhile fun c => ['.', ',', '#'].contains c

def firstFilled (first second : Option Text) : Option Text :=
  (first.filter fun text => !text.isEmpty).or second

/-! ## The key of an order -/

/-- What the grouping reads of an order; `shipByDate` is the time of that date. -/
structure Order where
  shippingAddressName : Option Text
  customerName : Option Text
  shippingAddressLine1 : Option Text
  shippingAddressLine2 : Option Text
  shippingAddressCity : Option Text
  shippingAddressState : Option Text
  shippingAddressPostalCode : Option Text
  shipAddress : Option Text
  shipByDate : Option ℤ

variable (toLowerCase : Text → Text)

/-- Fold the common variants of one text. -/
def norm (value : Option Text) : Text :=
  trim (dropPunctuation (trim (collapseSpaces false (toLowerCase (value.getD [])))))

/-- `/^(\d{5})/` matches. -/
def fiveDigits (text : Text) : Bool :=
  decide (5 ≤ text.length) && (text.take 5).all Char.isDigit

def leadingFive (text : Text) : Text :=
  if fiveDigits text then text.take 5 else text

def zip5 (postal : Option Text) : Text :=
  leadingFive (norm toLowerCase postal)

def shippingGroupKey (order : Order) : Option Text :=
  let name := norm toLowerCase (firstFilled order.shippingAddressName order.customerName)
  let line1 := norm toLowerCase order.shippingAddressLine1
  if line1 ≠ [] then
    let postal := zip5 toLowerCase order.shippingAddressPostalCode
    if postal = [] then none
    else
      some (['|'].intercalate
        [name, line1, norm toLowerCase order.shippingAddressLine2,
          norm toLowerCase order.shippingAddressCity,
          norm toLowerCase order.shippingAddressState, postal])
  else
    let legacy := norm toLowerCase order.shipAddress
    if legacy ≠ [] then some ("legacy:".toList ++ name ++ ['|'] ++ legacy) else none

/-! ## The groups -/

structure Group where
  key : Text
  orders : List Order

/-- The earliest `ship_by_date` of a group. -/
def earliest (group : Group) : Option ℤ :=
  group.orders.foldl (fun best order =>
    match order.shipByDate, best with
    | none, best => best
    | some time, none => some time
    | some time, some best => if time < best then some time else some best) none

/-- The comparison that sorts the groups; no date comes last. -/
def compareUrgency : Option ℤ → Option ℤ → ℤ
  | none, none => 0
  | none, some _ => 1
  | some _, none => -1
  | some first, some second => first - second

/-- The groups of two or more, in the order of the map. -/
def unsortedGroups (orders : List Order) : List Group :=
  let byKey := groupBy (fun order =>
    (shippingGroupKey toLowerCase order).filter fun key => !key.isEmpty) orders
  byKey.filterMap fun entry =>
    if entry.2.length < 2 then none else some ⟨entry.1, entry.2⟩

def groupOrdersByAddress (orders : List Order) : List Group :=
  (unsortedGroups toLowerCase orders).mergeSort fun first second =>
    decide (compareUrgency (earliest first) (earliest second) ≤ 0)

/-! ## The person and place of an order -/

/-- Where an order goes, and to whom. -/
inductive Place where
  | address (name line1 line2 city state postal : Text)
  | legacy (name shipAddress : Text)
deriving DecidableEq

/-- Five digits, a hyphen and four digits. -/
def isZipPlus4 (text : Text) : Bool :=
  fiveDigits text && decide (text.length = 10) && (text.drop 5).head? == some '-' &&
    (text.drop 6).all Char.isDigit

/-- A ZIP+4 counts as its ZIP; any other code stands in full. -/
def postalCode (text : Text) : Text :=
  if isZipPlus4 text then text.take 5 else text

def place (order : Order) : Option Place :=
  let name := norm toLowerCase (firstFilled order.shippingAddressName order.customerName)
  let line1 := norm toLowerCase order.shippingAddressLine1
  let postal := norm toLowerCase order.shippingAddressPostalCode
  let legacy := norm toLowerCase order.shipAddress
  if line1 ≠ [] then
    if postal ≠ [] then
      some (.address name line1 (norm toLowerCase order.shippingAddressLine2)
        (norm toLowerCase order.shippingAddressCity)
        (norm toLowerCase order.shippingAddressState) (postalCode postal))
    else none
  else if legacy ≠ [] then some (.legacy name legacy)
  else none

/-- Both orders are groupable and go to one person and place. -/
def SamePlace (first second : Order) : Prop :=
  ∃ destination, place toLowerCase first = some destination ∧
    place toLowerCase second = some destination

/-- Two orders are in one group exactly when they go to one person and place; no order is in
two groups, every group has two or more orders in incoming order, and no two groups go to the
same person and place. -/
structure OneBoxPerPlace (orders : List Order) (groups : List Group) : Prop where
  together : ∀ first second, [first, second].Sublist orders →
    ((∃ group ∈ groups, [first, second].Sublist group.orders) ↔
      SamePlace toLowerCase first second)
  once : groups.Pairwise fun group other => group.orders.Disjoint other.orders
  incoming : ∀ group ∈ groups, group.orders.Sublist orders
  two : ∀ group ∈ groups, 2 ≤ group.orders.length
  apart : groups.Pairwise fun group other =>
    ∀ first ∈ group.orders, ∀ second ∈ other.orders, ¬ SamePlace toLowerCase first second

/-! ## Postal codes -/

theorem fiveDigits_take {text : Text} (hfive : fiveDigits text = true) :
    fiveDigits (text.take 5) = true := by
  rw [fiveDigits, Bool.and_eq_true, decide_eq_true_iff] at hfive ⊢
  rw [List.take_take, min_self, List.length_take]
  exact ⟨le_min le_rfl hfive.1, hfive.2⟩

theorem leadingFive_postalCode (text : Text) :
    leadingFive (postalCode text) = leadingFive text := by
  rw [postalCode]
  split
  · next hzip =>
      have hfive : fiveDigits text = true := by
        rw [isZipPlus4, Bool.and_eq_true, Bool.and_eq_true, Bool.and_eq_true] at hzip
        exact hzip.1.1.1
      rw [leadingFive, if_pos (fiveDigits_take hfive), leadingFive, if_pos hfive,
        List.take_take, min_self]
  · rfl

theorem leadingFive_eq_nil {text : Text} : leadingFive text = [] ↔ text = [] := by
  rw [leadingFive]
  split
  · next hfive =>
      rw [List.take_eq_nil_iff]
      constructor
      · rintro (hzero | hnil)
        · cases hzero
        · exact hnil
      · exact Or.inr
  · exact Iff.rfl

theorem leadingFive_eq_iff {postal postal' : Text} :
    leadingFive postal = leadingFive postal' ↔
      postal = postal' ∨
        (fiveDigits postal = true ∧ fiveDigits postal' = true ∧
          postal.take 5 = postal'.take 5) := by
  constructor
  · intro heq
    rw [leadingFive, leadingFive] at heq
    split at heq
    · next hfive =>
        split at heq
        · next hfive' => exact .inr ⟨hfive, hfive', heq⟩
        · next hother => exact absurd (heq ▸ fiveDigits_take hfive) hother
    · next hother =>
        split at heq
        · next hfive' => exact absurd (heq ▸ fiveDigits_take hfive') hother
        · exact .inl heq
  · rintro (rfl | ⟨hfive, hfive', hshared⟩)
    · rfl
    · rw [leadingFive, if_pos hfive, leadingFive, if_pos hfive', hshared]

/-! ## The key of a place -/

def Place.parts : Place → List Text
  | .address name line1 line2 city state postal =>
      [name, line1, line2, city, state, leadingFive postal]
  | .legacy name shipAddress => ["legacy:".toList ++ name, shipAddress]

def Place.key (destination : Place) : Text :=
  ['|'].intercalate destination.parts

theorem Place.key_ne_nil (destination : Place) : destination.key ≠ [] := by
  cases destination with
  | address name line1 line2 city state postal =>
      simp [Place.key, Place.parts, List.intercalate_cons_cons]
  | legacy name shipAddress =>
      simp [Place.key, Place.parts, List.intercalate_cons_cons]

theorem shippingGroupKey_eq (order : Order) :
    shippingGroupKey toLowerCase order = (place toLowerCase order).map Place.key := by
  rw [shippingGroupKey, place]
  dsimp only
  split
  · rw [zip5]
    by_cases hpostal : norm toLowerCase order.shippingAddressPostalCode = []
    · rw [if_pos (leadingFive_eq_nil.mpr hpostal), if_neg (not_not.mpr hpostal)]
      rfl
    · rw [if_neg (leadingFive_eq_nil.not.mpr hpostal), if_pos hpostal, Option.map_some,
        Place.key, Place.parts, leadingFive_postalCode]
  · split
    · rw [Option.map_some, Place.key, Place.parts, List.intercalate_cons_cons,
        List.intercalate_singleton]
    · rfl

def Place.pieces (destination : Place) : List Text :=
  destination.parts.flatMap fun part => part.splitOn '|'

theorem splitOn_intercalate_eq {part : Text} {parts : List Text} :
    (['|'].intercalate (part :: parts)).splitOn '|' =
      (part :: parts).flatMap fun part => part.splitOn '|' := by
  induction parts generalizing part with
  | nil => rw [List.intercalate_singleton, List.flatMap_singleton]
  | cons next parts ih =>
      rw [List.intercalate_cons_cons, List.append_assoc, List.singleton_append,
        List.splitOn_append_cons_self, ih, ← List.flatMap_cons]

theorem Place.splitOn_key (destination : Place) :
    destination.key.splitOn '|' = destination.pieces := by
  cases destination with
  | address name line1 line2 city state postal => exact splitOn_intercalate_eq
  | legacy name shipAddress => exact splitOn_intercalate_eq

/-- The texts of the two places differ, and give the same pieces when they are cut at every
bar. -/
def CutAlike (destination other : Place) : Prop :=
  destination.parts ≠ other.parts ∧ destination.pieces = other.pieces

/-- Two addresses agree but for postal codes which differ and begin with the same five
digits. -/
def ShareDigits : Place → Place → Prop
  | .address name line1 line2 city state postal,
      .address name' line1' line2' city' state' postal' =>
      (name = name' ∧ line1 = line1' ∧ line2 = line2' ∧ city = city' ∧ state = state') ∧
        postal ≠ postal' ∧ fiveDigits postal = true ∧ fiveDigits postal' = true ∧
          postal.take 5 = postal'.take 5
  | _, _ => False

variable {destination other : Place}

theorem Place.key_eq_iff_pieces :
    destination.key = other.key ↔ destination.pieces = other.pieces := by
  rw [← destination.splitOn_key, ← other.splitOn_key]
  constructor
  · exact congrArg (List.splitOn '|')
  · intro heq
    calc destination.key = ['|'].intercalate (destination.key.splitOn '|') :=
          (List.intercalate_splitOn '|').symm
      _ = ['|'].intercalate (other.key.splitOn '|') := congrArg _ heq
      _ = other.key := List.intercalate_splitOn '|'

theorem Place.parts_eq_iff :
    destination.parts = other.parts ↔
      destination = other ∨ ShareDigits destination other := by
  cases destination with
  | address name line1 line2 city state postal =>
      cases other with
      | address name' line1' line2' city' state' postal' =>
          by_cases hpostal : postal = postal'
          · simp [Place.parts, ShareDigits, hpostal]
          · simp [Place.parts, ShareDigits, hpostal, leadingFive_eq_iff, and_assoc]
      | legacy name' shipAddress' => simp [Place.parts, ShareDigits]
  | legacy name shipAddress =>
      cases other with
      | address name' line1' line2' city' state' postal' => simp [Place.parts, ShareDigits]
      | legacy name' shipAddress' => simp [Place.parts, ShareDigits]

/-- Two places have one key where they are one place, where their postal codes share the
leading digits, or where their texts give the same pieces. -/
theorem Place.key_eq_iff :
    destination.key = other.key ↔
      destination = other ∨ ShareDigits destination other ∨ CutAlike destination other := by
  rw [Place.key_eq_iff_pieces, ← or_assoc, ← Place.parts_eq_iff, CutAlike]
  constructor
  · intro hpieces
    by_cases hparts : destination.parts = other.parts
    · exact .inl hparts
    · exact .inr ⟨hparts, hpieces⟩
  · rintro (hparts | halike)
    · rw [Place.pieces, hparts, ← Place.pieces]
    · exact halike.2

/-! ## The groups of a list -/

def placeKey (order : Order) : Option Text :=
  (place toLowerCase order).map Place.key

theorem filter_shippingGroupKey :
    (fun order => (shippingGroupKey toLowerCase order).filter fun key => !key.isEmpty) =
      placeKey toLowerCase := by
  funext order
  rw [shippingGroupKey_eq, placeKey]
  cases place toLowerCase order with
  | none => rfl
  | some destination =>
      rw [Option.map_some, Option.filter_some, if_pos]
      rw [Bool.not_eq_true', List.isEmpty_eq_false_iff]
      exact destination.key_ne_nil

theorem unsortedGroups_eq (orders : List Order) :
    unsortedGroups toLowerCase orders =
      ((keysOf (placeKey toLowerCase) orders).filter fun key =>
        decide (2 ≤ (membersOf (placeKey toLowerCase) orders key).length)).map fun key =>
          ⟨key, membersOf (placeKey toLowerCase) orders key⟩ := by
  rw [unsortedGroups, filter_shippingGroupKey, groupBy_eq, List.filterMap_map,
    ← List.filterMap_eq_map, List.filterMap_filter]
  apply List.filterMap_congr
  intro key _
  by_cases htwo : 2 ≤ (membersOf (placeKey toLowerCase) orders key).length
  · rw [decide_eq_true htwo, if_pos rfl]
    exact if_neg (Nat.not_lt.mpr htwo)
  · rw [decide_eq_false htwo, if_neg Bool.false_ne_true]
    exact if_pos (Nat.lt_of_not_le htwo)

theorem groupOrdersByAddress_perm (orders : List Order) :
    (groupOrdersByAddress toLowerCase orders).Perm (unsortedGroups toLowerCase orders) :=
  List.mergeSort_perm _ _

variable {toLowerCase} {orders : List Order} {group : Group}

theorem mem_groupOrdersByAddress :
    group ∈ groupOrdersByAddress toLowerCase orders ↔
      group.orders = membersOf (placeKey toLowerCase) orders group.key ∧
        2 ≤ group.orders.length := by
  rw [(groupOrdersByAddress_perm toLowerCase orders).mem_iff, unsortedGroups_eq, List.mem_map]
  constructor
  · rintro ⟨key, hkey, rfl⟩
    rw [List.mem_filter, decide_eq_true_iff] at hkey
    exact ⟨rfl, hkey.2⟩
  · rintro ⟨horders, htwo⟩
    rw [horders] at htwo
    refine ⟨group.key, ?_, by rw [← horders]⟩
    rw [List.mem_filter, decide_eq_true_iff, mem_keysOf]
    obtain ⟨order, horder⟩ := List.exists_mem_of_length_pos (Nat.zero_lt_two.trans_le htwo)
    exact ⟨⟨order, mem_membersOf.mp horder⟩, htwo⟩

theorem distinct_keys (orders : List Order) :
    (groupOrdersByAddress toLowerCase orders).Pairwise fun group other =>
      group.key ≠ other.key := by
  rw [(groupOrdersByAddress_perm toLowerCase orders).pairwise_iff fun hne => hne.symm,
    unsortedGroups_eq, List.pairwise_map]
  exact (nodup_keysOf _ orders).filter _

theorem placeKey_of_mem (hgroup : group ∈ groupOrdersByAddress toLowerCase orders)
    {order : Order} (horder : order ∈ group.orders) :
    placeKey toLowerCase order = some group.key := by
  rw [(mem_groupOrdersByAddress.mp hgroup).1] at horder
  exact (mem_membersOf.mp horder).2

variable {first second : Order}

theorem grouped_iff_key (hpair : [first, second].Sublist orders) :
    (∃ group ∈ groupOrdersByAddress toLowerCase orders,
        [first, second].Sublist group.orders) ↔
      ∃ key, placeKey toLowerCase first = some key ∧
        placeKey toLowerCase second = some key := by
  constructor
  · rintro ⟨group, hgroup, hsub⟩
    have hmem := List.cons_subset.mp hsub.subset
    exact ⟨group.key, placeKey_of_mem hgroup hmem.1,
      placeKey_of_mem hgroup (List.cons_subset.mp hmem.2).1⟩
  · rintro ⟨key, hfirst, hsecond⟩
    have hsub : [first, second].Sublist (membersOf (placeKey toLowerCase) orders key) := by
      have hfilter := hpair.filter fun order => decide (placeKey toLowerCase order = some key)
      rw [List.filter_cons, hfirst, List.filter_cons, hsecond, decide_eq_true rfl] at hfilter
      exact hfilter
    exact ⟨⟨key, membersOf (placeKey toLowerCase) orders key⟩,
      mem_groupOrdersByAddress.mpr ⟨rfl, hsub.length_le⟩, hsub⟩

theorem SamePlace.key (hsame : SamePlace toLowerCase first second) :
    ∃ key, placeKey toLowerCase first = some key ∧ placeKey toLowerCase second = some key := by
  obtain ⟨destination, hfirst, hsecond⟩ := hsame
  refine ⟨destination.key, ?_, ?_⟩
  · rw [placeKey, hfirst, Option.map_some]
  · rw [placeKey, hsecond, Option.map_some]

theorem placeKey_eq_iff (hfirst : place toLowerCase first = some destination)
    (hsecond : place toLowerCase second = some other) :
    (∃ key, placeKey toLowerCase first = some key ∧ placeKey toLowerCase second = some key) ↔
      destination = other ∨ ShareDigits destination other ∨ CutAlike destination other := by
  rw [← Place.key_eq_iff]
  simp only [placeKey, hfirst, hsecond, Option.map_some, Option.some.injEq]
  constructor
  · rintro ⟨key, rfl, heq⟩
    exact heq.symm
  · intro heq
    exact ⟨destination.key, rfl, heq.symm⟩

theorem ShareDigits.ne (hshare : ShareDigits destination other) :
    destination ≠ other := by
  rintro rfl
  cases destination with
  | address name line1 line2 city state postal => exact hshare.2.1 rfl
  | legacy name shipAddress => exact hshare

theorem CutAlike.ne (halike : CutAlike destination other) :
    destination ≠ other := by
  rintro rfl
  exact halike.1 rfl

theorem apart_groups (orders : List Order) :
    (groupOrdersByAddress toLowerCase orders).Pairwise fun group other =>
      ∀ first ∈ group.orders, ∀ second ∈ other.orders,
        ¬ ∃ key, placeKey toLowerCase first = some key ∧
          placeKey toLowerCase second = some key := by
  apply (distinct_keys orders).imp_of_mem
  intro group other hgroup hother hne first hfirst second hsecond hkey
  obtain ⟨key, hkeyFirst, hkeySecond⟩ := hkey
  rw [placeKey_of_mem hgroup hfirst, Option.some.injEq] at hkeyFirst
  rw [placeKey_of_mem hother hsecond, Option.some.injEq] at hkeySecond
  exact hne (hkeyFirst.trans hkeySecond.symm)

/-- The orders are grouped by person and place exactly when no two of them go to different
places whose postal codes share their leading digits or whose texts give the same pieces. -/
theorem oneBoxPerPlace_iff (toLowerCase : Text → Text) (orders : List Order) :
    OneBoxPerPlace toLowerCase orders (groupOrdersByAddress toLowerCase orders) ↔
      ∀ first second, [first, second].Sublist orders → ∀ destination other,
        place toLowerCase first = some destination →
        place toLowerCase second = some other →
          ¬ ShareDigits destination other ∧ ¬ CutAlike destination other := by
  constructor
  · intro hbox first second hpair destination other hfirst hsecond
    have hone : ¬ (destination ≠ other ∧
        (ShareDigits destination other ∨ CutAlike destination other)) := by
      rintro ⟨hne, hmixed⟩
      have hkey := (placeKey_eq_iff hfirst hsecond).mpr (.inr hmixed)
      obtain ⟨same, hsame, hsame'⟩ :=
        (hbox.together first second hpair).mp ((grouped_iff_key hpair).mpr hkey)
      rw [hfirst, Option.some.injEq] at hsame
      rw [hsecond, Option.some.injEq] at hsame'
      exact hne (hsame.trans hsame'.symm)
    exact ⟨fun hshare => hone ⟨hshare.ne, .inl hshare⟩,
      fun halike => hone ⟨halike.ne, .inr halike⟩⟩
  · intro hplain
    refine ⟨?_, ?_, ?_, fun group hgroup => (mem_groupOrdersByAddress.mp hgroup).2, ?_⟩
    · intro first second hpair
      rw [grouped_iff_key hpair]
      constructor
      · rintro ⟨key, hfirst, hsecond⟩
        obtain ⟨destination, hplace, hkey⟩ := Option.map_eq_some_iff.mp hfirst
        obtain ⟨other, hplace', hkey'⟩ := Option.map_eq_some_iff.mp hsecond
        have hclear := hplain first second hpair destination other hplace hplace'
        have hsame : destination = other := by
          apply ((placeKey_eq_iff hplace hplace').mp ⟨key, hfirst, hsecond⟩).resolve_right
          rintro (hshare | halike)
          · exact hclear.1 hshare
          · exact hclear.2 halike
        exact ⟨destination, hplace, hsame ▸ hplace'⟩
      · exact SamePlace.key
    · apply (apart_groups orders).imp_of_mem
      intro group other hgroup hother hapart order horder horder'
      have hkey := placeKey_of_mem hgroup horder
      exact hapart order horder order horder' ⟨group.key, hkey, hkey⟩
    · intro group hgroup
      rw [(mem_groupOrdersByAddress.mp hgroup).1]
      exact List.filter_sublist
    · apply (apart_groups orders).imp
      intro group other hapart first hfirst second hsecond hsame
      exact hapart first hfirst second hsecond hsame.key

/-- An order to a door in the district of this postal code. -/
def orderTo (postal : Text) : Order where
  shippingAddressName := some ['R', 'a', 'o']
  customerName := none
  shippingAddressLine1 := some ['1', '2', ' ', 'M', 'G', ' ', 'R', 'd', '.']
  shippingAddressLine2 := none
  shippingAddressCity := none
  shippingAddressState := none
  shippingAddressPostalCode := some postal
  shipAddress := none
  shipByDate := none

/-- The orders to 560001 and to 560004 are put into one box. -/
theorem longPostalCodes_share_box :
    ¬ OneBoxPerPlace (List.map Char.toLower)
      [orderTo ['5', '6', '0', '0', '0', '1'], orderTo ['5', '6', '0', '0', '0', '4']]
      (groupOrdersByAddress (List.map Char.toLower)
        [orderTo ['5', '6', '0', '0', '0', '1'], orderTo ['5', '6', '0', '0', '0', '4']]) := by
  intro hbox
  have hkey : placeKey (List.map Char.toLower) (orderTo ['5', '6', '0', '0', '0', '1']) =
        some ['r', 'a', 'o', '|', '1', '2', ' ', 'm', 'g', ' ', 'r', 'd', '|', '|', '|', '|',
          '5', '6', '0', '0', '0'] ∧
      placeKey (List.map Char.toLower) (orderTo ['5', '6', '0', '0', '0', '4']) =
        some ['r', 'a', 'o', '|', '1', '2', ' ', 'm', 'g', ' ', 'r', 'd', '|', '|', '|', '|',
          '5', '6', '0', '0', '0'] := by
    decide +kernel
  have hplaces : place (List.map Char.toLower) (orderTo ['5', '6', '0', '0', '0', '1']) ≠
      place (List.map Char.toLower) (orderTo ['5', '6', '0', '0', '0', '4']) := by
    decide +kernel
  obtain ⟨destination, hfirst, hsecond⟩ :=
    (hbox.together _ _ (List.Sublist.refl _)).mp
      ((grouped_iff_key (List.Sublist.refl _)).mpr ⟨_, hkey⟩)
  exact hplaces (hfirst.trans hsecond.symm)

end SentryWms.PickingGroups
